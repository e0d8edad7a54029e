import VolumeOverlay.Binary64
import VolumeOverlay.Text.Decimal

/-!
# Shortest decimals

A floating point number is shown by the decimal number with the fewest digits that is rounded to it;
of several the nearest. It is written without an exponent, and with a decimal point.

## Main definitions

* `ofRatio`: the floating point number that a quotient is rounded to
* `shortest`: the shortest decimal that is rounded to a floating point number
* `shown`: a decimal number as text, after rounding
-/

namespace VolumeOverlay.Binary64

/-- The least exponent of two: the unit of the smallest floating point numbers. -/
def leastExponent : Int := -1074

/-- The numerator and denominator of `(n / d) / base ^ e`. -/
def scaled (base n d : Nat) : Int → Nat × Nat
  | .ofNat e => (n, d * Nat.pow base e)
  | .negSucc e => (n * Nat.pow base (e + 1), d)

/-- The floating point number nearest to `n / d`: `(m, q)` stands for `m · 2 ^ q`. -/
def ofRatio (n d : Nat) : Nat × Int :=
  -- The quotient lies between 2 ^ (guess - 1) and 2 ^ (guess + 1).
  let guess : Int := (n.log2 : Int) - d.log2
  let (a, b) := scaled 2 n d guess
  let leading := if b ≤ a then guess else guess - 1
  let q := max (leading - (precision - 1)) leastExponent
  let (a, b) := scaled 2 n d q
  let m := roundDiv a b
  if m = Nat.pow 2 precision then (Nat.pow 2 (precision - 1), q + 1) else (m, q)

/-- Whether `c · 10 ^ p` is rounded to `m · 2 ^ q`: it lies no further away than half way to the
neighbours, and half way only if `m` is even. Below a power of two the neighbour is nearer. -/
def roundsTo (m : Nat) (q : Int) (c : Nat) (p : Int) : Bool :=
  let (a, b) := scaled 10 c 1 (-p)
  -- The comparison is in quarters of the unit 2 ^ q.
  let (a, b) := scaled 2 a b (q - 2)
  let below := if m = Nat.pow 2 (precision - 1) ∧ leastExponent < q then 1 else 2
  let low := (4 * m - below) * b
  let high := (4 * m + 2) * b
  if m % 2 = 0 then low ≤ a && a ≤ high else low < a && a < high

/-- The multiple of `10 ^ p` nearest to `m · 2 ^ q`, if it is rounded to that. -/
def onGrid? (m : Nat) (q p : Int) : Option (Nat × Int) :=
  let (a, b) := scaled 2 m 1 (-q)
  let (a, b) := scaled 10 a b p
  let c := roundDiv a b
  let other := if c * b ≤ a then c + 1 else c - 1
  if roundsTo m q c p then some (c, p) else if roundsTo m q other p then some (other, p) else none

/-- The shortest decimal `c · 10 ^ p` that is rounded to `m · 2 ^ q`: the one on the coarsest grid of
decimals, from `10 ^ p` on downward. -/
def shortest (m : Nat) (q p : Int) : Nat → Nat × Int
  | 0 => (0, 0)
  | n + 1 => (onGrid? m q p).getD (shortest m q (p - 1) n)

/-- The digits of `c · 10 ^ p` with a decimal point. -/
def positional (c : Nat) (p : Int) : List Char :=
  let digits := Text.Decimal.digits c
  match p with
  | .ofNat p => digits ++ List.replicate p '0' ++ ['.', '0']
  | .negSucc p =>
    let padded := Text.Decimal.zeroPadded (p + 2) c
    let whole := padded.length - (p + 1)
    padded.take whole ++ ['.'] ++ padded.drop whole

/-- The greatest power of ten of a grid, and how many finer grids there are. -/
def coarsestGrid : Nat := 309

/-- The number of grids that have to be tried. -/
def gridCount : Nat := 700

/-- `digits · 10 ^ exponent` as text, after it is rounded to a floating point number. -/
def shown (digits : List Char) (exponent : Int) : List Char :=
  let significant := digits.dropWhile (· == '0')
  let magnitude : Int := significant.length + exponent
  if isInfinite digits exponent then ['i', 'n', 'f']
  else if significant = [] ∨ magnitude < -330 then ['0', '.', '0']
  else
    let (n, d) := scaled 10 (Nat.ofDigitChars 10 significant 0) 1 (-exponent)
    let (m, q) := ofRatio n d
    if m = 0 then ['0', '.', '0']
    else
      let (c, p) := shortest m q coarsestGrid gridCount
      positional c p

end VolumeOverlay.Binary64
