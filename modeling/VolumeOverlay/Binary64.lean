/-!
# Floating point

The numbers of documents that are no integers are floating point numbers with 53 significant bits.
Between two of them a number is rounded to the nearer one, and half way to the one that ends in a
zero bit.

## Main definitions

* `leastOverflow`: the least number that is rounded to infinity
* `roundDiv n d`: a rounded quotient
* `nearest n`: the floating point number that a whole number is rounded to
* `isInfinite digits exponent`: whether `digits · 10 ^ exponent` is rounded to infinity
-/

namespace VolumeOverlay.Binary64

/-- The number of significant bits. -/
def precision : Nat := 53

/-- The least number that is rounded to infinity: half a unit in the last place above the greatest
finite number. -/
def leastOverflow : Nat := Nat.pow 2 1024 - Nat.pow 2 970

/-- A quotient rounded to a whole number; a half goes to the even one. -/
def roundDiv (n d : Nat) : Nat :=
  let q := n / d
  let r := n % d
  if d < 2 * r ∨ (2 * r = d ∧ q % 2 = 1) then q + 1 else q

/-- A whole number rounded to as many significant bits as there are. -/
def nearest (n : Nat) : Nat :=
  let unit := Nat.pow 2 (n.log2 + 1 - precision)
  roundDiv n unit * unit

/-- Whether `digits · 10 ^ exponent` is rounded to infinity. -/
def isInfinite (digits : List Char) (exponent : Int) : Bool :=
  let significant := digits.dropWhile (· == '0')
  let magnitude : Int := significant.length + exponent
  -- The bounds keep the powers of ten below small.
  if significant = [] ∨ magnitude < 300 then false
  else if 310 < magnitude then true
  else
    let value := Nat.ofDigitChars 10 significant 0
    match exponent with
    | .ofNat e => leastOverflow ≤ value * Nat.pow 10 e
    | .negSucc e => leastOverflow * Nat.pow 10 (e + 1) ≤ value

/-- A whole number of few bits is exact. -/
theorem nearest_of_lt {n : Nat} (h : n.log2 < precision) : nearest n = n := by
  have hz : n.log2 + 1 - precision = 0 := by omega
  simp [nearest, hz, roundDiv, Nat.mod_one]

end VolumeOverlay.Binary64
