/-!
# Decimal numbers

Sizes and rates are 64-bit integers written in decimal. Reading takes an optional single sign and
one or more ASCII digits, and refuses what does not fit.

## Main definitions

* `digits n`, `ofInt n`: the decimal form of a number
* `zeroPadded w n`: the same with leading zeros, at least `w` digits
* `digitsValue? cs`: the number that one or more digits denote
* `int64? s`: the 64-bit integer that a text denotes
-/

namespace VolumeOverlay.Text.Decimal

/-- The decimal digits of a number, with no leading zero. -/
def digits (n : Nat) : List Char :=
  Nat.toDigits 10 n

/-- The decimal form of an integer. -/
def ofInt : Int → List Char
  | .ofNat n => digits n
  | .negSucc n => '-' :: digits (n + 1)

/-- The decimal digits of a number, with zeros in front up to `width` digits. -/
def zeroPadded (width n : Nat) : List Char :=
  List.replicate (width - (digits n).length) '0' ++ digits n

/-- The number denoted by a nonempty run of ASCII digits. -/
def digitsValue? (cs : List Char) : Option Nat :=
  if cs ≠ [] ∧ cs.all Char.isDigit then some (Nat.ofDigitChars 10 cs 0) else none

/-- The 64-bit integer equal to `n`, if there is one. -/
def toInt64? (n : Int) : Option Int64 :=
  if Int64.minValue.toInt ≤ n ∧ n ≤ Int64.maxValue.toInt then some (.ofInt n) else none

/-- The integer denoted by an optional sign and digits. -/
def int? : List Char → Option Int
  | '+' :: cs => (digitsValue? cs).map Int.ofNat
  | '-' :: cs => (digitsValue? cs).map fun n => -Int.ofNat n
  | cs => (digitsValue? cs).map Int.ofNat

/-- The 64-bit integer denoted by an optional sign and digits. -/
def int64? (s : String) : Option Int64 :=
  (int? s.toList).bind toInt64?

theorem toInt64?_toInt (n : Int64) : toInt64? n.toInt = some n := by
  rw [toInt64?, if_pos ⟨Int64.minValue_le_toInt n, Int64.toInt_le n⟩, Int64.ofInt_toInt]

end VolumeOverlay.Text.Decimal
