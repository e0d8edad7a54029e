import VolumeOverlay.Binary64
import VolumeOverlay.Document.Json.Reader
import VolumeOverlay.Document.Toml.DateTime
import VolumeOverlay.Document.Toml.Node

/-!
# Numbers of a configuration file

Numbers may group their digits with single underscores. Integers have to fit 64 bits; they may be
written in base 16, 8 and 2, but then without a sign. A positive number that is no integer must not be
beyond all floating point numbers.

## Main definitions

* `integer`: an integer in any base
* `real`: a number with a fraction or an exponent, or a special one
* `number`: a date, a time or a number
-/

namespace VolumeOverlay.Document.Toml

/-! ### Digits -/

/-- A digit after the first; an underscore may stand in front of it. -/
def nextDigit (isDigit : Char → Bool) : Rule Char :=
  (charIf isDigit).or do
    let _ ← char '_'
    final (expecting ["digit"] (charIf isDigit))

/-- Digits after the first. -/
def nextDigits (isDigit : Char → Bool) : Rule (List Char) := do
  many (nextDigit isDigit) (← remaining).length

/-- One or more digits. -/
def digitRun (isDigit : Char → Bool) : Rule (List Char) := do
  let first ← charIf isDigit
  return first :: (← nextDigits isDigit)

/-- Whether a number has a minus in front. -/
def sign : Rule Bool := do
  let c ← attempt (charIf fun c => c == '+' || c == '-')
  return c == some '-'

/-- A sign, and digits that begin with a zero only if that is the only one. -/
def decimalDigits : Rule (Bool × List Char) :=
  within .integer do
    let negative ← sign
    let digits ← Rule.or
      (do
        let first ← charIf fun c => c.isDigit && c != '0'
        return first :: (← nextDigits Char.isDigit))
      (List.singleton <$> charIf Char.isDigit)
    return (negative, digits)

/-! ### Integers -/

/-- An integer of 64 bits. -/
def integer64 (n : Int) : Except Mistake Int64 :=
  match Text.Decimal.toInt64? n with
  | some n => .ok n
  | none => .error (if n < 0 then .tooSmall else .tooLarge)

/-- An integer in base ten. -/
def decimalInteger : Rule Int64 := do
  let start ← remaining
  let (negative, digits) ← decimalDigits
  let n : Int := Nat.ofDigitChars 10 digits 0
  match integer64 (if negative then -n else n) with
  | .ok n => return n
  | .error mistake =>
    set start
    final (refuse mistake)

/-- An integer in another base, with a letter for the base in front. -/
def basedInteger (construct : Construct) (letter : Char) (base : Nat) : Rule Int64 :=
  let isDigit (c : Char) : Bool := (Json.hexDigit? c).any (· < base)
  let digits : Rule (List Char) := within construct do
    chars ['0', letter]
    final (digitRun isDigit)
  final <| checked digits fun digits =>
    integer64 (digits.foldl (fun n c => n * base + (Json.hexDigit? c).getD 0) 0 : Nat)

/-- An integer. -/
def integer : Rule Int64 := do
  match ← remaining with
  | '0' :: 'x' :: _ => basedInteger .hexadecimal 'x' 16
  | '0' :: 'o' :: _ => basedInteger .octal 'o' 8
  | '0' :: 'b' :: _ => basedInteger .binary 'b' 2
  | _ => decimalInteger

/-! ### Other numbers -/

/-- The digits of a fraction. -/
def fractionDigits : Rule (List Char) := do
  let _ ← char '.'
  final (expecting ["digit"] (digitRun Char.isDigit))

/-- An exponent. -/
def exponent : Rule Int := do
  let _ ← charIf fun c => c == 'e' || c == 'E'
  let negative ← sign
  let digits ← final (digitRun Char.isDigit)
  let n : Int := Nat.ofDigitChars 10 digits 0
  return if negative then -n else n

/-- A number with a fraction or an exponent. -/
def scientific : Rule RealNumber := do
  let (negative, whole) ← decimalDigits
  let (places, e) ← Rule.or
    (do return ([], ← exponent))
    (do
      let places ← fractionDigits
      return (places, (← attempt exponent).getD 0))
  return .finite negative (whole ++ places) (e - places.length)

/-- Whether a number is positive and beyond all floating point numbers. -/
def RealNumber.overflows : RealNumber → Bool
  | .finite false digits e => Binary64.isInfinite digits e
  | _ => false

/-- A number with a fraction or an exponent that does not overflow. -/
def boundedScientific : Rule RealNumber := do
  let start ← remaining
  let r ← scientific
  if r.overflows then
    set start
    final fail
  else return r

/-- Infinity. -/
def infinity (negative : Bool) : Rule RealNumber := do
  chars ['i', 'n', 'f']
  return .infinite negative

/-- The number that is none. -/
def undefinedNumber : Rule RealNumber := do
  chars ['n', 'a', 'n']
  return .undefined

/-- A special number, with a sign or without. -/
def specialNumber : Rule RealNumber := do
  let negative ← sign
  (infinity negative).or undefinedNumber

/-- A number that is no integer. -/
def real : Rule RealNumber :=
  within .real (boundedScientific.or specialNumber)

/-- A date, a time or a number. -/
def number : Rule Scalar :=
  (((fun _ => .dateTime) <$> dateTime).or (.real <$> real)).or (.integer <$> integer)

end VolumeOverlay.Document.Toml
