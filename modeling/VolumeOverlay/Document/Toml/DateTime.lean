import VolumeOverlay.Document.Toml.Rule

/-!
# Dates and times of a configuration file

A date, a time of day, or a date and a time with or without an offset. They have to exist; what they
are is never used.

## Main definitions

* `date`, `timeOfDay`, `offset`: the parts
* `dateTime`: a date, a time, or both
-/

namespace VolumeOverlay.Document.Toml

/-- A number of exactly `n` digits. -/
def digitsOf (n : Nat) : Rule Nat := fun cs =>
  let digits := (cs.take n).takeWhile Char.isDigit
  if digits.length = n then .ok (Nat.ofDigitChars 10 digits 0, cs.drop n)
  else .error { rest := cs }

/-- A number of two digits within bounds. -/
def field (low high : Nat) : Rule Nat :=
  checked (digitsOf 2) fun n => if low ≤ n ∧ n ≤ high then .ok n else .error .outOfRange

/-- The number of days of a month in the proleptic Gregorian calendar. -/
def daysOfMonth (year month : Nat) : Nat :=
  if month = 2 then
    if year % 4 = 0 ∧ (year % 100 ≠ 0 ∨ year % 400 = 0) then 29 else 28
  else if month = 4 ∨ month = 6 ∨ month = 9 ∨ month = 11 then 30
  else 31

/-- A date. -/
def date : Rule Unit := do
  let year ← digitsOf 4
  let _ ← char '-'
  let month ← final (field 1 12)
  let _ ← final (char '-')
  let _ ← final (checked (field 1 31) fun day =>
    if day ≤ daysOfMonth year month then .ok day else .error .outOfRange)

/-- A fraction of a second. -/
def fraction : Rule Unit := do
  let _ ← char '.'
  let _ ← someIf Char.isDigit

/-- A time of day. -/
def timeOfDay : Rule Unit := do
  let _ ← field 0 23
  let _ ← char ':'
  final do
    let _ ← field 0 59
    let _ ← char ':'
    let _ ← field 0 60
    let _ ← attempt fraction

/-- An offset from universal time. -/
def offset : Rule Unit :=
  within .offset <| Rule.or
    (do let _ ← charIf fun c => c == 'Z' || c == 'z')
    (do
      let _ ← charIf fun c => c == '+' || c == '-'
      final do
        let _ ← field 0 23
        let _ ← char ':'
        let _ ← field 0 59)

/-- A time of day after a date. -/
def timeAfterDate : Rule Unit := do
  let _ ← charIf fun c => c == 'T' || c == 't' || c == ' '
  timeOfDay
  let _ ← attempt offset

/-- A date, a time, or both. -/
def dateTime : Rule Unit :=
  Rule.or
    (within .dateTime do
      date
      let _ ← attempt timeAfterDate)
    (within .time timeOfDay)

end VolumeOverlay.Document.Toml
