/-!
# UTF-8

Stored values are bytes. A text is stored as its UTF-8 form, and bytes are shown as text by a
decoder that replaces every maximal ill-formed part by U+FFFD.

## Main definitions

* `encode s`: the bytes of a text
* `step`: the decoder reads one byte; it stands between characters or inside one
* `decode bs`: the characters of `bs`, with `none` for each ill-formed part
* `decode? bs`, `decodeLossy bs`: the text, refused or repaired where it is ill-formed
-/

namespace VolumeOverlay

/-- What is stored under a key. -/
abbrev Bytes := List UInt8

namespace Text.Utf8

/-- The UTF-8 form of a text. -/
def encode (s : String) : Bytes :=
  s.toList.flatMap String.utf8EncodeChar

/-- A character begun but not finished: the bits read so far, how many bytes are owed, and the range
of the next one. Only the byte after the first has a range narrower than `0x80`–`0xBF`, which keeps
out overlong forms, surrogates and code points above `0x10FFFF`. -/
structure Pending where
  bits : Nat
  owed : Nat
  low : Nat := 0x80
  high : Nat := 0xBF

/-- What the decoder reports: a character, or an ill-formed part. -/
abbrev Report := List (Option Char)

/-- The first byte of a character. -/
def start (b : Nat) : Report × Option Pending :=
  if b ≤ 0x7F then ([some (.ofNat b)], none)
  else if 0xC2 ≤ b ∧ b ≤ 0xDF then ([], some ⟨b - 0xC0, 1, 0x80, 0xBF⟩)
  else if b = 0xE0 then ([], some ⟨0, 2, 0xA0, 0xBF⟩)
  else if b = 0xED then ([], some ⟨0xD, 2, 0x80, 0x9F⟩)
  else if 0xE1 ≤ b ∧ b ≤ 0xEF then ([], some ⟨b - 0xE0, 2, 0x80, 0xBF⟩)
  else if b = 0xF0 then ([], some ⟨0, 3, 0x90, 0xBF⟩)
  else if 0xF1 ≤ b ∧ b ≤ 0xF3 then ([], some ⟨b - 0xF0, 3, 0x80, 0xBF⟩)
  else if b = 0xF4 then ([], some ⟨4, 3, 0x80, 0x8F⟩)
  else ([none], none)

/-- One byte. A byte that cannot continue a character ends the ill-formed part before it and is
then read as a first byte. -/
def step : Option Pending → Nat → Report × Option Pending
  | none, b => start b
  | some p, b =>
    if p.low ≤ b ∧ b ≤ p.high then
      let bits := p.bits * 64 + (b - 0x80)
      if p.owed = 1 then ([some (.ofNat bits)], none)
      else ([], some ⟨bits, p.owed - 1, 0x80, 0xBF⟩)
    else
      let (report, next) := start b
      (none :: report, next)

/-- The decoder from a given standing; bytes owed at the end are an ill-formed part. -/
def decodeFrom : Option Pending → Bytes → Report
  | none, [] => []
  | some _, [] => [none]
  | p, b :: bs => (step p b.toNat).1 ++ decodeFrom (step p b.toNat).2 bs

/-- The characters of a byte sequence, with `none` for each maximal ill-formed part. -/
def decode (bs : Bytes) : Report :=
  decodeFrom none bs

/-- The text of well-formed bytes. -/
def decode? (bs : Bytes) : Option String :=
  ((decode bs).mapM id).map String.ofList

/-- The text of any bytes, each ill-formed part replaced by U+FFFD. -/
def decodeLossy (bs : Bytes) : String :=
  .ofList ((decode bs).map (·.getD '\uFFFD'))

end Text.Utf8

end VolumeOverlay
