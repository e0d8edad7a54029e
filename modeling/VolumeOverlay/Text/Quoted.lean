import VolumeOverlay.Text.Printable

/-!
# Quoted texts for inspection

An id shown for inspection stands in double quotes, with escapes for the quote, the backslash and
every character that would not show.

## Main definitions

* `escape c`: how a character is written
* `quote s`: a text in double quotes
-/

namespace VolumeOverlay.Text

/-- `\u{..}` with the code point in hexadecimal, no leading zero. -/
def codePointEscape (c : Char) : List Char :=
  ['\\', 'u', '{'] ++ Nat.toDigits 16 c.toNat ++ ['}']

/-- How a character is written between double quotes. -/
def escape (c : Char) : List Char :=
  match c with
  | '\x00' => ['\\', '0']
  | '\t' => ['\\', 't']
  | '\r' => ['\\', 'r']
  | '\n' => ['\\', 'n']
  | '\\' => ['\\', '\\']
  | '"' => ['\\', '"']
  | c => if extendsGrapheme c || !isPrintable c then codePointEscape c else [c]

/-- A text in double quotes. -/
def quote (s : String) : String :=
  .ofList ('"' :: s.toList.flatMap escape ++ ['"'])

end VolumeOverlay.Text
