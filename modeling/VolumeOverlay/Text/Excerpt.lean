import VolumeOverlay.Text.Decimal

/-!
# Excerpts

A stretch of a text is shown by the line that it begins on, with its number in front and marks below
the stretch.

## Main definitions

* `Place.of text position`: the line and column of a position, and the characters of its line
* `excerpt place width`: a line with marks below it
-/

namespace VolumeOverlay.Text

/-- A position of a text: lines and columns are counted from zero. -/
structure Place where
  line : Nat
  column : Nat
  content : List Char

/-- The number of bytes that characters take. -/
def byteCount (cs : List Char) : Nat :=
  cs.foldl (fun n c => n + c.utf8Size) 0

/-- The place of a position. The end of the text lies one column after its last character, even if
that is a line break. Columns count characters, but bytes in front of a character of several bytes. -/
def Place.of (text : List Char) (position : Nat) : Place :=
  let index := min position (text.length - 1)
  let before := text.take index
  let sameLine := (before.reverse.takeWhile (· != '\n')).reverse
  let after := text.drop position
  let wide : Bool := match after with
    | c :: _ => 1 < c.utf8Size
    | [] => false
  { line := before.count '\n'
    column := if wide then byteCount sameLine else sameLine.length + (position - index)
    content := sameLine ++ (text.drop index).takeWhile (· != '\n') }

/-- Some spaces. -/
def blanks (n : Nat) : String :=
  .ofList (List.replicate n ' ')

/-- The line of a place, and marks below a stretch of `width` bytes that begins there. The marks end
with the line, but there is at least one. -/
def excerpt (place : Place) (width : Nat) : List String :=
  let number := String.ofList (Decimal.digits (place.line + 1))
  let margin := blanks (number.length + 1) ++ "|"
  let marks := max 1 (min width (byteCount place.content - place.column))
  [margin, number ++ " | " ++ .ofList place.content,
    margin ++ blanks (place.column + 1) ++ .ofList (List.replicate marks '^')]

end VolumeOverlay.Text
