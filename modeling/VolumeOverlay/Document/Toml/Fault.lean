import VolumeOverlay.Text.Excerpt

/-!
# Faults of a configuration file

A file that is no configuration is refused with the place of the first fault and what is wrong there:
a construct that is not well-formed, what was expected instead, or a mistake in something that is.

## Main definitions

* `Construct`: the constructs that a fault may be in
* `Mistake`: what is wrong with something well-formed
* `Extent`: a stretch of a text
* `Fault`: what is wrong
* `Fault.report text extent`: a fault, with an excerpt
-/

namespace VolumeOverlay.Document.Toml

/-- The constructs that a fault may be in. -/
inductive Construct where
  | key
  | header
  | list
  | table
  | quotedText
  | literalText
  | longQuotedText
  | longLiteralText
  | escape
  | shortCodePoint
  | longCodePoint
  | text
  | integer
  | hexadecimal
  | octal
  | binary
  | real
  | dateTime
  | time
  | offset
  deriving DecidableEq

/-- The name of a construct. -/
def Construct.name : Construct → String
  | .key => "key"
  | .header => "table header"
  | .list => "array"
  | .table => "inline table"
  | .quotedText => "basic string"
  | .literalText => "literal string"
  | .longQuotedText => "multiline basic string"
  | .longLiteralText => "multiline literal string"
  | .escape => "escape sequence"
  | .shortCodePoint => "unicode 4-digit hex code"
  | .longCodePoint => "unicode 8-digit hex code"
  | .text => "string"
  | .integer => "integer"
  | .hexadecimal => "hexadecimal integer"
  | .octal => "octal integer"
  | .binary => "binary integer"
  | .real => "floating-point number"
  | .dateTime => "date-time"
  | .time => "time"
  | .offset => "time offset"

/-- What is wrong with something well-formed. A repeated key names the tables around it where the
whole path of the table is known. -/
inductive Mistake where
  | outOfRange
  | tooLarge
  | tooSmall
  | tooDeep
  | duplicateKey (key : String) (tables : Option (List String))
  | extendsValue (path : List String) (kind : String)
  deriving DecidableEq

/-- A path as a dotted key. -/
def dotted (path : List String) : String :=
  ".".intercalate path

/-- The text of a mistake. -/
def Mistake.message : Mistake → String
  | .outOfRange => "value is out of range"
  | .tooLarge => "number too large to fit in target type"
  | .tooSmall => "number too small to fit in target type"
  | .tooDeep => "recursion limit exceeded"
  | .duplicateKey key none => s!"duplicate key `{key}`"
  | .duplicateKey key (some []) => s!"duplicate key `{key}` in document root"
  | .duplicateKey key (some path) => s!"duplicate key `{key}` in table `{dotted path}`"
  | .extendsValue path kind =>
    s!"dotted key `{dotted path}` attempted to extend non-table type ({kind})"

/-- A stretch of a text: what is left of the text at its start, and what is left after it. -/
structure Extent where
  start : List Char
  stop : List Char
  deriving DecidableEq

/-- What is wrong: the innermost construct that is broken, what might stand there instead, and the
mistake that was found. -/
structure Fault where
  construct : Option Construct := none
  expected : List String := []
  mistake : Option Mistake := none
  deriving DecidableEq

namespace Fault

/-- The lines of a fault. -/
def lines (f : Fault) : List String :=
  (f.construct.map fun c => "invalid " ++ c.name).toList ++
    (if f.expected = [] then [] else ["expected " ++ ", ".intercalate f.expected]) ++
    (f.mistake.map Mistake.message).toList

/-- The text of a fault. -/
def message (f : Fault) : String :=
  "\n".intercalate f.lines

end Fault

/-- A message about a stretch of a file, with an excerpt. -/
def reportAt (text : List Char) (extent : Extent) (message : String) : String :=
  let position := text.length - extent.start.length
  let stretch := extent.start.take (extent.start.length - extent.stop.length)
  let place := Text.Place.of text position
  let title := s!"TOML parse error at line {place.line + 1}, column {place.column + 1}"
  .join <| ([title] ++ Text.excerpt place (Text.byteCount stretch) ++ [message]).map (· ++ "\n")

end VolumeOverlay.Document.Toml
