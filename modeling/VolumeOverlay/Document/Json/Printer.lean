import VolumeOverlay.Document.Basic

/-!
# Writing JSON

Documents are written in two ways: compact, without any blank, and pretty, with one item or member
per line and two spaces for each level. A text escapes the quote, the backslash and the control
characters, the latter in the shortest form that there is.

## Main definitions

* `writeText`: a text in quotes
* `Document.compact`, `Document.pretty`: the two forms of a document
-/

namespace VolumeOverlay.Document

namespace Json

/-- How a character is written inside a text. -/
def escapeChar (c : Char) : List Char :=
  match c with
  | '"' => ['\\', '"']
  | '\\' => ['\\', '\\']
  | '\x08' => ['\\', 'b']
  | '\x0c' => ['\\', 'f']
  | '\n' => ['\\', 'n']
  | '\r' => ['\\', 'r']
  | '\t' => ['\\', 't']
  | c =>
    if c < ' ' then
      ['\\', 'u', '0', '0', Nat.digitChar (c.toNat / 16), Nat.digitChar (c.toNat % 16)]
    else [c]

/-- A text in quotes. -/
def writeText (s : String) : List Char :=
  '"' :: s.toList.flatMap escapeChar ++ ['"']

mutual

/-- A document without blanks. What is no value of JSON is written as `null`. -/
def write : Document → List Char
  | .null => ['n', 'u', 'l', 'l']
  | .bool true => ['t', 'r', 'u', 'e']
  | .bool false => ['f', 'a', 'l', 's', 'e']
  | .integer n => Text.Decimal.ofInt n
  | .real => ['n', 'u', 'l', 'l']
  | .broken => ['n', 'u', 'l', 'l']
  | .text s => writeText s
  | .list items => '[' :: writeItems items ++ [']']
  | .table members => '{' :: writeMembers members ++ ['}']

/-- Items between commas. -/
def writeItems : List Document → List Char
  | [] => []
  | [d] => write d
  | d :: ds => write d ++ ',' :: writeItems ds

/-- Members between commas. -/
def writeMembers : List (String × Document) → List Char
  | [] => []
  | [(name, d)] => writeText name ++ ':' :: write d
  | (name, d) :: ms => writeText name ++ ':' :: write d ++ ',' :: writeMembers ms

end

/-- A line break and the indentation of a level. -/
def newline (level : Nat) : List Char :=
  '\n' :: List.replicate (2 * level) ' '

mutual

/-- A document whose brackets stand at a level of indentation. -/
def writePretty (level : Nat) : Document → List Char
  | .list [] => ['[', ']']
  | .list items => '[' :: prettyItems (level + 1) items ++ newline level ++ [']']
  | .table [] => ['{', '}']
  | .table members => '{' :: prettyMembers (level + 1) members ++ newline level ++ ['}']
  | .null => write .null
  | .bool b => write (.bool b)
  | .integer n => write (.integer n)
  | .real => write .real
  | .broken => write .broken
  | .text s => write (.text s)

/-- Items, each on a line of its own. -/
def prettyItems (level : Nat) : List Document → List Char
  | [] => []
  | [d] => newline level ++ writePretty level d
  | d :: ds => newline level ++ writePretty level d ++ ',' :: prettyItems level ds

/-- Members, each on a line of its own. -/
def prettyMembers (level : Nat) : List (String × Document) → List Char
  | [] => []
  | [(name, d)] => newline level ++ writeText name ++ [':', ' '] ++ writePretty level d
  | (name, d) :: ms =>
    newline level ++ writeText name ++ [':', ' '] ++ writePretty level d ++
      ',' :: prettyMembers level ms

end

end Json

/-- The JSON text of a document without blanks. -/
def compact (d : Document) : String :=
  .ofList (Json.write d)

/-- The JSON text of a document over several lines. -/
def pretty (d : Document) : String :=
  .ofList (Json.writePretty 0 d)

end VolumeOverlay.Document
