import VolumeOverlay.Document.Toml.Number
import VolumeOverlay.Document.Toml.Table
import VolumeOverlay.Document.Toml.Text

/-!
# Values of a configuration file

Keys, whose parts are separated by dots, and values: texts, numbers, dates, truth values, lists in
brackets and tables in braces. A list may go over several lines and end with a comma; a table in braces
may not.

## Main definitions

* `keyPath`: a key
* `assignment`: a key and its value
* `value depth`: a value that may nest another `depth` levels
-/

namespace VolumeOverlay.Document.Toml

/-- How deep keys and values may nest. -/
def maxDepth : Nat := 79

/-! ### Keys -/

/-- The characters of a part of a key. -/
def keyText : Rule (List Char) := do
  match ← remaining with
  | '"' :: _ => quotedText
  | '\'' :: _ => literalText
  | _ => someIf isBareChar

/-- A part of a key, with the spaces around it. -/
def keyPart : Rule Key := do
  spaces
  let (name, extent) ← located keyText
  spaces
  return { name := .ofList name, extent }

/-- A key: the parts before the last, and the last. -/
def keyPath : Rule (List Key × Key) :=
  let parts : Rule (Key × List Key) := within .key do
    let first ← keyPart
    return (first, ← many (do let _ ← char '.'; keyPart) (← remaining).length)
  checked parts fun (first, more) =>
    if more.length < maxDepth then
      .ok ((first :: more).dropLast, (first :: more).getLast (List.cons_ne_nil first more))
    else .error .tooDeep

/-- A key and its value, with what has to follow on the line. -/
def assignment (value : Rule Node) (after : Rule Unit) : Rule (List Key × Key × Node) := do
  let (path, key) ← keyPath
  final do
    let _ ← expecting ["`.`", "`=`"] (char '=')
    spaces
    let node ← value
    after
    return (path, key, node)

/-! ### Lists and tables -/

/-- An item of a list, with the space around it. -/
def listItem (value : Rule Node) : Rule Node := do
  blankSpace
  let node ← value
  blankSpace
  return node

/-- What stands between the brackets of a list. -/
def listItems (value : Rule Node) : Rule (List Node) := do
  let cs ← remaining
  if cs.head? = some ']' then return []
  else
    let items ← separated (char ',') (listItem value) cs.length
    let _ ← attempt (char ',')
    blankSpace
    return items

/-- A list of values. -/
def list (value : Rule Node) : Rule Node := do
  let (items, extent) ← located do
    let _ ← char '['
    let items ← final (listItems value)
    let _ ← within .list (expecting ["`]`"] (final (char ']')))
    return items
  return .list items extent

/-- What stands between the braces of a table. -/
def braceMembers (value : Rule Node) : Rule (List (List Key × Key × Node)) := do
  let members ← separated (char ',') (assignment value spaces) (← remaining).length
  spaces
  return members

/-- A table in braces. -/
def braces (value : Rule Node) : Rule Node := do
  let (members, extent) ← located do
    let _ ← char '{'
    let members ← checked (final (braceMembers value)) fun members =>
      members.foldlM (fun ms (path, key, node) => putValue true none path key node ms) []
    let _ ← within .table (expecting ["`\x7d`"] (final (char '}')))
    return members
  return .braces members extent

/-! ### Values -/

/-- A scalar and where it stands. -/
def scalar (p : Rule Scalar) : Rule Node :=
  (fun (s, extent) => .scalar s extent) <$> located p

/-- A word, which has to be there once its first letter is. Other words are taken for texts without
quotes. -/
def word (p : Rule Scalar) : Rule Node :=
  within .text (expecting ["`\"`", "`'`"] (scalar p))

/-- A truth value. -/
def truth (name : List Char) (b : Bool) : Rule Scalar := do
  final (chars name)
  return .bool b

/-- A value, given rules for those that nest values. -/
def valueOf (list braces : Rule Node) : Rule Node := do
  match ← remaining with
  | [] => fail
  | c :: _ =>
    if c = '"' ∨ c = '\'' then scalar ((fun cs => .text (.ofList cs)) <$> text)
    else if c = '[' then list
    else if c = '{' then braces
    else if c.isDigit ∨ c = '+' ∨ c = '-' then scalar number
    else if c = '_' then expecting ["leading digit"] (scalar (.integer <$> integer))
    else if c = '.' then expecting ["leading digit"] (scalar (.real <$> real))
    else if c = 't' then word (truth ['t', 'r', 'u', 'e'] true)
    else if c = 'f' then word (truth ['f', 'a', 'l', 's', 'e'] false)
    else if c = 'i' then word (.real <$> infinity false)
    else if c = 'n' then word (.real <$> undefinedNumber)
    else word fail

/-- A value that may nest another `depth` levels. -/
def value : Nat → Rule Node
  | 0 => valueOf (final (refuse .tooDeep)) (final (refuse .tooDeep))
  | depth + 1 => valueOf (list (value depth)) (braces (value depth))

end VolumeOverlay.Document.Toml
