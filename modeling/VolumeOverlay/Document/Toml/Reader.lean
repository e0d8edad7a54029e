import VolumeOverlay.Document.Toml.Value

/-!
# Configuration files

What a configuration file in TOML denotes. A file is a sequence of lines: values under keys, headers
that open a table, headers that open a further element of a list of tables, comments.

## Main definitions

* `Contents`: the tables so far, and which one is open
* `statement`: a statement, and the contents after it
* `read`: the members of a whole file
* `Failure.report`: why a text is no configuration file
-/

namespace VolumeOverlay.Document.Toml

/-- The tables of a file so far, and the path of the open one. -/
structure Contents where
  members : Members := []
  header : List Key := []

/-! ### Headers -/

/-- A key between brackets, and the rest of its line. -/
def bracketed (opening closing : List Char) : Rule ((List Key × Key) × Extent) := do
  let header ← located do
    chars opening
    let path ← final keyPath
    expecting ["`.`", "`" ++ .ofList closing ++ "`"] (final (chars closing))
    return path
  final lineRest
  return header

/-- The header of a table. -/
def tableHeader (c : Contents) : Rule Contents :=
  checked (bracketed ['['] [']']) fun ((path, key), extent) => do
    return { members := ← putHeader path key extent c.members, header := path ++ [key] }

/-- The header of an element of a list of tables. -/
def listHeader (c : Contents) : Rule Contents :=
  checked (bracketed ['[', '['] [']', ']']) fun ((path, key), extent) => do
    return { members := ← putListHeader path key extent c.members, header := path ++ [key] }

/-- A header. -/
def header (c : Contents) : Rule Contents :=
  within .header do
    match ← remaining with
    | [] | [_] => fail
    | _ :: '[' :: _ => listHeader c
    | _ => tableHeader c

/-! ### Statements -/

/-- A value under a key. -/
def keyValue (c : Contents) : Rule Contents :=
  checked (assignment (value maxDepth) lineRest) fun (path, key, node) => do
    return { c with members := ← putValueAt c.header path key node c.members }

/-- A statement, or the end of an empty line. -/
def statement (c : Contents) : Rule Contents := do
  match ← remaining with
  | [] => fail
  | '#' :: _ => final do
    comment
    lineEnd
    return c
  | '[' :: _ => final (header c)
  | '\n' :: _ | '\r' :: _ =>
    lineBreak
    return c
  | _ => final (keyValue c)

/-- Statements, at most `n` of them. -/
def statements (c : Contents) : Nat → Rule Contents
  | 0 => return c
  | n + 1 => do
    match ← attempt (statement c) with
    | some c => do spaces; statements c n
    | none => return c

/-- A file. A byte order mark in front does not count. -/
def file : Rule Members := do
  let _ ← attempt (char '\uFEFF')
  spaces
  let c ← statements {} (← remaining).length
  atEnd
  return c.members

/-- The members of the table that a file is. -/
def read (text : List Char) : Except Failure Members :=
  (file text).map (·.1)

/-- Why a text is no configuration file. -/
def Failure.report (f : Failure) (text : List Char) : String :=
  reportAt text { start := f.rest, stop := f.rest.drop 1 } f.fault.message

end VolumeOverlay.Document.Toml
