import VolumeOverlay.Document.Toml.Node
import VolumeOverlay.Document.Toml.Rule

/-!
# Tables of a configuration file

A configuration file builds one tree of tables, statement by statement. Only a table that so far exists
for those below it may still get its header, and a dotted key enters no table that has one.

## Main definitions

* `update`: changes the table at a path, making those on the way that are missing
* `putValue`: a value under a dotted key
* `putHeader`, `putListHeader`: the header of a table, and of a further element of a list of tables
-/

namespace VolumeOverlay.Document.Toml

/-! ### Keys in messages -/

/-- Characters of a key without quotes. -/
def isBareChar (c : Char) : Bool :=
  c.isAlphanum || c == '-' || c == '_'

/-- How a character of a key is written in double quotes. -/
def escapedKeyChar : Char → List Char
  | '\x08' => ['\\', 'b']
  | '\t' => ['\\', 't']
  | '\n' => ['\\', 'n']
  | '\x0c' => ['\\', 'f']
  | '\r' => ['\\', 'r']
  | '"' => ['\\', '"']
  | '\\' => ['\\', '\\']
  | c =>
    if isTextChar c then [c]
    else
      let code := (Nat.toDigits 16 c.toNat).map Char.toUpper
      ['\\', 'u'] ++ List.replicate (4 - code.length) '0' ++ code

/-- A key as it has to be written: bare if possible, else in double quotes without escapes, else in
single quotes, else in double quotes with escapes. -/
def writtenKey (name : String) : String :=
  let cs := name.toList
  if cs ≠ [] ∧ cs.all isBareChar then name
  else if cs.all isTextChar ∧ !cs.contains '\'' ∧ (cs.contains '"' ∨ cs.contains '\\') then
    .ofList ('\'' :: cs ++ ['\''])
  else .ofList ('"' :: cs.flatMap escapedKeyChar ++ ['"'])

/-! ### Paths -/

/-- Changes the table at a path below a table of some origin; `passed` are the names on the way. A path
leads through lists of tables by their last element, and through no value. Missing tables are made; a
dotted path enters no table with a header. Inside braces, tables in braces count as such. -/
def update (inBraces isDotted : Bool) (f : Origin → Members → Except Mistake Members)
    (passed : List String) : List Key → Origin → Members → Except Mistake Members
  | [], origin, ms => f origin ms
  | key :: path, _, ms =>
    let passed := passed ++ [key.name]
    match ms.find? key.name with
    | none => do
      let origin := if isDotted then Origin.dotted else Origin.below
      let child ← update inBraces isDotted f passed path origin []
      return ms ++ [(key, .table origin child none)]
    | some (.table origin members header) =>
      if isDotted ∧ origin = .header then .error (.duplicateKey key.name none)
      else do
        let child ← update inBraces isDotted f passed path origin members
        return ms.replace key.name (.table origin child header)
    | some (.tables elements) =>
      match elements.getLast? with
      | some (members, header) => do
        let child ← update inBraces isDotted f passed path .header members
        return ms.replace key.name (.tables (elements.dropLast ++ [(child, header)]))
      | none => .error (.extendsValue passed "array")
    | some (.braces _ _) =>
      if inBraces then .error (.duplicateKey key.name none)
      else .error (.extendsValue passed "inline table")
    | some (.list _ _) => .error (.extendsValue passed "array")
    | some (.scalar s _) => .error (.extendsValue passed s.kind)

/-! ### Statements -/

/-- A value under a dotted key of a table. The tables of the key have to come from dotted keys, and
the name must be new; `tables` is the path of the table, where it is known. -/
def putValue (inBraces : Bool) (tables : Option (List String)) (path : List Key) (key : Key)
    (node : Node) : Members → Except Mistake Members :=
  update inBraces true (fun origin ms =>
    -- Without a path the table is the one that a header opened; with one, dotted keys made it.
    if decide (origin = .dotted) == path.isEmpty then .error (.duplicateKey key.name none)
    else if (ms.find? key.name).isSome then .error (.duplicateKey key.name tables)
    else .ok (ms ++ [(key, node)])) [] path .header

/-- A value under a dotted key, in the table that the last header opened. -/
def putValueAt (header : List Key) (path : List Key) (key : Key) (node : Node) :
    Members → Except Mistake Members :=
  update false false (fun _ ms => putValue false (some (header.map (·.name))) path key node ms) []
    header .header

/-- A repeated header. -/
def repeatedHeader (path : List Key) (key : Key) : Mistake :=
  .duplicateKey (writtenKey key.name) (some (path.map (·.name)))

/-- The header of a table, which must not have one yet. The table counts from there on. -/
def putHeader (path : List Key) (key : Key) (extent : Extent) : Members → Except Mistake Members :=
  update false false (fun _ ms =>
    match ms.find? key.name with
    | none => .ok (ms ++ [(key, .table .header [] (some extent))])
    | some (.table .below members _) =>
      .ok (ms.without key.name ++ [(key, .table .header members (some extent))])
    | some _ => .error (repeatedHeader path key)) [] path .header

/-- The header of a further element of a list of tables. -/
def putListHeader (path : List Key) (key : Key) (extent : Extent) :
    Members → Except Mistake Members :=
  update false false (fun _ ms =>
    match ms.find? key.name with
    | none => .ok (ms ++ [(key, .tables [([], extent)])])
    | some (.tables elements) => .ok (ms.replace key.name (.tables (elements ++ [([], extent)])))
    | some _ => .error (repeatedHeader path key)) [] path .header

end VolumeOverlay.Document.Toml
