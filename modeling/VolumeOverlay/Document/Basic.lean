import VolumeOverlay.KeyMap
import VolumeOverlay.Text.Decimal

/-!
# Documents

A document is what a JSON text or a configuration file denotes: a value built of texts, numbers,
lists and tables. Records are read from documents by the names of their members.

The members of a table keep their order and may repeat a name. A record refuses a repeated name that
it knows and skips every name that it does not know; a map lets the later member win.

## Main definitions

* `Document`: a value
* `Document.text?`, `bool?`, `int64?`, `nat64?`, `texts?`, `textMap?`: values of one kind
* `Document.members? names surplus`: a record whose members have these names, in this order
* `Members.required`, `Members.optional`: a member that must be there, or may be missing
* `Document.isSound depth`: whether a document denotes a value throughout, nested at most `depth` deep
-/

namespace VolumeOverlay

/-- A value of a JSON text or a configuration file.

`real` is a number that is not written as an integer; its value is never used. `broken` is
well-formed text that denotes no value: a text with half a surrogate pair, a table with such a name,
or a number beyond all floating point numbers. -/
inductive Document where
  | null
  | bool (b : Bool)
  | integer (n : Int)
  | real
  | broken
  | text (s : String)
  | list (items : List Document)
  | table (members : List (String × Document))
  deriving Inhabited

namespace Document

/-! ### Values of one kind -/

/-- The text that a document is. -/
def text? : Document → Option String
  | .text s => some s
  | _ => none

/-- The truth value that a document is. -/
def bool? : Document → Option Bool
  | .bool b => some b
  | _ => none

/-- The signed 64-bit integer that a document is. -/
def int64? : Document → Option Int64
  | .integer n => Text.Decimal.toInt64? n
  | _ => none

/-- The unsigned 64-bit integer that a document is. -/
def nat64? : Document → Option UInt64
  | .integer (.ofNat n) => if n < UInt64.size then some (.ofNat n) else none
  | _ => none

/-- The items of a list, each read alike. -/
def listOf? {α : Type} (read : Document → Option α) : Document → Option (List α)
  | .list items => items.mapM read
  | _ => none

/-- The texts of a list. -/
def texts? : Document → Option (List String) :=
  listOf? text?

/-- A member whose value is a text. -/
def namedText? (m : String × Document) : Option (String × String) :=
  m.2.text?.map fun s => (m.1, s)

/-- The texts of a table by their names; of two with one name the later wins. -/
def textMap? : Document → Option (KeyMap String)
  | .table members => (members.mapM namedText?).map KeyMap.ofList
  | _ => none

/-! ### Records -/

/-- The members of a record by name. -/
abbrev Members := List (String × Document)

/-- What becomes of the items of a list beyond the last member of the record that it is. -/
inductive Surplus where
  | refused
  | skipped
  deriving DecidableEq

/-- The members of a record with the given names. A table gives them in any order, each name at most
once, with others in between; a list gives the first ones in the order of the names. -/
def members? (names : List String) (surplus : Surplus) : Document → Option Members
  | .table members =>
    let known := members.filter fun m => names.contains m.1
    if (known.map (·.1)).Nodup then some known else none
  | .list items =>
    if surplus = .skipped ∨ items.length ≤ names.length then some (names.zip items) else none
  | _ => none

/-- A member that has to be there. -/
def Members.required {α : Type} (ms : Members) (name : String) (read : Document → Option α) :
    Option α :=
  match ms.lookup name with
  | some d => read d
  | none => none

/-- A member that has a default. -/
def Members.optional {α : Type} (ms : Members) (name : String) (read : Document → Option α)
    (default : α) : Option α :=
  match ms.lookup name with
  | some d => read d
  | none => some default

/-! ### Soundness -/

mutual

/-- Whether a document denotes a value throughout and nests at most `depth` lists and tables. -/
def isSound (depth : Nat) : Document → Bool
  | .broken => false
  | .list items => depth ≠ 0 && allSound (depth - 1) items
  | .table members => depth ≠ 0 && membersSound (depth - 1) members
  | _ => true

/-- `isSound` for every item of a list. -/
def allSound (depth : Nat) : List Document → Bool
  | [] => true
  | d :: ds => isSound depth d && allSound depth ds

/-- `isSound` for every member of a table. -/
def membersSound (depth : Nat) : List (String × Document) → Bool
  | [] => true
  | (_, d) :: ms => isSound depth d && membersSound depth ms

end

/-- Texts as a list. -/
def ofTexts (ss : List String) : Document :=
  .list (ss.map .text)

/-- A map of texts as a table, in key order. -/
def ofTextMap (m : KeyMap String) : Document :=
  .table (m.entries.map fun e => (e.1, .text e.2))

/-- A 64-bit integer. -/
def ofInt64 (n : Int64) : Document :=
  .integer n.toInt

end Document

end VolumeOverlay
