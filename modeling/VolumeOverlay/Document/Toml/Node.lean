import VolumeOverlay.Document.Basic
import VolumeOverlay.Document.Toml.Fault

/-!
# Nodes of a configuration file

What stands under the keys of a configuration file, and where. Tables come about in one of four ways:
in braces, by a header of their own, by a header of a table below them, or by a dotted key.

## Main definitions

* `Scalar`: a value without parts
* `Origin`: how a table came about
* `Node`, `Members`: a value, a list or a table; what a table holds
* `Node.toDocument`: the document that a node is
* `Node.extent?`: where a node stands
-/

namespace VolumeOverlay.Document.Toml

/-- A number that is no integer: `digits · 10 ^ exponent` with a sign, or one of the special ones. -/
inductive RealNumber where
  | finite (negative : Bool) (digits : List Char) (exponent : Int)
  | infinite (negative : Bool)
  | undefined
  deriving DecidableEq

/-- A value without parts. -/
inductive Scalar where
  | text (s : String)
  | integer (n : Int64)
  | real (r : RealNumber)
  | bool (b : Bool)
  | dateTime
  deriving DecidableEq

/-- The name of a kind of values. -/
def Scalar.kind : Scalar → String
  | .text _ => "string"
  | .integer _ => "integer"
  | .real _ => "float"
  | .bool _ => "boolean"
  | .dateTime => "datetime"

/-- How a table outside braces came about: by its header, by a header below it, or by a dotted key. -/
inductive Origin where
  | header
  | below
  | dotted
  deriving DecidableEq

/-- A key and where it stands. -/
structure Key where
  name : String
  extent : Extent
  deriving DecidableEq

/-- What stands under a key. A table has the extent of its header, if it has one; the elements of a
list of tables all have headers. -/
inductive Node where
  | scalar (s : Scalar) (extent : Extent)
  | list (items : List Node) (extent : Extent)
  | braces (members : List (Key × Node)) (extent : Extent)
  | table (origin : Origin) (members : List (Key × Node)) (header : Option Extent)
  | tables (elements : List (List (Key × Node) × Extent))

/-- What a table holds, in the order of its keys. -/
abbrev Members := List (Key × Node)

namespace Members

/-- The member with a name. -/
def find? (name : String) (ms : Members) : Option Node :=
  (List.find? (fun m => m.1.name == name) ms).map (·.2)

/-- The members without the one that has a name. -/
def without (name : String) (ms : Members) : Members :=
  ms.filter fun m => m.1.name != name

/-- Changes the member with a name. -/
def replace (name : String) (node : Node) (ms : Members) : Members :=
  ms.map fun m => if m.1.name = name then (m.1, node) else m

end Members

/-! ### Documents -/

/-- The document of a scalar. A date is a record without a member that anyone knows. -/
def Scalar.toDocument : Scalar → Document
  | .text s => .text s
  | .integer n => .integer n.toInt
  | .real _ => .real
  | .bool b => .bool b
  | .dateTime => .table []

mutual

/-- The document of a node. -/
def Node.toDocument : Node → Document
  | .scalar s _ => s.toDocument
  | .list items _ => .list (itemsToDocuments items)
  | .braces members _ => .table (membersToDocuments members)
  | .table _ members _ => .table (membersToDocuments members)
  | .tables elements => .list (elementsToDocuments elements)

/-- The documents of the items of a list. -/
def itemsToDocuments : List Node → List Document
  | [] => []
  | node :: nodes => node.toDocument :: itemsToDocuments nodes

/-- The documents of members. -/
def membersToDocuments : List (Key × Node) → List (String × Document)
  | [] => []
  | (key, node) :: ms => (key.name, node.toDocument) :: membersToDocuments ms

/-- The documents of the elements of a list of tables. -/
def elementsToDocuments : List (List (Key × Node) × Extent) → List Document
  | [] => []
  | (members, _) :: es => .table (membersToDocuments members) :: elementsToDocuments es

end

/-! ### Places -/

/-- What is left after the later of two places. -/
def later (a b : List Char) : List Char :=
  if b.length < a.length then b else a

mutual

/-- What is left after the last value that statements put into a table, starting from a place. Tables
with headers of their own do not count. -/
def lastStop (stop : List Char) : List (Key × Node) → List Char
  | [] => stop
  | (_, node) :: ms => lastStop (nodeStop stop node) ms

/-- `lastStop` for one node. -/
def nodeStop (stop : List Char) : Node → List Char
  | .scalar _ extent => later stop extent.stop
  | .list _ extent => later stop extent.stop
  | .braces _ extent => later stop extent.stop
  | .table .dotted members _ => lastStop stop members
  | .table _ _ _ => stop
  | .tables _ => stop

end

/-- Where a table with a header stands: from the header to its last value. -/
def tableExtent (members : Members) (header : Extent) : Extent :=
  { header with stop := lastStop header.stop members }

/-- Where a node stands. A table without a header stands nowhere. -/
def Node.extent? : Node → Option Extent
  | .scalar _ extent => some extent
  | .list _ extent => some extent
  | .braces _ extent => some extent
  | .table _ members header => header.map (tableExtent members)
  | .tables elements => do
    let (_, first) ← elements.head?
    let (members, last) ← elements.getLast?
    return { first with stop := (tableExtent members last).stop }

end VolumeOverlay.Document.Toml
