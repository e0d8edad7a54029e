import VolumeOverlay.Binary64.Shortest
import VolumeOverlay.Document.Toml.Node
import VolumeOverlay.Text.Quoted

/-!
# Shapes of settings

A file may be well-formed and still not hold the settings that are asked for. The shape of the settings
then tells what is wrong first: a value of another kind, or a member that is missing.

## Main definitions

* `Shape`: what a value has to look like
* `Mismatch`: what is wrong with a value, and where
* `Shape.mismatch?`: the first thing that is wrong with a node
-/

namespace VolumeOverlay.Document.Toml

/-- What a value has to look like. The members of a record have names, and some have to be there. A
list is a record that gives the first members in this order. -/
inductive Shape where
  | text
  | truth
  | natural
  | list (item : Shape)
  | record (name : String) (fields : List (String × Bool × Shape))

/-- What is wrong with a value, and where if it stands somewhere. -/
structure Mismatch where
  extent : Option Extent
  message : String

/-! ### Messages -/

/-- What is expected of a shape. -/
def Shape.description : Shape → String
  | .text => "a string"
  | .truth => "a boolean"
  | .natural => "u64"
  | .list _ => "a sequence"
  | .record name _ => "struct " ++ name

/-- The text of a number that is no integer. -/
def RealNumber.shown : RealNumber → String
  | .finite negative digits e => sign negative ++ .ofList (Binary64.shown digits e)
  | .infinite negative => sign negative ++ "inf"
  | .undefined => "NaN"
where
  /-- The sign of a negative number. -/
  sign (negative : Bool) : String := if negative then "-" else ""

/-- What a scalar is said to be. -/
def Scalar.description : Scalar → String
  | .text s => "string " ++ Text.quote s
  | .integer n => s!"integer `{n.toInt}`"
  | .real r => s!"floating point `{r.shown}`"
  | .bool b => s!"boolean `{b}`"
  | .dateTime => "map"

/-- A value of another kind. -/
def wrongKind (found : String) (shape : Shape) : String :=
  s!"invalid type: {found}, expected {shape.description}"

/-- A value out of bounds. -/
def outOfBounds (found : String) (shape : Shape) : String :=
  s!"invalid value: {found}, expected {shape.description}"

/-- A member that is missing. -/
def missingMember (name : String) : String :=
  s!"missing field `{name}`"

/-- A list that is too short. -/
def tooShort (length : Nat) (shape : Shape) (members : Nat) : String :=
  s!"invalid length {length}, expected {shape.description} with {members} " ++
    if members = 1 then "element" else "elements"

/-! ### Mismatches -/

/-- The first member that has to be there and is not among some names. -/
def missing? (fields : List (String × Bool × Shape)) (names : List String) : Option String :=
  (fields.find? fun f => f.2.1 && !names.contains f.1).map (·.1)

/-- What is wrong with a record in which some names are given. -/
def Shape.incomplete? (shape : Shape) (extent : Option Extent) (names : List String) :
    Option Mismatch :=
  match shape with
  | .record _ fields => (missing? fields names).map fun name => ⟨extent, missingMember name⟩
  | _ => some ⟨extent, wrongKind "map" shape⟩

/-- What is wrong with a record that a list of some length gives. -/
def Shape.short? (shape : Shape) (extent : Option Extent) (length : Nat) : Option Mismatch :=
  match shape with
  | .record _ fields =>
    (missing? (fields.drop length) []).map fun _ => ⟨extent, tooShort length shape fields.length⟩
  | .list _ => none
  | _ => some ⟨extent, wrongKind "sequence" shape⟩

/-- What is wrong with a scalar. -/
def Shape.scalarMismatch? (shape : Shape) (s : Scalar) (extent : Extent) : Option Mismatch :=
  match shape, s with
  | .text, .text _ => none
  | .truth, .bool _ => none
  | .natural, .integer n => if n < 0 then some ⟨extent, outOfBounds s.description shape⟩ else none
  | .record _ _, .dateTime => shape.incomplete? extent []
  | _, _ => some ⟨extent, wrongKind s.description shape⟩

/-- The shape of the member with a name, if it is known. -/
def Shape.member? (name : String) : Shape → Option Shape
  | .record _ fields => (fields.lookup name).map (·.2)
  | _ => none

/-- The shape of an item of a list, and the shape that the items after it are read by. -/
def Shape.item? : Shape → Option (Shape × Shape)
  | .list item => some (item, .list item)
  | .record name ((_, _, item) :: fields) => some (item, .record name fields)
  | _ => none

mutual

/-- What is wrong first with a node that has to look like some shape. -/
def Shape.mismatch? (shape : Shape) : Node → Option Mismatch
  | .scalar s extent => shape.scalarMismatch? s extent
  | .list items extent =>
    shape.itemsMismatch? items <|> shape.short? (some extent) items.length
  | .braces members extent =>
    shape.membersMismatch? members <|>
      shape.incomplete? (some extent) (members.map (·.1.name))
  | .table origin members header =>
    shape.membersMismatch? members <|>
      shape.incomplete? (Node.table origin members header).extent? (members.map (·.1.name))
  | .tables elements =>
    shape.elementsMismatch? elements <|>
      shape.short? (Node.tables elements).extent? elements.length

/-- What is wrong first with the items of a list. -/
def Shape.itemsMismatch? (shape : Shape) : List Node → Option Mismatch
  | [] => none
  | node :: nodes =>
    match shape.item? with
    | some (item, rest) => item.mismatch? node <|> rest.itemsMismatch? nodes
    | none => none

/-- What is wrong first with the members of a table. A value that stands nowhere counts for its key. -/
def Shape.membersMismatch? (shape : Shape) : List (Key × Node) → Option Mismatch
  | [] => none
  | (key, node) :: ms =>
    match (shape.member? key.name).bind fun member => member.mismatch? node with
    | some m => some { m with extent := m.extent <|> some key.extent }
    | none => shape.membersMismatch? ms

/-- What is wrong first with the elements of a list of tables. -/
def Shape.elementsMismatch? (shape : Shape) :
    List (List (Key × Node) × Extent) → Option Mismatch
  | [] => none
  | (members, header) :: es =>
    match shape.item? with
    | some (element, rest) =>
      (element.membersMismatch? members <|>
        element.incomplete? (some (tableExtent members header)) (members.map (·.1.name))) <|>
      rest.elementsMismatch? es
    | none => none

end

/-- What is wrong with the members of a file, as a message with an excerpt. -/
def Mismatch.report (m : Mismatch) (text : List Char) : String :=
  reportAt text (m.extent.getD ⟨text, text⟩) m.message

end VolumeOverlay.Document.Toml
