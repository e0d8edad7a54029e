import VolumeOverlay.KeyMap

/-!
# Labels

A label is written `key=value`. The first `=` separates, the key is not empty, the value may be.

## Main definitions

* `parseLabel s`: key and value of a written label
* `labelMap ss`: the labels among some texts; of two with one key the later wins
* `TextOrder`: an order in which the texts of a map are visited
-/

namespace VolumeOverlay

/-- Labels and provider fields: texts by name. -/
abbrev LabelMap := KeyMap String

/-- An order in which the texts of a map are visited. A hash map fixes none, so an operation that
goes through one is told the order; each text comes just once in it. -/
structure TextOrder where
  list : LabelMap → List (String × String)
  perm : ∀ texts, (list texts).Perm texts.toList

namespace TextOrder

/-- The order of the keys. -/
def ascending : TextOrder where
  list := KeyMap.toList
  perm _ := .refl _

instance : Inhabited TextOrder := ⟨ascending⟩

/-- The names of some texts, in the order in which the texts are visited. -/
def names (order : TextOrder) (texts : LabelMap) : List String :=
  (order.list texts).map (·.1)

end TextOrder

/-- Key and value of a label `key=value`. -/
def parseLabel (s : String) : Option (String × String) :=
  match Text.cutFirst '=' s with
  | some (key, value) => if key = "" then none else some (key, value)
  | none => none

/-- The labels among some texts. -/
def labelMap (ss : List String) : LabelMap :=
  .ofList (ss.filterMap parseLabel)

end VolumeOverlay
