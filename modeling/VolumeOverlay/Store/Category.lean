import VolumeOverlay.Text.Case

/-!
# Categories of overlay data

Overlay data falls into four categories, each of which owns one subtree of the key space.

## Main definitions

* `Category`: the four categories; `Category.segment` is the path segment of each
* `Category.index`: the category that decides whether a volume is registered
* `Category.parse? s`: the category that a name stands for, in upper or lower case
-/

namespace VolumeOverlay

/-- A category of overlay data: mirrored provider fields, the bookkeeping of registered volumes,
labels set by administrators, and fields of snapshots. -/
inductive Category where
  | externalFields
  | internalLabels
  | adminLabels
  | snapshot
  deriving DecidableEq, Inhabited

namespace Category

/-- Every category, in the order in which a store sets them up. -/
def all : List Category :=
  [.externalFields, .internalLabels, .adminLabels, .snapshot]

/-- The categories of volume data, in the order in which a record is removed. -/
def ofVolumes : List Category :=
  [.externalFields, .internalLabels, .adminLabels]

/-- The category that decides whether a volume is registered. -/
def index : Category := .internalLabels

/-- The path segment of a category. -/
def segment : Category → String
  | .externalFields => "volumelibstorage"
  | .internalLabels => "volumeinternallabels"
  | .adminLabels => "volumeadmin"
  | .snapshot => "snapshot"

/-- The names that stand for a category. -/
def names : Category → List String
  | .externalFields => ["volumelibstorage", "fields"]
  | .internalLabels => ["volumeinternallabels", "internal"]
  | .adminLabels => ["volumeadmin", "admin", "labels"]
  | .snapshot => ["snapshot", "snapshots"]

/-- The category that a name stands for. -/
def parse? (s : String) : Option Category :=
  all.find? fun c => c.names.contains (Text.asciiLower s)

theorem parse?_segment (c : Category) : parse? c.segment = some c := by
  cases c <;> rfl

/-- The complaint about a name that stands for no category. -/
def unknownMessage (s : String) : String :=
  s!"unknown category: {s}"

end Category

end VolumeOverlay
