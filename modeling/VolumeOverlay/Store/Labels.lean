import VolumeOverlay.Label
import VolumeOverlay.Store.Basic

/-!
# Labels of an object

The texts of an object are stored one to a leaf of its subtree, beside a marker at the subtree's own
key. Saving makes the subtree hold exactly the given texts: leaves that are no longer wanted are
deleted, and every wanted one is written.

## Main definitions

* `Store.saveTexts category id texts`: makes the leaves of an object those of `texts`
* `Store.loadTexts category id`: the leaves of an object
-/

namespace VolumeOverlay.Store

variable {σ : Type} [FaultSource σ]

/-- Refuses the names that cannot be leaves. -/
def checkLeaves (names : List String) : Except StoreError Unit :=
  names.forM checkLeaf

/-- Whether a key is a leaf whose name is not wanted. Keys without a leaf stay. -/
def isStale (wanted : List String) (key : String) : Bool :=
  match leafOf key with
  | .ok leaf => leaf ≠ "" && !wanted.contains leaf
  | .error _ => false

/-- Makes the leaves of an object those of `texts`, which are written in the given order. Nothing is
written when a name cannot be a leaf. -/
def saveTexts (store : Store) (category : Category) (id : String)
    (texts : List (String × String)) : StoreM σ Unit := do
  let wanted := texts.map (·.1)
  checkLeaves wanted
  let key ← store.layout.objectKey category id
  StoreM.put key []
  let current ← StoreM.list key
  (current.map (·.1)).forM fun k => if isStale wanted k then StoreM.delete k else pure ()
  texts.forM fun (leaf, value) => StoreM.put (key ++ leaf) (Text.Utf8.encode value)

/-- The leaf that an entry stands for. -/
def leafEntry (e : String × Bytes) : Option (String × String) :=
  match leafOf e.1 with
  | .ok leaf => if leaf = "" then none else some (leaf, Text.Utf8.decodeLossy e.2)
  | .error _ => none

/-- The leaves of an object by name; an object without a subtree has none. -/
def loadTexts (store : Store) (category : Category) (id : String) : StoreM σ LabelMap := do
  let key ← store.layout.objectKey category id
  return .ofList ((← StoreM.listOrNone key).filterMap leafEntry)

end VolumeOverlay.Store
