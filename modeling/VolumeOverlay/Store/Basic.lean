import VolumeOverlay.Config
import VolumeOverlay.Label
import VolumeOverlay.Store.Backend
import VolumeOverlay.Store.Key

/-!
# The overlay store

A store puts the key layout of a root on a medium. Each of its calls goes straight to the backend;
a failure names the operation and the key. An action that fails midway leaves behind what it did so
far.

## Main definitions

* `StoreM σ`: a store action on a medium, which may fail
* `Store`: the layout, whether provider fields are mirrored, and the order in which texts are visited
* `Store.setUp`: sets up the markers and roots, as often as one likes
* `Store.eraseCategory`, `Store.eraseAll`: empties categories
-/

namespace VolumeOverlay

/-- An action of a store on a medium. What it did before it failed stays done. -/
abbrev StoreM (σ : Type) := ExceptT StoreError (StateM (Medium σ))

namespace StoreM

variable {σ : Type} [FaultSource σ]

/-- A backend call on behalf of a store operation. -/
def call {α : Type} (op : Operation) (key : String) (action : BackendM σ α) : StoreM σ α :=
  action.adapt (.backend op key)

/-- Stores bytes under a key. -/
def put (key : String) (value : Bytes) : StoreM σ Unit :=
  call .put key (BackendM.put key value)

/-- The bytes under a key. -/
def get (key : String) : StoreM σ Bytes :=
  call .get key (BackendM.get key)

/-- The text under a key. -/
def getText (key : String) : StoreM σ String :=
  return Text.Utf8.decodeLossy (← get key)

/-- The entries under a prefix; none at all is an error. -/
def list (key : String) : StoreM σ (List (String × Bytes)) :=
  (BackendM.list key : BackendM σ _).adapt (.list key)

/-- Removes a key, if it is there. -/
def delete (key : String) : StoreM σ Unit :=
  call .delete key (BackendM.delete key)

/-- Removes all keys under a prefix. -/
def deleteTree (key : String) : StoreM σ Unit :=
  call .deleteTree key (BackendM.deleteTree key)

/-- Whether a key is there. -/
def exists? (key : String) : StoreM σ Bool :=
  call .exists key (BackendM.exists? key)

/-- The entries under a prefix, where none at all is no error. -/
def listOrNone (key : String) : StoreM σ (List (String × Bytes)) :=
  tryCatch (list key) fun e => if e.isNotFound then pure [] else throw e

end StoreM

/-- A store: the layout of its keys, and whether provider fields are mirrored. Labels and fields are
visited in an order that is not the store's to choose. -/
structure Store where
  layout : KeyLayout
  persistFields : Bool := false
  order : TextOrder := .ascending
  deriving Inhabited

namespace Store

variable {σ : Type} [FaultSource σ]

/-- The store that settings describe. -/
def ofConfig (config : StoreConfig) : Store where
  layout := .ofRoot config.root
  persistFields := config.persistFields

/-- The store with another order of texts. -/
def inOrder (store : Store) (order : TextOrder) : Store :=
  { store with order }

/-- The schema version that a store is marked with. -/
def currentVersion : String := "v0.1.0"

/-- Marks the version, unless there is a mark already. -/
def markVersion (store : Store) : StoreM σ Unit :=
  let key := store.layout.versionKey
  tryCatch (do let _ ← StoreM.get key) fun e =>
    if e.isNotFound then StoreM.put key (Text.Utf8.encode currentVersion) else throw e

/-- Sets up the root marker, the version and the category roots. -/
def setUp (store : Store) : StoreM σ Unit := do
  StoreM.put store.layout.rootMarker []
  store.markVersion
  Category.all.forM fun category => StoreM.put (store.layout.categoryRoot category) []

/-- The schema version found in a store. -/
def version (store : Store) : StoreM σ String :=
  StoreM.getText store.layout.versionKey

/-- Drops the entries of a category and sets up its root again. -/
def eraseCategory (store : Store) (category : Category) : StoreM σ Unit := do
  let root := store.layout.categoryRoot category
  StoreM.deleteTree root
  StoreM.put root []

/-- Erases every category. -/
def eraseAll (store : Store) : StoreM σ Unit :=
  Category.all.forM store.eraseCategory

end Store

end VolumeOverlay
