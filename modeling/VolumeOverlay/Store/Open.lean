import VolumeOverlay.Disk
import VolumeOverlay.Store.Basic

/-!
# Opening a store

The settings of a store name its backend. A store in memory starts empty each time it is opened; a
store in a file finds there what was stored before, under the same bucket.

## Main definitions

* `Place`: where an open store keeps its entries
* `OpenStore`: a store that is open
* `OpenStore.ofConfig config disk`: opens the store that settings describe, and the disk after that
* `OpenStore.entries`, `OpenStore.keep`: its contents, before and after an action
-/

namespace VolumeOverlay

/-- Where an open store keeps its entries. -/
inductive Place where
  | memory (entries : Entries)
  | file (path bucket : String)

/-- A store that is open. -/
structure OpenStore where
  store : Store
  kind : BackendKind
  place : Place

namespace OpenStore

/-- Sets up a store on entries without faults. -/
def setUpOn (store : Store) (entries : Entries) : Except StoreError Entries :=
  let action : StoreM Reliable Unit := store.setUp
  let (result, medium) := action.run.run ⟨entries, {}⟩
  result.map fun _ => medium.entries

/-- Opens a store in memory. -/
def openMemory (store : Store) : Except StoreError OpenStore := do
  return ⟨store, .memory, .memory (← setUpOn store ∅)⟩

/-- Opens a store in a file. -/
def openFile (store : Store) (disk : Disk) (path bucket : String) :
    Except StoreError OpenStore × Disk :=
  match disk.openDatabase path bucket with
  | (.error e, disk) => (.error (.backend .openFile path e), disk)
  | (.ok (), disk) =>
    match setUpOn store (disk.entries path bucket) with
    | .error e => (.error e, disk)
    | .ok entries => (.ok ⟨store, .redb, .file path bucket⟩, disk.setEntries path bucket entries)

/-- The path of a file store, which has to be configured. -/
def endpoint (config : StoreConfig) : Except StoreError String :=
  match config.endpoints with
  | path :: _ => .ok path
  | [] => .error (.config "redb backend requires an endpoint path")

/-- Opens the store that settings describe. -/
def ofConfig (config : StoreConfig) (disk : Disk) : Except StoreError OpenStore × Disk :=
  let store := Store.ofConfig config
  match BackendKind.parse? config.backend with
  | none => (.error (.unsupportedBackend config.backend), disk)
  | some .memory => (openMemory store, disk)
  | some .redb =>
    match endpoint config with
    | .error e => (.error e, disk)
    | .ok path => openFile store disk path config.bucket

/-- The contents of an open store. -/
def entries (o : OpenStore) (disk : Disk) : Entries :=
  match o.place with
  | .memory entries => entries
  | .file path bucket => disk.entries path bucket

/-- An open store with new contents. -/
def keep (o : OpenStore) (disk : Disk) (entries : Entries) : OpenStore × Disk :=
  match o.place with
  | .memory _ => ({ o with place := .memory entries }, disk)
  | .file path bucket => (o, disk.setEntries path bucket entries)

end OpenStore

end VolumeOverlay
