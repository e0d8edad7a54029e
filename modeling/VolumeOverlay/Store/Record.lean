import VolumeOverlay.Store.Labels
import VolumeOverlay.Store.Schedulers
import VolumeOverlay.Volume

/-!
# Overlay records

The overlay record of a volume spans three categories. Its subtree in the index holds the existence
marker, the schedulers and the owning service; labels have a subtree of their own, and so have the
provider fields of a store that mirrors them. A volume is loaded in place: what is stored is assigned to
it part by part.

## Main definitions

* `LoadM σ`: an action on a medium and a volume
* `Store.isRegistered id`: whether the existence marker is there
* `Store.saveVolume v`, `loadVolume v`, `removeVolume id`: the life of a record
* `Store.loadInto`: loads a volume in place
* `Store.volumeIds`: the ids of all existence markers
-/

namespace VolumeOverlay

/-- An action on a medium and a volume. -/
abbrev LoadM (σ : Type) := ExceptT StoreError (StateM (Medium σ × Volume))

namespace LoadM

variable {σ α : Type}

/-- An action of the store, which does not know of the volume. -/
def onMedium (x : StoreM σ α) : LoadM σ α :=
  ExceptT.mk fun s =>
    let (answer, m) := x.run.run s.1
    (answer, (m, s.2))

/-- The volume as it is. -/
def volume : LoadM σ Volume :=
  return (← getThe (Medium σ × Volume)).2

/-- Changes the volume. -/
def assign (f : Volume → Volume) : LoadM σ Unit :=
  modifyThe (Medium σ × Volume) fun s => (s.1, f s.2)

/-- Runs an action on a volume, which is answered if the action says so. -/
def runOn (x : LoadM σ Bool) (v : Volume) : StoreM σ (Option Volume) :=
  ExceptT.mk fun m =>
    let run := x.run.run (m, v)
    (run.1.map fun changed => if changed then some run.2.2 else none, run.2.1)

end LoadM

namespace Store

open LoadM (onMedium volume assign)

variable {σ : Type} [FaultSource σ]

/-- The leaf of the existence marker, which holds the overlay id. -/
def idLeaf : String := "ID"

/-- The leaf of the scheduler list. -/
def schedulersLeaf : String := "Schedulers"

/-- The leaf of the owning service. -/
def serviceNameLeaf : String := "ServiceName"

/-- Whether a volume has an existence marker. -/
def isRegistered (store : Store) (id : OverlayId) : StoreM σ Bool := do
  let key ← store.layout.objectKey .index id.text
  StoreM.exists? (key ++ idLeaf)

/-- Stores a scheduler list, or removes it when there is none to store. -/
def saveSchedulers (key : String) (names : List String) : StoreM σ Unit :=
  match Schedulers.encode names with
  | some value => StoreM.put key value
  | none => StoreM.delete key

/-- Writes the record of a volume, with its labels and fields in the given orders. Label names are
checked first; the writes are made one by one, and those before a failure stay. -/
def saveVolumeInOrder (store : Store) (v : Volume) (labels fields : List (String × String)) :
    StoreM σ Unit := do
  let id := v.overlayId.text
  let key ← store.layout.objectKey .index id
  checkLeaves (labels.map (·.1))
  StoreM.put key []
  StoreM.put (key ++ idLeaf) (Text.Utf8.encode id)
  saveSchedulers (key ++ schedulersLeaf) v.schedulers
  StoreM.put (key ++ serviceNameLeaf) (Text.Utf8.encode v.serviceName)
  if store.persistFields then
    store.saveTexts .externalFields id fields
  store.saveTexts .adminLabels id labels

/-- Writes the record of a volume. -/
def saveVolume (store : Store) (v : Volume) : StoreM σ Unit :=
  store.saveVolumeInOrder v (store.order.list v.labels) (store.order.list v.external.fields)

/-- What the index holds of a record. -/
structure IndexEntry where
  schedulers : List String := []
  serviceName : Option String := none

/-- Adds what a stored entry says to an index entry. -/
def IndexEntry.add (key : String) (entry : IndexEntry) (e : String × Bytes) :
    Except StoreError IndexEntry :=
  match Text.dropPrefix? key e.1 with
  | none => .ok entry
  | some leaf =>
    if leaf = schedulersLeaf then do
      return { entry with schedulers := ← Schedulers.decode e.1 e.2 }
    else if leaf = serviceNameLeaf then
      .ok { entry with serviceName := some (Text.Utf8.decodeLossy e.2) }
    else .ok entry

/-- What the entries under the key of an object say about it. -/
def IndexEntry.ofEntries (key : String) (es : List (String × Bytes)) :
    Except StoreError IndexEntry :=
  es.foldlM (IndexEntry.add key) {}

/-- Assigns an overlay to the volume, part by part: a service name only if there is one, and of the
fields those that the volume does not have. -/
def assignOverlay (store : Store) (entry : IndexEntry) (labels fields : LabelMap) : LoadM σ Unit := do
  assign fun v => { v with schedulers := entry.schedulers }
  if let some name := entry.serviceName then
    assign fun v => { v with serviceName := name }
  assign fun v => { v with labels }
  (store.order.list fields).forM fun t => assign fun v =>
    { v with external := { v.external with fields := v.external.fields.insertNew t.1 t.2 } }

/-- Puts the stored overlay of a volume onto it, and tells whether it is registered. When that cannot be
told, it is taken for not registered. -/
def loadInto (store : Store) : LoadM σ Bool := do
  let v ← volume
  let id := v.overlayId.text
  let key ← store.layout.objectKey .index id
  let registered ← tryCatch (onMedium (store.isRegistered v.overlayId)) fun _ => pure false
  if !registered then
    return false
  let pairs ← onMedium (StoreM.list key)
  let entry ← IndexEntry.ofEntries key pairs
  let labels ← onMedium (store.loadTexts .adminLabels id)
  let fields ← if store.persistFields then onMedium (store.loadTexts .externalFields id) else pure ∅
  -- Whatever can fail is behind: the volume is touched from here on only.
  store.assignOverlay entry labels fields
  return true

/-- A volume with its stored overlay, if it is registered. -/
def loadVolume (store : Store) (v : Volume) : StoreM σ (Option Volume) :=
  store.loadInto.runOn v

/-- Deletes the record of a volume from every category. -/
def removeVolume (store : Store) (id : OverlayId) : StoreM σ Unit :=
  Category.ofVolumes.forM fun category => do
    StoreM.deleteTree (← store.layout.objectKey category id.text)

/-- The id whose existence marker a key is. -/
def markedId (layout : KeyLayout) (key : String) : Option OverlayId := do
  guard (segmentCount key = layout.leafDepth)
  let rest ← Text.dropPrefix? (layout.categoryRoot .index) key
  let rest ← Text.dropSuffix? idLeaf rest
  let id ← Text.dropSuffix? "/" rest
  guard (id ≠ "")
  return ⟨id⟩

/-- The ids of all registered volumes, in the order of their keys. -/
def volumeIds (store : Store) : StoreM σ (List OverlayId) := do
  let pairs ← StoreM.listOrNone (store.layout.categoryRoot .index)
  return pairs.filterMap fun e => markedId store.layout e.1

end Store

end VolumeOverlay
