import VolumeOverlay.Store.Labels
import VolumeOverlay.Volume

/-!
# Overlay records of snapshots

A snapshot has fields and nothing else; they are kept like labels, in a category of their own.

## Main definitions

* `Store.saveSnapshot s`, `loadSnapshot s`, `removeSnapshot id`: the life of a record
-/

namespace VolumeOverlay.Store

variable {σ : Type} [FaultSource σ]

/-- Writes the fields of a snapshot. -/
def saveSnapshot (store : Store) (s : SnapshotOverlay) : StoreM σ Unit :=
  store.saveTexts .snapshot s.snapshotId.text (store.order.list s.fields)

/-- A snapshot with its stored fields. -/
def loadSnapshot (store : Store) (s : SnapshotOverlay) : StoreM σ SnapshotOverlay :=
  return { s with fields := ← store.loadTexts .snapshot s.snapshotId.text }

/-- Deletes the record of a snapshot. -/
def removeSnapshot (store : Store) (id : OverlayId) : StoreM σ Unit := do
  StoreM.deleteTree (← store.layout.objectKey .snapshot id.text)

end VolumeOverlay.Store
