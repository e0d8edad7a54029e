import VolumeOverlay.Store.Record
import VolumeOverlay.Store.Snapshot

/-!
# Store commands

The operations of a store as data, so that sequences of them can be run and spoken about.

## Main definitions

* `Store.Command`: an operation with its arguments
* `Store.Answer`: what it answers
* `Store.Command.run`: its effect
-/

namespace VolumeOverlay.Store

/-- An operation of a store with its arguments. -/
inductive Command where
  | put (key : String) (value : Bytes)
  | get (key : String)
  | getText (key : String)
  | list (key : String)
  | delete (key : String)
  | deleteTree (key : String)
  | exists (key : String)
  | version
  | eraseCategory (category : Category)
  | eraseAll
  | isRegistered (id : OverlayId)
  | saveVolume (v : Volume)
  | loadVolume (v : Volume)
  | removeVolume (id : OverlayId)
  | volumeIds
  | saveLabels (category : Category) (id : String) (labels : LabelMap)
  | loadLabels (category : Category) (id : String)
  | saveSnapshot (s : SnapshotOverlay)
  | loadSnapshot (s : SnapshotOverlay)
  | removeSnapshot (id : OverlayId)
  deriving DecidableEq

/-- The answer to a command. A loaded volume comes with whether it has a record. -/
inductive Answer where
  | done
  | truth (b : Bool)
  | text (s : String)
  | bytes (value : Bytes)
  | pairs (entries : List (String × Bytes))
  | loaded (registered : Bool) (v : Volume)
  | ids (ids : List OverlayId)
  | labels (labels : LabelMap)
  | snapshot (s : SnapshotOverlay)
  deriving DecidableEq

/-- The effect of a command. -/
def Command.run {σ : Type} [FaultSource σ] (store : Store) : Command → StoreM σ Answer
  | .put key value => do StoreM.put key value; return .done
  | .get key => return .bytes (← StoreM.get key)
  | .getText key => return .text (← StoreM.getText key)
  | .list key => return .pairs (← StoreM.list key)
  | .delete key => do StoreM.delete key; return .done
  | .deleteTree key => do StoreM.deleteTree key; return .done
  | .exists key => return .truth (← StoreM.exists? key)
  | .version => return .text (← store.version)
  | .eraseCategory category => do store.eraseCategory category; return .done
  | .eraseAll => do store.eraseAll; return .done
  | .isRegistered id => return .truth (← store.isRegistered id)
  | .saveVolume v => do store.saveVolume v; return .done
  | .loadVolume v => do
    match ← store.loadVolume v with
    | some loaded => return .loaded true loaded
    | none => return .loaded false v
  | .removeVolume id => do store.removeVolume id; return .done
  | .volumeIds => return .ids (← store.volumeIds)
  | .saveLabels category id labels => do
    store.saveTexts category id (store.order.list labels)
    return .done
  | .loadLabels category id => return .labels (← store.loadTexts category id)
  | .saveSnapshot s => do store.saveSnapshot s; return .done
  | .loadSnapshot s => return .snapshot (← store.loadSnapshot s)
  | .removeSnapshot id => do store.removeSnapshot id; return .done

end VolumeOverlay.Store
