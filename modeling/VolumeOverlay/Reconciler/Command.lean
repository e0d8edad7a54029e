import VolumeOverlay.Reconciler.Basic

/-!
# Volume commands

The operations of the reconciler as data, so that sequences of them can be run and spoken about.

## Main definitions

* `Reconciler.Command`: an operation with its arguments
* `Reconciler.Answer`: what it answers
* `Reconciler.Command.run`: its effect
-/

namespace VolumeOverlay.Reconciler

/-- An operation of the reconciler with its arguments. -/
inductive Command where
  | reconcile (v : Volume) (existence : Existence)
  | list (filter : Filter)
  | listAll (filter : Filter)
  | inspect (id : String)
  | offer (id : String) (requested : List String)
  | revoke (id : String) (revoked : List String)
  | label (id : String) (labels : LabelMap)
  | removeLabels (id : String) (keys : List String)
  | create (request : CreateRequest)
  | remove (id : String)
  deriving DecidableEq

/-- The answer to a command. -/
inductive Answer where
  | done
  | volume (v : Volume)
  | volumes (vs : List Volume)
  deriving DecidableEq

/-- The effect of a command. A volume that is dropped gives no answer. -/
def Command.run {π σ : Type} [VolumeProvider π] [FaultSource σ] (store : Store) :
    Command → ReconcilerM π σ Answer
  | .reconcile v existence => do
    match ← Reconciler.reconcile store v existence with
    | some v => return .volume v
    | none => return .done
  | .list filter => return .volumes (← Reconciler.list store filter)
  | .listAll filter => return .volumes (← Reconciler.listAll store filter)
  | .inspect id => return .volume (← Reconciler.inspect store id)
  | .offer id requested => return .volume (← Reconciler.offer store id requested)
  | .revoke id revoked => return .volume (← Reconciler.revoke store id revoked)
  | .label id labels => return .volume (← Reconciler.label store id labels)
  | .removeLabels id keys => return .volume (← Reconciler.removeLabels store id keys)
  | .create request => return .volume (← Reconciler.create store request)
  | .remove id => do Reconciler.remove store id; return .done

end VolumeOverlay.Reconciler
