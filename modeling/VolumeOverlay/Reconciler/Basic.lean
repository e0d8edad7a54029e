import VolumeOverlay.Filter
import VolumeOverlay.Reconciler.Error
import VolumeOverlay.Store.Record

/-!
# Reconciling volumes with their overlay

The reconciler joins the volumes that a provider reports with their overlay records. A volume without
a record is either dropped or registered on the spot, as the existence policy says. Every operation
on one volume looks it up at the provider first.

## Main definitions

* `World π σ`: a provider and the medium of a store; `ReconcilerM π σ`: an action on both
* `Existence`: what becomes of a volume without a record
* `Reconciler.list`, `listAll`: all volumes
* `Reconciler.inspect`, `offer`, `revoke`, `label`, `removeLabels`, `create`, `remove`: one volume
-/

namespace VolumeOverlay

/-- A provider and the medium of a store. -/
structure World (π σ : Type) where
  provider : π
  medium : Medium σ

/-- An action on a provider and a medium. What it did before it failed stays done. -/
abbrev ReconcilerM (π σ : Type) := ExceptT VolumeError (StateM (World π σ))

/-- What becomes of a volume without a record: it is dropped, or it gets a record. -/
inductive Existence where
  | required
  | establish
  deriving DecidableEq

namespace ReconcilerM

variable {π σ ε α : Type}

/-- A result whose errors are volume errors of some kind. -/
def ofResult (kind : ε → VolumeError) : Except ε α → ReconcilerM π σ α
  | .ok a => pure a
  | .error e => throw (kind e)

/-- An action of the store. -/
def onStore (action : StoreM σ α) : ReconcilerM π σ α := do
  let world ← getThe (World π σ)
  let (result, medium) := action.run.run world.medium
  set { world with medium }
  ofResult .store result

/-- A question to the provider. -/
def ask (question : π → Except ProviderError α) : ReconcilerM π σ α := do
  let world ← getThe (World π σ)
  ofResult .provider (question world.provider)

/-- A call that may change the provider. -/
def onProvider (change : π → Except ProviderError α × π) : ReconcilerM π σ α := do
  let world ← getThe (World π σ)
  let (result, provider) := change world.provider
  set { world with provider }
  ofResult .provider result

end ReconcilerM

namespace Reconciler

open ReconcilerM

variable {π σ : Type} [VolumeProvider π] [FaultSource σ]

/-- The volume with its overlay. Without a record it is registered or dropped. -/
def reconcile (store : Store) (v : Volume) (existence : Existence) :
    ReconcilerM π σ (Option Volume) := do
  match ← onStore (store.loadVolume v) with
  | some loaded => return some loaded
  | none =>
    match existence with
    | .required => return none
    | .establish =>
      onStore (store.saveVolume v)
      return some v

/-- A volume of the listing, if it is registered and accepted. Its record is written back, so that
mirrored fields follow the provider. -/
def listOne (store : Store) (filter : Filter) (v : Volume) : ReconcilerM π σ (Option Volume) := do
  match ← reconcile store v .required with
  | none => return none
  | some v =>
    if filter.accepts v then
      -- Writing back what was just loaded changes nothing but the mirrored fields.
      onStore (store.saveVolume v)
      return some v
    else return none

/-- The registered volumes that a filter accepts. -/
def list (store : Store) (filter : Filter) : ReconcilerM π σ (List Volume) := do
  let volumes ← ask VolumeProvider.volumes
  let listed ← volumes.mapM (listOne store filter)
  return listed.filterMap id

/-- The volumes that a filter accepts, all of which are registered first. -/
def listAll (store : Store) (filter : Filter) : ReconcilerM π σ (List Volume) := do
  let volumes ← ask VolumeProvider.volumes
  let all ← volumes.mapM fun v => reconcile store v .establish
  return filter.apply (all.filterMap id)

/-- The overlay id that a text is. -/
def parseId (id : String) : ReconcilerM π σ OverlayId :=
  ofResult .invalidId (OverlayId.parse id)

/-- The service and the external id in an overlay id. -/
def splitId (id : OverlayId) : ReconcilerM π σ (String × String) :=
  match id.split with
  | some parts => return parts
  | none => throw (.invalidId (.missingSeparator id.text))

/-- The volume at the provider. One that is missing in a service that exists is reported by its
overlay id. -/
def askVolume (id : OverlayId) (service volumeId : String) : ReconcilerM π σ ExternalVolume := do
  let world ← getThe (World π σ)
  match VolumeProvider.inspect world.provider service volumeId with
  | .ok v => return v
  | .error (.volumeNotFound _ _) => throw (.notFound id.text)
  | .error e => throw (.provider e)

/-- The live volume with an overlay id, with its overlay; it is registered if need be. -/
def lookUp (store : Store) (id : OverlayId) : ReconcilerM π σ Volume := do
  let (service, volumeId) ← splitId id
  let external ← askVolume id service volumeId
  match ← reconcile store (.ofExternal service external) .establish with
  | some v => return v
  | none => throw (.notFound id.text)

/-- The live volume with its overlay. -/
def inspect (store : Store) (id : String) : ReconcilerM π σ Volume := do
  lookUp store (← parseId id)

/-- Changes the overlay of a volume. -/
def modify (store : Store) (id : String) (change : Volume → Volume) : ReconcilerM π σ Volume := do
  let v := change (← lookUp store (← parseId id))
  onStore (store.saveVolume v)
  return v

/-- Offers a volume to schedulers, in place of those that it has. -/
def offer (store : Store) (id : String) (requested : List String) : ReconcilerM π σ Volume :=
  modify store id fun v => { v with schedulers := Schedulers.offer v.schedulers requested }

/-- Withdraws a volume from schedulers. -/
def revoke (store : Store) (id : String) (revoked : List String) : ReconcilerM π σ Volume :=
  modify store id fun v => { v with schedulers := Schedulers.revoke v.schedulers revoked }

/-- Refuses label keys that cannot be stored. -/
def checkLabels (store : Store) (labels : LabelMap) : ReconcilerM π σ Unit :=
  ofResult .store (Store.checkLeaves (store.order.names labels))

/-- Adds labels to a volume; they replace those with the same keys. -/
def label (store : Store) (id : String) (labels : LabelMap) : ReconcilerM π σ Volume := do
  checkLabels store labels
  modify store id fun v => { v with labels := v.labels.insertMany labels.toList }

/-- Removes labels from a volume by their keys. -/
def removeLabels (store : Store) (id : String) (keys : List String) : ReconcilerM π σ Volume :=
  modify store id fun v => { v with labels := v.labels.eraseMany keys }

/-- Creates a volume at the provider and registers it with the requested schedulers and labels. -/
def create (store : Store) (request : CreateRequest) : ReconcilerM π σ Volume := do
  let service := request.serviceName
  if !Config.isServiceName service then
    throw (.provider (.invalidServiceName service))
  checkLabels store request.labels
  let external ← onProvider fun p => VolumeProvider.create p service request
  let v :=
    { Volume.ofExternal service external with
      schedulers := Schedulers.dedup request.schedulers
      labels := request.labels }
  onStore (store.saveVolume v)
  return v

/-- Destroys a volume at the provider, and then drops its record. -/
def remove (store : Store) (id : String) : ReconcilerM π σ Unit := do
  let overlayId ← parseId id
  let (service, volumeId) ← splitId overlayId
  let _ ← askVolume overlayId service volumeId
  onProvider fun p => VolumeProvider.remove p service volumeId
  onStore (store.removeVolume overlayId)

end Reconciler

end VolumeOverlay
