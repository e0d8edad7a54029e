import VolumeOverlay.Reconciler.Command

/-!
# Overlays as a map

Seen from outside, the reconciler keeps a map from overlay ids to overlays beside its provider: for
each registered volume the schedulers that it is offered to, and its labels. This module is that
machine. It knows no keys and no bytes; a request is answered from the provider and the map alone.

## Main definitions

* `Overlay`: schedulers and labels; `Overlay.on`: a live volume with them
* `OverlayMap π`: a provider and the overlays of its registered volumes
* `OverlayMap.Request`: what a client may ask for
* `OverlayMap.step order`: the answer to a request, and the map after it
* `Request.run`: the same request, put to the reconciler of a store
* `answers step`: the answers to a sequence of requests, each put where the one before has led
-/

namespace VolumeOverlay

/-- What is kept of a volume beside what its provider knows. -/
structure Overlay where
  schedulers : List String := []
  labels : LabelMap := ∅
  deriving DecidableEq

/-- A volume with an overlay in place of its own. -/
def Overlay.on (o : Overlay) (v : Volume) : Volume :=
  { v with schedulers := o.schedulers, labels := o.labels }

/-- A provider, and the overlays of registered volumes by their ids. -/
structure OverlayMap (π : Type) where
  provider : π
  overlays : KeyMap Overlay := ∅

/-- The answers to a sequence of requests, each put where the one before has led. -/
def answers {ρ α S : Type} (step : ρ → S → α × S) : List ρ → S → List α
  | [], _ => []
  | r :: rs, s => (step r s).1 :: answers step rs (step r s).2

namespace OverlayMap

open Reconciler (Answer)

/-- What a client may ask for. -/
inductive Request where
  | list (filter : Filter)
  | listAll (filter : Filter)
  | inspect (id : String)
  | offer (id : String) (requested : List String)
  | revoke (id : String) (revoked : List String)
  | label (id : String) (labels : LabelMap)
  | removeLabels (id : String) (keys : List String)
  | create (request : CreateRequest)
  | remove (id : String)
  | eraseStore
  deriving DecidableEq

variable {π : Type} [VolumeProvider π]

/-- The live volume that a text names. -/
def live (p : π) (text : String) : Except VolumeError Volume :=
  match OverlayId.parse text with
  | .error e => .error (.invalidId e)
  | .ok id =>
    match id.split with
    | none => .error (.invalidId (.missingSeparator text))
    | some (service, volumeId) =>
      match VolumeProvider.inspect p service volumeId with
      | .ok v => .ok (.ofExternal service v)
      | .error (.volumeNotFound _ _) => .error (.notFound text)
      | .error e => .error (.provider e)

/-- The complaint about the first label key that is no leaf, if there is one. Which one is the first
depends on the order in which labels are visited, and nothing else does. -/
def refusedLabel (order : TextOrder) (labels : LabelMap) : Option VolumeError :=
  ((order.names labels).find? fun key => !isLeaf key).map fun key =>
    .store (.invalidIdentifier s!"label key '{key}' must be non-empty and contain no '/'")

/-- The overlay of a volume; that of an unknown one is empty. -/
def overlay (m : OverlayMap π) (v : Volume) : Overlay :=
  (m.overlays.find? v.overlayId.text).getD {}

/-- A volume with its overlay, if it is known. -/
def known? (m : OverlayMap π) (v : Volume) : Option Volume :=
  (m.overlays.find? v.overlayId.text).map fun o => o.on v

/-- The map with an overlay for a volume. -/
def setOverlay (m : OverlayMap π) (v : Volume) (o : Overlay) : OverlayMap π :=
  { m with overlays := m.overlays.insert v.overlayId.text o }

/-- The map in which a volume is known. -/
def register (m : OverlayMap π) (v : Volume) : OverlayMap π :=
  m.setOverlay v (m.overlay v)

/-- Changes the overlay of the live volume that a text names. -/
def update (m : OverlayMap π) (text : String) (change : Overlay → Overlay) :
    Except VolumeError Answer × OverlayMap π :=
  match live m.provider text with
  | .error e => (.error e, m)
  | .ok v =>
    let o := change (m.overlay v)
    (.ok (.volume (o.on v)), m.setOverlay v o)

/-- Creates a volume with the overlay that a request asks for. -/
def create (m : OverlayMap π) (request : CreateRequest) :
    Except VolumeError Answer × OverlayMap π :=
  match VolumeProvider.create m.provider request.serviceName request with
  | (.error e, p) => (.error (.provider e), { m with provider := p })
  | (.ok external, p) =>
    let v := Volume.ofExternal request.serviceName external
    let o : Overlay := ⟨request.schedulers.eraseDups, request.labels⟩
    (.ok (.volume (o.on v)), setOverlay { m with provider := p } v o)

/-- Destroys the live volume that a text names, and forgets its overlay. -/
def remove (m : OverlayMap π) (text : String) : Except VolumeError Answer × OverlayMap π :=
  match live m.provider text with
  | .error e => (.error e, m)
  | .ok v =>
    match VolumeProvider.remove m.provider v.serviceName v.external.id with
    | (.error e, p) => (.error (.provider e), { m with provider := p })
    | (.ok (), p) => (.ok .done, ⟨p, m.overlays.erase v.overlayId.text⟩)

/-- The answer to a request, and the map after it. -/
def step (order : TextOrder) (request : Request) (m : OverlayMap π) :
    Except VolumeError Answer × OverlayMap π :=
  match request with
  | .list filter =>
    match VolumeProvider.volumes m.provider with
    | .error e => (.error (.provider e), m)
    | .ok vs =>
      (.ok (.volumes ((vs.filterMap m.known?).filter filter.accepts)), m)
  | .listAll filter =>
    match VolumeProvider.volumes m.provider with
    | .error e => (.error (.provider e), m)
    | .ok vs =>
      (.ok (.volumes ((vs.map fun v => (m.overlay v).on v).filter filter.accepts)),
        vs.foldl register m)
  | .inspect id => m.update id fun o => o
  | .offer id requested => m.update id fun o => { o with schedulers := requested.eraseDups }
  | .revoke id revoked =>
    m.update id fun o => { o with schedulers := o.schedulers.filter fun s => s ∉ revoked }
  | .label id labels =>
    match refusedLabel order labels with
    | some e => (.error e, m)
    | none => m.update id fun o => { o with labels := labels.orElse o.labels }
  | .removeLabels id keys =>
    m.update id fun o => { o with labels := o.labels.filter fun e => e.1 ∉ keys }
  | .create request =>
    if Config.isServiceName request.serviceName then
      match refusedLabel order request.labels with
      | some e => (.error e, m)
      | none => m.create request
    else (.error (.provider (.invalidServiceName request.serviceName)), m)
  | .remove id => m.remove id
  | .eraseStore => (.ok .done, { m with overlays := ∅ })

/-- A request as an action of the reconciler of a store. -/
def Request.run {σ : Type} [FaultSource σ] (store : Store) : Request → ReconcilerM π σ Answer
  | .list filter => Reconciler.Command.run store (.list filter)
  | .listAll filter => Reconciler.Command.run store (.listAll filter)
  | .inspect id => Reconciler.Command.run store (.inspect id)
  | .offer id requested => Reconciler.Command.run store (.offer id requested)
  | .revoke id revoked => Reconciler.Command.run store (.revoke id revoked)
  | .label id labels => Reconciler.Command.run store (.label id labels)
  | .removeLabels id keys => Reconciler.Command.run store (.removeLabels id keys)
  | .create request => Reconciler.Command.run store (.create request)
  | .remove id => Reconciler.Command.run store (.remove id)
  | .eraseStore => do ReconcilerM.onStore store.eraseAll; return .done

end OverlayMap

end VolumeOverlay
