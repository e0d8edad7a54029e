import VolumeOverlay.Proofs.Store.Record
import VolumeOverlay.Reconciler.Command

/-!
# Runs of the reconciler

What the actions of the reconciler answer and leave behind. The steps that all operations share, a
question to the provider and a store action, come first; then the join of a volume with its record on
a medium without faults, and the operations on one volume that are made of it.

## Main definitions

* `Reconciler.asked id r`: the answer of the provider about the volume with an overlay id
* `Reconciler.joined store v es`: the join of a live volume with its record, which is made if need be
* `Reconciler.created request external`: the new volume of a request

## Main results

* `ReconcilerM.exec_onStore`, `exec_ask`, `exec_onProvider`: the shared steps
* `Reconciler.exec_load`, `exec_save`: loading and writing a record without faults
* `Reconciler.exec_establish`: the join without faults
* `Reconciler.exec_inspect`, `exec_create`, `exec_remove`: the operations on one volume
* `Reconciler.exec_remove_eq`: a removal on any medium
* `Reconciler.modify_eq`: a change of the overlay is an inspection and a write
-/

namespace VolumeOverlay

open Actions

/-! ### Shared steps -/

namespace ReconcilerM

variable {π σ ε α : Type} (w : World π σ)

@[simp] theorem exec_ofResult (kind : ε → VolumeError) (r : Except ε α) :
    exec (ofResult kind r : ReconcilerM π σ α) w = (r.mapError kind, w) := by
  cases r <;> rfl

/-- A store action changes the medium only. -/
theorem exec_onStore (x : StoreM σ α) :
    exec (onStore x : ReconcilerM π σ α) w =
      ((exec x w.medium).1.mapError .store, { w with medium := (exec x w.medium).2 }) := by
  unfold onStore
  rw [exec_bind_of_ok (exec_get w)]
  show exec (set _ >>= fun _ => ofResult .store (exec x w.medium).1) w = _
  rw [exec_bind_of_ok (exec_set _ w), exec_ofResult]
  rfl

theorem exec_of_onStore_ok {x : StoreM σ α} {w w' : World π σ} {a : α}
    (h : exec (onStore x : ReconcilerM π σ α) w = (.ok a, w')) :
    exec x w.medium = (.ok a, w'.medium) := by
  rw [exec_onStore] at h
  obtain ⟨h₁, rfl⟩ := Prod.mk.inj h
  exact Prod.ext (mapError_eq_ok_iff.1 h₁) rfl

theorem exec_ask (question : π → Except ProviderError α) :
    exec (ask question : ReconcilerM π σ α) w = ((question w.provider).mapError .provider, w) := by
  unfold ask
  rw [exec_bind_of_ok (exec_get w), exec_ofResult]

theorem exec_onProvider (change : π → Except ProviderError α × π) :
    exec (onProvider change : ReconcilerM π σ α) w =
      ((change w.provider).1.mapError .provider, { w with provider := (change w.provider).2 }) := by
  unfold onProvider
  rw [exec_bind_of_ok (exec_get w)]
  show exec (set _ >>= fun _ => ofResult .provider (change w.provider).1) w = _
  rw [exec_bind_of_ok (exec_set _ w), exec_ofResult]

end ReconcilerM

namespace Reconciler

open ReconcilerM

variable {π σ : Type} [VolumeProvider π]

/-- The answer of the provider about the volume with an overlay id. -/
def asked (id : OverlayId) : Except ProviderError ExternalVolume → Except VolumeError ExternalVolume
  | .ok v => .ok v
  | .error (.volumeNotFound _ _) => .error (.notFound id.text)
  | .error e => .error (.provider e)

theorem exec_askVolume (id : OverlayId) (service volumeId : String) (w : World π σ) :
    exec (askVolume id service volumeId : ReconcilerM π σ ExternalVolume) w =
      (asked id (VolumeProvider.inspect w.provider service volumeId), w) := by
  unfold askVolume
  rw [exec_bind_of_ok (exec_get w)]
  cases VolumeProvider.inspect w.provider service volumeId with
  | ok v => rfl
  | error e => cases e <;> rfl

theorem inspect_of_asked {id : OverlayId} {r : Except ProviderError ExternalVolume}
    {v : ExternalVolume} (h : asked id r = .ok v) : r = .ok v := by
  cases r with
  | ok v' =>
    cases h
    rfl
  | error e => cases e <;> cases h

/-- A question to the provider about a volume does not fail for the store. -/
theorem asked_error_cases {id : OverlayId} {r : Except ProviderError ExternalVolume} {e : VolumeError}
    (h : asked id r = .error e) : e = .notFound id.text ∨ ∃ source, e = .provider source := by
  cases r with
  | ok v => cases h
  | error e' =>
    cases e' with
    | volumeNotFound _ _ => exact .inl (Except.error.inj h).symm
    | serviceNotFound _ | invalidServiceName _ | unsupportedDriver _ _ =>
      exact .inr ⟨_, (Except.error.inj h).symm⟩

/-- An accepted id has its two parts. -/
theorem exists_split {text : String} {id : OverlayId} (h : OverlayId.parse text = .ok id) :
    ∃ service volumeId, id.split = some (service, volumeId) := by
  obtain ⟨rfl, service, volumeId, hsplit, -, -⟩ := OverlayId.parse_eq_ok_iff.1 h
  exact ⟨service, volumeId, hsplit⟩

omit [VolumeProvider π] in
theorem exec_parseId {text : String} {id : OverlayId} (h : OverlayId.parse text = .ok id)
    (w : World π σ) : exec (parseId text : ReconcilerM π σ _) w = (.ok id, w) := by
  unfold parseId
  rw [exec_ofResult, h]
  rfl

omit [VolumeProvider π] in
/-- An accepted id is split into its parts. -/
theorem exec_splitId {id : OverlayId} {service volumeId : String}
    (h : id.split = some (service, volumeId)) (w : World π σ) :
    exec (splitId id : ReconcilerM π σ _) w = (.ok (service, volumeId), w) := by
  unfold splitId
  rw [h]
  rfl

/-- Volumes of a service have ids that are not sanitized to nothing. -/
theorem sanitize_ofExternal (service : String) (v : ExternalVolume) :
    sanitize (Volume.ofExternal service v).overlayId.text ≠ "" :=
  OverlayId.sanitize_ne_empty_of_mem (OverlayId.separator_mem_of service v.id)

/-- The new volume of a request, with the overlay that was asked for. -/
def created (request : CreateRequest) (external : ExternalVolume) : Volume :=
  { Volume.ofExternal request.serviceName external with
    schedulers := Schedulers.dedup request.schedulers
    labels := request.labels }

/-- With a proper service name, the labels of a request are checked, the provider creates the volume,
and its record is written. -/
theorem create_of_isServiceName [FaultSource σ] {store : Store} {request : CreateRequest}
    (h : Config.isServiceName request.serviceName = true) :
    (create store request : ReconcilerM π σ Volume) =
      checkLabels store request.labels >>= fun _ =>
        onProvider (fun p => VolumeProvider.create p request.serviceName request) >>= fun external =>
          onStore (store.saveVolume (created request external)) >>= fun _ =>
            pure (created request external) := by
  unfold create
  dsimp only
  rw [h, Bool.not_true, if_neg Bool.false_ne_true]
  rfl

/-- A service name that cannot be part of an overlay id is refused at once. -/
theorem exec_create_of_not_isServiceName [FaultSource σ] {store : Store} {request : CreateRequest}
    (h : ¬ Config.isServiceName request.serviceName = true) (w : World π σ) :
    exec (create store request : ReconcilerM π σ Volume) w =
      (.error (.provider (.invalidServiceName request.serviceName)), w) := by
  unfold create
  dsimp only
  rw [Bool.not_eq_true _ |>.mp h, Bool.not_false, if_pos rfl]
  rfl

/-- A label that cannot be a leaf is refused before the provider is called. -/
theorem exec_create_of_refused [FaultSource σ] {store : Store} {request : CreateRequest}
    {e : StoreError} (hservice : Config.isServiceName request.serviceName = true)
    (hlabels : Store.checkLeaves (store.order.names request.labels) = .error e) (w : World π σ) :
    exec (create store request : ReconcilerM π σ Volume) w = (.error (.store e), w) := by
  have hcheck : exec (checkLabels store request.labels : ReconcilerM π σ Unit) w =
      (.error (.store e), w) := by
    rw [checkLabels, exec_ofResult, hlabels]
    rfl
  rw [create_of_isServiceName hservice, exec_bind_of_error hcheck]

theorem exec_remove_of_refused [FaultSource σ] {store : Store} {text : String} {e : OverlayId.Error}
    (h : OverlayId.parse text = .error e) (w : World π σ) :
    exec (remove store text : ReconcilerM π σ _) w = (.error (.invalidId e), w) := by
  unfold remove parseId
  rw [h]
  rfl

/-- Removing a volume on any medium: the provider is asked for it and destroys it, and the store drops
its record. -/
theorem exec_remove_eq [FaultSource σ] {store : Store} {text service volumeId : String}
    {id : OverlayId} (hparse : OverlayId.parse text = .ok id)
    (hsplit : id.split = some (service, volumeId)) (w : World π σ) :
    exec (remove store text : ReconcilerM π σ _) w =
      match asked id (VolumeProvider.inspect w.provider service volumeId) with
      | .error e => (.error e, w)
      | .ok _ =>
        match VolumeProvider.remove w.provider service volumeId with
        | (.error e, p) => (.error (.provider e), { w with provider := p })
        | (.ok (), p) => ((exec (store.removeVolume id) w.medium).1.mapError .store,
            ⟨p, (exec (store.removeVolume id) w.medium).2⟩) := by
  have hask := exec_askVolume id service volumeId w
  have hprovider := exec_onProvider (σ := σ) w fun p => VolumeProvider.remove p service volumeId
  unfold remove
  rw [exec_bind_of_ok (exec_parseId hparse _), exec_bind_of_ok (exec_splitId hsplit _)]
  dsimp only
  cases h : asked id (VolumeProvider.inspect w.provider service volumeId) with
  | error e =>
    rw [h] at hask
    rw [exec_bind_of_error hask]
  | ok v =>
    rw [h] at hask
    rw [exec_bind_of_ok hask]
    cases hr : VolumeProvider.remove w.provider service volumeId with
    | mk answer p =>
      rw [hr] at hprovider
      cases answer with
      | error e => exact exec_bind_of_error hprovider
      | ok _ => rw [exec_bind_of_ok hprovider, exec_onStore]

/-! ### Media without faults -/

section Reliable

variable {store : Store} (p : π) (es : Entries) (s : Reliable)

/-- The join of a live volume with its record, which is made if need be, and the entries after it. -/
def joined (store : Store) (v : Volume) (es : Entries) : Except VolumeError Volume × Entries :=
  match store.loaded v es with
  | .error e => (.error (.store e), es)
  | .ok (some v') => (.ok v', es)
  | .ok none => (((store.written v es).1.mapError .store).map fun _ => v, (store.written v es).2)

omit [VolumeProvider π] in
theorem exec_load {v : Volume} (hid : sanitize v.overlayId.text ≠ "") :
    exec (onStore (store.loadVolume v) : ReconcilerM π Reliable _) ⟨p, es, s⟩ =
      ((store.loaded v es).mapError .store, ⟨p, es, s⟩) := by
  rw [exec_onStore, Store.exec_loadVolume es s hid]

omit [VolumeProvider π] in
theorem exec_save {v : Volume} (hid : sanitize v.overlayId.text ≠ "") :
    exec (onStore (store.saveVolume v) : ReconcilerM π Reliable _) ⟨p, es, s⟩ =
      ((store.written v es).1.mapError .store, ⟨p, (store.written v es).2, s⟩) := by
  rw [exec_onStore, Store.exec_saveVolume es s hid]

omit [VolumeProvider π] in
theorem exec_establish {v : Volume} (hid : sanitize v.overlayId.text ≠ "") :
    exec (reconcile store v .establish : ReconcilerM π Reliable _) ⟨p, es, s⟩ =
      ((joined store v es).1.map some, ⟨p, (joined store v es).2, s⟩) := by
  have hload : exec (onStore (store.loadVolume v) : ReconcilerM π Reliable _) ⟨p, es, s⟩ =
      ((store.loaded v es).mapError .store, ⟨p, es, s⟩) := exec_load p es s hid
  unfold reconcile joined
  cases h : store.loaded v es with
  | error e =>
    rw [h] at hload
    rw [exec_bind_of_error hload]
    rfl
  | ok answer =>
    rw [h] at hload
    rw [exec_bind_of_ok hload]
    cases answer with
    | some v' => rfl
    | none =>
      -- There is no record, so the volume is written as the provider reports it.
      dsimp only
      rw [exec_bind, exec_save p es s hid]
      cases (store.written v es).1 <;> rfl

/-- An id that is not accepted is refused at once. -/
theorem exec_inspect_of_refused {text : String} {e : OverlayId.Error}
    (h : OverlayId.parse text = .error e) (w : World π Reliable) :
    exec (inspect store text : ReconcilerM π Reliable _) w = (.error (.invalidId e), w) := by
  unfold inspect parseId
  rw [h]
  rfl

/-- Looking up a volume: the provider is asked, and its volume is joined with the record. -/
theorem exec_inspect {text service volumeId : String} {id : OverlayId}
    (hparse : OverlayId.parse text = .ok id) (hsplit : id.split = some (service, volumeId)) :
    exec (inspect store text : ReconcilerM π Reliable _) ⟨p, es, s⟩ =
      match asked id (VolumeProvider.inspect p service volumeId) with
      | .error e => (.error e, ⟨p, es, s⟩)
      | .ok v => ((joined store (.ofExternal service v) es).1,
          ⟨p, (joined store (.ofExternal service v) es).2, s⟩) := by
  unfold inspect lookUp
  rw [exec_bind_of_ok (exec_parseId hparse _), exec_bind_of_ok (exec_splitId hsplit _)]
  dsimp only
  have hask := exec_askVolume id service volumeId (⟨p, es, s⟩ : World π Reliable)
  cases h : asked id (VolumeProvider.inspect p service volumeId) with
  | error e =>
    rw [h] at hask
    rw [exec_bind_of_error hask]
  | ok v =>
    rw [h] at hask
    rw [exec_bind_of_ok hask, exec_bind,
      exec_establish p es s (sanitize_ofExternal service v)]
    dsimp only
    cases (joined store (.ofExternal service v) es).1 <;> rfl

/-- Creating a volume whose service name and labels are fine: the provider creates it, and its record
is written. -/
theorem exec_create {request : CreateRequest}
    (hservice : Config.isServiceName request.serviceName = true)
    (hlabels : Store.checkLeaves request.labels.keys = .ok ()) :
    exec (create store request : ReconcilerM π Reliable _) ⟨p, es, s⟩ =
      match VolumeProvider.create p request.serviceName request with
      | (.error e, p') => (.error (.provider e), ⟨p', es, s⟩)
      | (.ok v, p') =>
        (((store.written (created request v) es).1.mapError .store).map fun _ => created request v,
          ⟨p', (store.written (created request v) es).2, s⟩) := by
  have hcheck : exec (checkLabels store request.labels : ReconcilerM π Reliable _) ⟨p, es, s⟩ =
      (.ok (), ⟨p, es, s⟩) := by
    unfold checkLabels
    rw [exec_ofResult, Store.checkLeaves_names.2 hlabels]
    rfl
  have hprovider := exec_onProvider (σ := Reliable) ⟨p, es, s⟩ fun p =>
    VolumeProvider.create p request.serviceName request
  rw [create_of_isServiceName hservice, exec_bind_of_ok hcheck]
  cases h : VolumeProvider.create p request.serviceName request with
  | mk answer p' =>
    dsimp only at hprovider
    rw [h] at hprovider
    cases answer with
    | error e => rw [exec_bind_of_error hprovider]
    | ok v =>
      rw [exec_bind_of_ok hprovider]
      have hid : sanitize (created request v).overlayId.text ≠ "" :=
        sanitize_ofExternal request.serviceName v
      rw [exec_bind, exec_save p' es s hid]
      dsimp only
      cases (store.written (created request v) es).1 <;> rfl

/-- Removing a volume: the provider is asked for it and destroys it, and its record is dropped. -/
theorem exec_remove {text service volumeId : String} {id : OverlayId}
    (hparse : OverlayId.parse text = .ok id) (hsplit : id.split = some (service, volumeId)) :
    exec (remove store text : ReconcilerM π Reliable _) ⟨p, es, s⟩ =
      match asked id (VolumeProvider.inspect p service volumeId) with
      | .error e => (.error e, ⟨p, es, s⟩)
      | .ok _ =>
        match VolumeProvider.remove p service volumeId with
        | (.error e, p') => (.error (.provider e), ⟨p', es, s⟩)
        | (.ok (), p') => (.ok (), ⟨p', store.removed id.text es, s⟩) := by
  have hid : sanitize id.text ≠ "" :=
    OverlayId.sanitize_ne_empty_of_mem (OverlayId.separator_mem_of_split hsplit)
  rw [exec_remove_eq hparse hsplit, Store.exec_removeVolume es s hid]
  rfl

/-- A change of the overlay is an inspection, after which the changed volume is written. -/
theorem modify_eq (text : String) (change : Volume → Volume) :
    (modify store text change : ReconcilerM π Reliable _) =
      inspect store text >>= fun v =>
        onStore (store.saveVolume (change v)) >>= fun _ => pure (change v) := by
  unfold modify inspect
  rw [bind_assoc]

end Reliable

end Reconciler

end VolumeOverlay
