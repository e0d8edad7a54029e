import VolumeOverlay.Proofs.Reconciler.Run
import VolumeOverlay.Provider.Inventory

/-!
# Client errors

An operation on one volume that fails by a fault of the client, with status 400, is refused before
anything is changed, as long as fields are not mirrored. Labels are checked before the first write and
before the provider is called. The names of mirrored fields are checked behind the index part of the
record only: with a field that cannot be stored, the record is given up there, and the index part
stays, together with the volume that the provider has just created.

## Main definitions

* `CarefulProvider π`: failing calls of the provider change nothing
* `Command.concernsOne`: the operations on one volume
* `Store.GivenUp v es es'`: the record of a volume is begun and given up

## Main results

* `Reconciler.failed_run`: a failed operation changes nothing, or is a client error that gives up a
  record
* `Reconciler.client_error_unchanged_iff`: a client error changes nothing just when fields are not
  mirrored
-/

namespace VolumeOverlay

open Actions

/-- A provider whose failing calls change nothing. -/
class CarefulProvider (π : Type) [VolumeProvider π] : Prop where
  create_error : ∀ (p p' : π) service request e,
    VolumeProvider.create p service request = (.error e, p') → p' = p
  remove_error : ∀ (p p' : π) service volumeId e,
    VolumeProvider.remove p service volumeId = (.error e, p') → p' = p

instance : CarefulProvider Inventory where
  create_error i i' service request e h := by
    change Inventory.create i service request = _ at h
    unfold Inventory.create at h
    split at h
    · exact (Prod.mk.inj h).2.symm
    · cases h
  remove_error i i' service volumeId e h := by
    change Inventory.remove i service volumeId = _ at h
    unfold Inventory.remove at h
    split at h
    · exact (Prod.mk.inj h).2.symm
    · split at h
      · cases h
      · exact (Prod.mk.inj h).2.symm

/-! ### Records that are given up -/

namespace Store

variable {store : Store} {v : Volume} {es es' : Entries} {e : StoreError}

/-- The record of a volume is begun and given up: its labels can be stored, one of the fields to be
mirrored cannot, and the index part is written. -/
structure GivenUp (store : Store) (v : Volume) (es es' : Entries) : Prop where
  mirrors : store.persistFields = true
  labels : ∀ name ∈ v.labels.keys, isLeaf name = true
  field : ∃ name ∈ v.external.fields.keys, isLeaf name = false
  entries : es' = store.indexed v es

/-- A record that is not written is refused before it is begun, or given up for a client error. -/
theorem written_error (h : store.written v es = (.error e, es')) :
    (checkLeaves (store.order.names v.labels) = .error e ∧ es' = es) ∨
      (VolumeError.store e).status = 400 ∧ store.GivenUp v es es' := by
  unfold written at h
  split at h
  · rename_i hlabels
    cases h
    exact .inl ⟨hlabels, rfl⟩
  · rename_i hlabels
    split at h
    · rename_i hfields
      unfold checkMirrored at hfields
      split at hfields
      · rename_i hp
        obtain ⟨name, hmem, hname, he⟩ := exists_of_checkLeaves_eq_error hfields
        rw [checkLeaf, hname, if_neg Bool.false_ne_true] at he
        cases he
        cases h
        exact .inr ⟨rfl, hp, checkLeaves_eq_ok_iff.1 (checkLeaves_names.1 hlabels),
          ⟨name, TextOrder.mem_names.1 hmem, hname⟩, rfl⟩
      · cases hfields
    · cases h

end Store

/-! ### Operations on one volume -/

namespace Reconciler

open ReconcilerM

/-- The operations on one volume. -/
def Command.concernsOne : Command → Bool
  | .inspect _ | .offer _ _ | .revoke _ _ | .label _ _ | .removeLabels _ _ | .create _ | .remove _ =>
    true
  | .reconcile _ _ | .list _ | .listAll _ => false

/-! ### Looking up -/

section Joined

variable {store : Store} {v v' : Volume} {es es' : Entries} {e : VolumeError}

/-- A join fails to read the record, finds it, or makes it. -/
theorem joined_cases {r : Except VolumeError Volume} (h : joined store v es = (r, es')) :
    (∃ e, r = .error (.store e) ∧ es' = es) ∨
      (∃ w, store.loaded v es = .ok (some w) ∧ r = .ok w ∧ es' = es) ∨
      ∃ answer, store.written v es = (answer, es') ∧
        r = (answer.mapError .store).map fun _ => v := by
  unfold joined at h
  cases hloaded : store.loaded v es with
  | error e =>
    rw [hloaded] at h
    cases h
    exact .inl ⟨e, rfl, rfl⟩
  | ok answer =>
    rw [hloaded] at h
    cases answer with
    | some w =>
      cases h
      exact .inr (.inl ⟨w, rfl, rfl, rfl⟩)
    | none =>
      cases h
      exact .inr (.inr ⟨_, rfl, rfl⟩)

theorem joined_error (h : joined store v es = (.error e, es')) :
    es' = es ∨ e.status = 400 ∧ store.GivenUp v es es' := by
  rcases joined_cases h with ⟨_, -, rfl⟩ | ⟨_, -, -, rfl⟩ | ⟨answer, hwritten, hr⟩
  · exact .inl rfl
  · exact .inl rfl
  · cases answer with
    | ok _ => cases hr
    | error e' =>
      cases hr
      exact (Store.written_error hwritten).imp_left And.right

/-- A volume that is found has its own id, and either nothing was written, or its record was made and
there was none before. -/
theorem joined_ok (h : joined store v es = (.ok v', es')) :
    v'.overlayId = v.overlayId ∧ (es' = es ∨ v' = v ∧ store.checkMirrored v = .ok ()) := by
  rcases joined_cases h with ⟨_, hr, -⟩ | ⟨w, hloaded, hr, rfl⟩ | ⟨answer, hwritten, hr⟩
  · cases hr
  · cases hr
    exact ⟨Store.overlayId_of_loaded hloaded, .inl rfl⟩
  · cases answer with
    | error e => cases hr
    | ok _ =>
      cases hr
      exact ⟨rfl, .inr ⟨rfl, (Store.written_eq_ok_iff.1 hwritten).2.1⟩⟩

end Joined

section Operations

variable {π : Type} [VolumeProvider π] {store : Store} {w w' : World π Reliable} {e : VolumeError}

/-- What a failed operation leaves behind: everything as it was, or, after a client error, a record
that was given up. -/
def Failed (store : Store) (e : VolumeError) (w w' : World π Reliable) : Prop :=
  w' = w ∨ e.status = 400 ∧ ∃ v, store.GivenUp v w.medium.entries w'.medium.entries

/-- Looking up a volume is refused before anything is done, or joins a volume of a service with its
record. -/
theorem inspect_cases {text : String} {r : Except VolumeError Volume}
    (h : exec (inspect store text : ReconcilerM π Reliable _) w = (r, w')) :
    (∃ e, r = .error e ∧ w' = w) ∨
      ∃ service ext, joined store (.ofExternal service ext) w.medium.entries =
          (r, w'.medium.entries) ∧ w' = ⟨w.provider, w'.medium.entries, w.medium.faults⟩ := by
  obtain ⟨p, es, s⟩ := w
  cases hparse : OverlayId.parse text with
  | error e =>
    rw [exec_inspect_of_refused hparse] at h
    cases h
    exact .inl ⟨_, rfl, rfl⟩
  | ok id =>
    obtain ⟨service, volumeId, hsplit⟩ := exists_split hparse
    rw [exec_inspect p es s hparse hsplit] at h
    split at h
    · cases h
      exact .inl ⟨_, rfl, rfl⟩
    · rename_i ext _
      cases h
      exact .inr ⟨service, ext, rfl, rfl⟩

theorem failed_inspect {text : String}
    (h : exec (inspect store text : ReconcilerM π Reliable _) w = (.error e, w')) :
    Failed store e w w' := by
  rcases inspect_cases h with ⟨_, -, hw⟩ | ⟨service, ext, hjoined, hw⟩
  · exact .inl hw
  · rcases joined_error hjoined with hes | ⟨he, hgiven⟩
    · rw [hes] at hw
      exact .inl hw
    · exact .inr ⟨he, _, hgiven⟩

/-- A volume that is found can be written, and either nothing has been written yet, or its record was
made for want of one. -/
theorem inspect_ok {text : String} {v : Volume}
    (h : exec (inspect store text : ReconcilerM π Reliable _) w = (.ok v, w')) :
    sanitize v.overlayId.text ≠ "" ∧
      (w' = w ∨ v.labels = ∅ ∧ store.checkMirrored v = .ok ()) := by
  rcases inspect_cases h with ⟨_, hr, -⟩ | ⟨service, ext, hjoined, hw⟩
  · cases hr
  · obtain ⟨hid, hcases⟩ := joined_ok hjoined
    refine ⟨hid ▸ sanitize_ofExternal service ext, ?_⟩
    rcases hcases with hes | ⟨rfl, hfields⟩
    · rw [hes] at hw
      exact .inl hw
    · exact .inr ⟨rfl, hfields⟩

/-- A change of the overlay of a volume. To a volume without labels it adds such as can be stored. -/
structure OverlayChange (change : Volume → Volume) : Prop where
  external : ∀ v, (change v).external = v.external
  overlayId : ∀ v, (change v).overlayId = v.overlayId
  labels : ∀ v, v.labels = ∅ → Store.checkLeaves (change v).labels.keys = .ok ()

/-- Once the record of a volume is made, writing the changed volume cannot fail. -/
theorem failed_modify {text : String} {change : Volume → Volume} (hchange : OverlayChange change)
    (h : exec (modify store text change : ReconcilerM π Reliable _) w = (.error e, w')) :
    Failed store e w w' := by
  rw [modify_eq] at h
  rcases exec_bind_cases h with ⟨e', hinspect, he⟩ | ⟨v, w₁, hinspect, h⟩
  · cases he
    exact failed_inspect hinspect
  -- The volume was found. What can still fail is writing it with its new overlay.
  obtain ⟨hid, hcases⟩ := inspect_ok hinspect
  rw [← hchange.overlayId] at hid
  rcases exec_bind_cases h with ⟨e', hsave, he⟩ | ⟨_, _, _, h⟩
  · cases he
    obtain ⟨p₁, es₁, s₁⟩ := w₁
    rw [exec_save p₁ es₁ s₁ hid] at hsave
    cases hwritten : store.written (change v) es₁ with
    | mk answer es₂ =>
      rw [hwritten] at hsave
      cases answer with
      | ok _ => cases hsave
      | error e₂ =>
        cases hsave
        rcases hcases with rfl | ⟨hlabels, hfields⟩
        · rcases Store.written_error hwritten with ⟨-, rfl⟩ | ⟨he, hgiven⟩
          · exact .inl rfl
          · exact .inr ⟨he, _, hgiven⟩
        · -- The fields passed the check a moment ago, and a fresh record has no other labels.
          have hfields' : store.checkMirrored (change v) = .ok () := by
            unfold Store.checkMirrored at hfields ⊢
            rwa [hchange.external]
          rw [Store.written_of_ok (hchange.labels v hlabels) hfields'] at hwritten
          cases hwritten
  · cases h

theorem overlayChange_label {labels : LabelMap} (h : Store.checkLeaves labels.keys = .ok ()) :
    OverlayChange fun v => { v with labels := v.labels.insertMany labels.toList } where
  external _ := rfl
  overlayId _ := rfl
  labels v hv := by
    have hlabels : v.labels.insertMany labels.toList = labels := by
      rw [hv]
      exact labels.ofList_toList
    dsimp only
    rw [hlabels, h]

theorem overlayChange_removeLabels (keys : List String) :
    OverlayChange fun v => { v with labels := v.labels.eraseMany keys } where
  external _ := rfl
  overlayId _ := rfl
  labels v hv := by
    refine Store.checkLeaves_eq_ok_iff.2 fun name hname => ?_
    obtain ⟨value, hvalue⟩ := KeyMap.mem_keys.1 hname
    rw [KeyMap.find?_eraseMany, hv] at hvalue
    split at hvalue <;> cases hvalue

/-- A change of the schedulers leaves the labels as they are. -/
theorem overlayChange_schedulers (change : List String → List String) :
    OverlayChange fun v => { v with schedulers := change v.schedulers } where
  external _ := rfl
  overlayId _ := rfl
  labels v hv := by
    dsimp only
    rw [hv]
    rfl

theorem failed_create [CarefulProvider π] {request : CreateRequest}
    (h : exec (create store request : ReconcilerM π Reliable _) w = (.error e, w')) :
    Failed store e w w' := by
  obtain ⟨p, es, s⟩ := w
  by_cases hservice : Config.isServiceName request.serviceName = true
  · cases hlabels : Store.checkLeaves (store.order.names request.labels) with
    | error e' =>
      rw [create_of_isServiceName hservice, checkLabels, hlabels,
        exec_bind_of_error (exec_ofResult _ _ _)] at h
      exact .inl (Prod.mk.inj h).2.symm
    | ok _ =>
      rw [exec_create p es s hservice (Store.checkLeaves_names.1 hlabels)] at h
      split at h
      · rename_i hcreate
        cases h
        rw [CarefulProvider.create_error _ _ _ _ _ hcreate]
        exact .inl rfl
      · rename_i ext p' _
        cases hwritten : store.written (created request ext) es with
        | mk answer es' =>
          rw [hwritten] at h
          cases answer with
          | ok _ => cases h
          | error e' =>
            cases h
            -- The provider has made the volume, so only its fields may still be refused.
            rcases Store.written_error hwritten with ⟨hrefused, -⟩ | ⟨he, hgiven⟩
            · have hlabels' : Store.checkLeaves (store.order.names (created request ext).labels) =
                  .ok () := hlabels
              rw [hlabels'] at hrefused
              cases hrefused
            · exact .inr ⟨he, _, hgiven⟩
  · rw [exec_create_of_not_isServiceName hservice] at h
    exact .inl (Prod.mk.inj h).2.symm

theorem failed_remove [CarefulProvider π] {text : String}
    (h : exec (remove store text : ReconcilerM π Reliable _) w = (.error e, w')) :
    Failed store e w w' := by
  obtain ⟨p, es, s⟩ := w
  cases hparse : OverlayId.parse text with
  | error e' =>
    rw [exec_remove_of_refused hparse] at h
    exact .inl (Prod.mk.inj h).2.symm
  | ok id =>
    obtain ⟨service, volumeId, hsplit⟩ := exists_split hparse
    rw [exec_remove p es s hparse hsplit] at h
    split at h
    · exact .inl (Prod.mk.inj h).2.symm
    · split at h
      · rename_i hremove
        cases h
        rw [CarefulProvider.remove_error _ _ _ _ _ hremove]
        exact .inl rfl
      · cases h

/-- A failed operation on one volume changes nothing, or is a client error that gives up a record. -/
theorem failed_run [CarefulProvider π] {c : Command} (hc : c.concernsOne = true)
    (h : exec (c.run store : ReconcilerM π Reliable _) w = (.error e, w')) :
    Failed store e w w' := by
  have hvolume : ∀ {x : ReconcilerM π Reliable Volume},
      exec (x >>= fun v => pure (Answer.volume v)) w = (.error e, w') →
        exec x w = (.error e, w') := fun hx => by
    rcases exec_bind_cases hx with ⟨e', hx', he⟩ | ⟨v, w₁, -, hx'⟩
    · cases he
      exact hx'
    · cases hx'
  cases c with
  | reconcile v existence => cases hc
  | list filter => cases hc
  | listAll filter => cases hc
  | inspect id => exact failed_inspect (hvolume h)
  | offer id requested =>
    exact failed_modify (overlayChange_schedulers fun ss => Schedulers.offer ss requested) (hvolume h)
  | revoke id revoked =>
    exact failed_modify (overlayChange_schedulers fun ss => Schedulers.revoke ss revoked) (hvolume h)
  | label id labels =>
    have h' := hvolume h
    unfold label at h'
    rcases exec_bind_cases h' with ⟨e', hcheck, -⟩ | ⟨_, w₁, hcheck, hmodify⟩
    · rw [checkLabels, exec_ofResult] at hcheck
      exact .inl (Prod.mk.inj hcheck).2.symm
    · rw [checkLabels, exec_ofResult] at hcheck
      obtain ⟨hlabels, rfl⟩ := Prod.mk.inj hcheck
      cases hl : Store.checkLeaves (store.order.names labels) with
      | error e' =>
        rw [hl] at hlabels
        cases hlabels
      | ok _ =>
        exact failed_modify (overlayChange_label (Store.checkLeaves_names.1 hl)) hmodify
  | removeLabels id keys => exact failed_modify (overlayChange_removeLabels keys) (hvolume h)
  | create request => exact failed_create (hvolume h)
  | remove id =>
    have h' : exec (remove store id : ReconcilerM π Reliable _) w = (.error e, w') := by
      rcases exec_bind_cases h with ⟨e', hx, he⟩ | ⟨_, w₁, -, hx⟩
      · cases he
        exact hx
      · cases hx
    exact failed_remove h'

/-! ### Mirrored fields -/

/-- Writing a record whose mirrored fields cannot be stored is a client error. -/
theorem givenUp_of_field {v : Volume} {es : Entries} (hp : store.persistFields = true)
    (hlabels : Store.checkLeaves v.labels.keys = .ok ())
    (hfield : ∃ name ∈ v.external.fields.keys, isLeaf name = false) :
    ∃ e, store.written v es = (.error e, store.indexed v es) ∧
      (VolumeError.store e).status = 400 := by
  obtain ⟨name, hmem, hname⟩ := hfield
  have hcheck : ∃ e, store.checkMirrored v = .error e := by
    cases hc : store.checkMirrored v with
    | error e => exact ⟨e, rfl⟩
    | ok _ =>
      rw [Store.checkMirrored_eq_ok_iff hp] at hc
      rw [Store.checkLeaves_eq_ok_iff.1 hc name hmem] at hname
      cases hname
  obtain ⟨e, hcheck⟩ := hcheck
  have hwritten : store.written v es = (.error e, store.indexed v es) := by
    unfold Store.written
    rw [Store.checkLeaves_names.2 hlabels]
    dsimp only
    rw [hcheck]
  refine ⟨e, hwritten, ?_⟩
  rcases Store.written_error hwritten with ⟨h, -⟩ | ⟨he, -⟩
  · rw [Store.checkLeaves_names.2 hlabels] at h
    cases h
  · exact he

omit [VolumeProvider π] in
/-- A stored field with a blank name is loaded, and can be written no more. -/
theorem loaded_blank_field (hp : store.persistFields = true) (v : Volume) :
    ∃ v', store.loaded v (store.markedWith v.overlayId.text
        (store.layout.subtree .externalFields v.overlayId.text ++ " ")) = .ok (some v') ∧
      v'.overlayId = v.overlayId ∧ Store.checkLeaves v'.labels.keys = .ok () ∧
      ∃ name ∈ v'.external.fields.keys, isLeaf name = false := by
  -- The reader takes any last segment for a name; only the writer asks that it is no blank.
  obtain ⟨w, hloaded, hid, hlabels, hfields⟩ :=
    Store.loaded_stored_field hp v " " (by decide) (by decide)
  exact ⟨w, hloaded, hid, hlabels, " ", (hfields " ").2 (.inr rfl), by decide⟩

/-- With a blank name among its stored fields, a volume that has nothing but its marker cannot be
offered: it is a client error, behind which the index part of the record stays. -/
theorem exists_offer_gives_up {p : π} {text service volumeId : String} {id : OverlayId}
    {ext : ExternalVolume} (hp : store.persistFields = true)
    (hparse : OverlayId.parse text = .ok id) (hsplit : id.split = some (service, volumeId))
    (hext : VolumeProvider.inspect p service volumeId = .ok ext) :
    ∃ es e w', exec (offer store text [] : ReconcilerM π Reliable _) ⟨p, es, {}⟩ = (.error e, w') ∧
      e.status = 400 ∧ w' ≠ ⟨p, es, {}⟩ := by
  obtain ⟨v, hloaded, hid, hlabels, hfield⟩ :=
    loaded_blank_field hp (Volume.ofExternal service ext)
  generalize hes : store.markedWith (Volume.ofExternal service ext).overlayId.text
    (store.layout.subtree .externalFields (Volume.ofExternal service ext).overlayId.text ++ " ") =
      es at hloaded
  have hinspect : exec (inspect store text : ReconcilerM π Reliable _) ⟨p, es, {}⟩ =
      (.ok v, ⟨p, es, {}⟩) := by
    rw [exec_inspect p es {} hparse hsplit, hext]
    show ((joined store _ es).1, (⟨p, (joined store _ es).2, {}⟩ : World π Reliable)) = _
    rw [joined, hloaded]
  let offered : Volume := { v with schedulers := Schedulers.offer v.schedulers [] }
  obtain ⟨e, hwritten, he⟩ : ∃ e, store.written offered es = (.error e, store.indexed offered es) ∧
      (VolumeError.store e).status = 400 := givenUp_of_field hp hlabels hfield
  have hoffered : sanitize offered.overlayId.text ≠ "" := hid ▸ sanitize_ofExternal service ext
  have hsave : exec (onStore (store.saveVolume offered) : ReconcilerM π Reliable _) ⟨p, es, {}⟩ =
      (.error (.store e), ⟨p, store.indexed offered es, {}⟩) := by
    rw [exec_save p es {} hoffered, hwritten]
    rfl
  refine ⟨es, .store e, ⟨p, store.indexed offered es, {}⟩, ?_, he, ?_⟩
  · unfold offer
    rw [modify_eq, exec_bind_of_ok hinspect, exec_bind_of_error hsave]
  · -- The service name was not stored before, and now it is.
    intro hsame
    have hservice : (store.indexed offered es).find?
        (store.layout.subtree .index offered.overlayId.text ++ Store.serviceNameLeaf) =
          some (Text.Utf8.encode offered.serviceName) := Store.find?_indexed offered es _
    have hentries : store.indexed offered es = es := congrArg (·.medium.entries) hsame
    rw [hentries, ← hes, show offered.overlayId = _ from hid,
      Store.find?_markedWith_index (by decide)] at hservice
    · cases hservice
    · exact (KeyLayout.subtree_diverge_of_ne (by decide) _ _).not_hasPrefix
        (Text.hasPrefix_append _ _)

/-- Client errors of operations on one volume change nothing, whatever the store holds. -/
def ClientErrorsHarmless (store : Store) (p : π) : Prop :=
  ∀ (es : Entries) (c : Command) (e : VolumeError) (w' : World π Reliable), c.concernsOne = true →
    exec (c.run store : ReconcilerM π Reliable _) ⟨p, es, {}⟩ = (.error e, w') → e.status = 400 →
      w' = ⟨p, es, {}⟩

/-- A failed operation on one volume changes nothing, or is a client error that gives up a record
behind its index part. Where the provider has a volume, client errors change nothing just when fields
are not mirrored. -/
theorem client_error_unchanged_iff [CarefulProvider π] (store : Store) {p : π}
    {text service volumeId : String} {id : OverlayId} {ext : ExternalVolume}
    (hparse : OverlayId.parse text = .ok id) (hsplit : id.split = some (service, volumeId))
    (hext : VolumeProvider.inspect p service volumeId = .ok ext) :
    (∀ (es : Entries) (c : Command) (e : VolumeError) (w' : World π Reliable),
      c.concernsOne = true →
        exec (c.run store : ReconcilerM π Reliable _) ⟨p, es, {}⟩ = (.error e, w') →
          Failed store e ⟨p, es, {}⟩ w') ∧
      (ClientErrorsHarmless store p ↔ store.persistFields = false) := by
  refine ⟨fun es c e w' hc h => failed_run hc h, ?_, ?_⟩
  · intro hharmless
    refine Decidable.byContradiction fun hp => ?_
    obtain ⟨es, e, w', hoffer, he, hne⟩ :=
      exists_offer_gives_up (eq_true_of_ne_false hp) hparse hsplit hext
    refine hne (hharmless es (.offer text []) e w' rfl ?_ he)
    exact exec_bind_of_error hoffer
  · intro hp es c e w' hc h he
    rcases failed_run hc h with hw | ⟨-, v, hgiven⟩
    · exact hw
    · rw [hgiven.mirrors] at hp
      cases hp

end Operations

/-- Without mirrored fields, client errors on an inventory with one volume change nothing. -/
theorem client_error_unchanged_single :
    let p : Inventory := ⟨.ofList [("mock", .ofList [("v", { id := "v" })])], 1⟩
    OverlayId.parse "mock-v" = .ok ⟨"mock-v"⟩ ∧
      OverlayId.split ⟨"mock-v"⟩ = some ("mock", "v") ∧
      VolumeProvider.inspect p "mock" "v" = .ok { id := "v" } ∧
      ClientErrorsHarmless { layout := .ofRoot "polly" } p := by
  refine ⟨rfl, rfl, rfl, ?_⟩
  have hparse : OverlayId.parse "mock-v" = .ok ⟨"mock-v"⟩ := rfl
  exact (client_error_unchanged_iff _ hparse rfl rfl).2.2 rfl

/-- A request with a field that cannot be stored. -/
def unstorableRequest : CreateRequest where
  serviceName := "mock"
  name := "data"
  fields := .ofList [("a/b", "x")]

/-- The run of a request with a field that cannot be stored, on an inventory without volumes. -/
def unstorableRun : Except VolumeError Answer × World Inventory Reliable :=
  exec ((Command.create unstorableRequest).run { layout := .ofRoot "polly", persistFields := true })
    ⟨⟨.ofList [("mock", ∅)], 3⟩, ∅, {}⟩

theorem unstorableRun_fst :
    unstorableRun.1 = .error (.store (.invalidIdentifier
      "label key 'a/b' must be non-empty and contain no '/'")) := rfl

theorem unstorableRun_nextNumber : unstorableRun.2.provider.nextNumber = 4 := rfl

/-- With mirrored fields, a request with a field that cannot be stored fails as a client error when
the volume is there. -/
theorem not_client_error_unchanged :
    ¬ ∀ (store : Store) (p : Inventory), ClientErrorsHarmless store p := by
  intro h
  have hsame := h _ _ _ _ _ unstorableRun.2 rfl (Prod.ext unstorableRun_fst rfl) rfl
  have hnumber := unstorableRun_nextNumber
  rw [hsame] at hnumber
  exact absurd hnumber (by decide)

end Reconciler

end VolumeOverlay
