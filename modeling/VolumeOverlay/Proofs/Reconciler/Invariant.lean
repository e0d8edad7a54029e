import VolumeOverlay.Proofs.Provider.Inventory
import VolumeOverlay.Proofs.Reconciler.Run

/-!
# Invariants of the reconciler

A command reaches the store in three ways: it loads the record of a volume, it writes one, and it
removes one. An invariant of the medium that these three maintain is therefore kept by every command,
whichever calls fail on the way. Along with it goes a property of volumes: when what is loaded has it,
and the changes that commands make of an overlay do not lose it, every volume that a command answers
has it.

## Main definitions

* `Both R I`: a property of the provider and one of the medium
* `Keeps R I Q x`: from a provider with `R`, an action keeps `I`, and answers as `Q` says
* `Maintains store I Live Good`: loading and writing keep `I`, and good volumes come from live ones
* `Alterable Good`: a property that the changes of an overlay do not lose
* `Command.Meets p c v`: a volume that a command meets at a provider
* `Answer.shown`: the volumes in an answer

## Main results

* `ensures_reconcile`, `ensures_list`, `ensures_listAll`, `ensures_inspect`, `ensures_modify`: the
  operations that leave the provider as it is
* `Command.keeps`: every command keeps what loading, writing and removing keep
-/

namespace VolumeOverlay

open Actions

namespace Reconciler

open ReconcilerM

variable {π σ α : Type} {R : π → Prop} {I : Medium σ → Prop}

/-! ### Shared steps -/

/-- A provider with a property, and a medium with another. -/
def Both (R : π → Prop) (I : Medium σ → Prop) (w : World π σ) : Prop :=
  R w.provider ∧ I w.medium

/-- From a provider with a property, an action keeps an invariant of the medium, and answers as a
predicate says. What becomes of the provider is left open. -/
def Keeps (R : π → Prop) (I : Medium σ → Prop) (Q : α → Prop) (x : ReconcilerM π σ α) : Prop :=
  ∀ w, R w.provider → I w.medium →
    I (exec x w).2.medium ∧ ∀ a, (exec x w).1 = .ok a → Q a

theorem Keeps.of_ensures {Q : α → Prop} {x : ReconcilerM π σ α} (h : Ensures (Both R I) Q x) :
    Keeps R I Q x := by
  intro w hp hm
  obtain ⟨⟨-, hkept⟩, hanswer⟩ := h w ⟨hp, hm⟩
  exact ⟨hkept, hanswer⟩

theorem Keeps.map {β : Type} {P : α → Prop} {Q : β → Prop} {x : ReconcilerM π σ α} {f : α → β}
    (h : Keeps R I P x) (hQ : ∀ a, P a → Q (f a)) :
    Keeps R I Q (x >>= fun a => pure (f a)) := by
  intro w hp hm
  obtain ⟨hkept, hanswer⟩ := h w hp hm
  rw [exec_bind]
  cases hx : exec x w with
  | mk answer w' =>
    rw [hx] at hkept hanswer
    cases answer with
    | error e => exact ⟨hkept, fun b hb => nomatch hb⟩
    | ok a =>
      refine ⟨hkept, fun b hb => ?_⟩
      cases hb
      exact hQ a (hanswer a rfl)

theorem ensures_onStore {Q : α → Prop} {x : StoreM σ α} (h : Ensures I Q x) :
    Ensures (Both R I) Q (onStore x : ReconcilerM π σ α) := by
  rintro w ⟨hp, hm⟩
  obtain ⟨hkept, hanswer⟩ := h w.medium hm
  rw [exec_onStore]
  exact ⟨⟨hp, hkept⟩, fun a ha => hanswer a (mapError_eq_ok_iff.1 ha)⟩

theorem ensures_ofResult {ε : Type} {J : World π σ → Prop} (kind : ε → VolumeError)
    (r : Except ε α) :
    Ensures J (fun a => r = .ok a) (ofResult kind r : ReconcilerM π σ α) := by
  intro w hw
  rw [exec_ofResult]
  exact ⟨hw, fun a ha => mapError_eq_ok_iff.1 ha⟩

/-- What the provider answers, it answers in the state that it is in. -/
theorem ensures_ask (question : π → Except ProviderError α) :
    Ensures (Both R I) (fun a => ∃ p, R p ∧ question p = .ok a)
      (ask question : ReconcilerM π σ α) := by
  intro w hw
  rw [exec_ask]
  exact ⟨hw, fun a ha => ⟨w.provider, hw.1, mapError_eq_ok_iff.1 ha⟩⟩

variable [VolumeProvider π]

theorem ensures_askVolume (id : OverlayId) (service volumeId : String) :
    Ensures (Both R I)
      (fun external => ∃ p, R p ∧ VolumeProvider.inspect p service volumeId = .ok external)
      (askVolume id service volumeId : ReconcilerM π σ ExternalVolume) := by
  intro w hw
  rw [exec_askVolume]
  exact ⟨hw, fun external ha => ⟨w.provider, hw.1, inspect_of_asked ha⟩⟩

/-! ### Volumes that commands meet -/

/-- A volume of a provider's listing. -/
def Listed (p : π) (v : Volume) : Prop :=
  ∃ vs, VolumeProvider.volumes p = .ok vs ∧ v ∈ vs

/-- Volumes of a listing have nothing but what the provider knows. -/
theorem Listed.exists_ofExternal {p : π} {v : Volume} (h : Listed p v) :
    ∃ service external, v = .ofExternal service external := by
  obtain ⟨vs, hvs, hv⟩ := h
  exact VolumeProvider.ofExternal_of_mem_volumes hvs hv

/-- A volume that a provider has under the id that a text is. -/
def Named (p : π) (text : String) (v : Volume) : Prop :=
  ∃ service volumeId external, OverlayId.split ⟨text⟩ = some (service, volumeId) ∧
    VolumeProvider.inspect p service volumeId = .ok external ∧ v = .ofExternal service external

/-- A volume that a provider makes at a request, with the overlay that was asked for. -/
def Made (p : π) (request : CreateRequest) (v : Volume) : Prop :=
  ∃ external, (VolumeProvider.create p request.serviceName request).1 = .ok external ∧
    v = created request external

/-- A volume that a command meets at a provider, to load or write its record. A removal meets none. -/
def Command.Meets (p : π) : Command → Volume → Prop
  | .reconcile u _, v => v = u
  | .list _, v | .listAll _, v => Listed p v
  | .inspect text, v | .offer text _, v | .revoke text _, v | .label text _, v
  | .removeLabels text _, v => Named p text v
  | .create request, v => Made p request v
  | .remove _, _ => False

/-- The volumes in an answer. -/
def Answer.shown : Answer → List Volume
  | .done => []
  | .volume v => [v]
  | .volumes vs => vs

variable [FaultSource σ] {store : Store} {Live Good : Volume → Prop}

/-- Loading a live volume and writing a good one keep an invariant of the medium, and a volume that is
loaded is good. -/
structure Maintains (store : Store) (I : Medium σ → Prop) (Live Good : Volume → Prop) : Prop where
  load : ∀ v, Live v →
    Ensures I (fun answer => ∀ w, answer = some w → Good w)
      (store.loadVolume v : StoreM σ (Option Volume))
  save : ∀ v, Good v → Ensures I (fun _ => True) (store.saveVolume v : StoreM σ Unit)

/-- A property of volumes that the changes of an overlay do not lose. -/
structure Alterable (Good : Volume → Prop) : Prop where
  offer : ∀ v names, Good v → Good { v with schedulers := Schedulers.offer v.schedulers names }
  revoke : ∀ v names, Good v → Good { v with schedulers := Schedulers.revoke v.schedulers names }
  relabel : ∀ (v : Volume) labels, Good v → Good { v with labels }

/-! ### Operations -/

section Operations

variable (h : Maintains store I Live Good)

include h

omit [VolumeProvider π] in
/-- Only a volume that may be registered has to be good itself. -/
theorem ensures_reconcile {v : Volume} {existence : Existence} (hlive : Live v)
    (hgood : existence = .establish → Good v) :
    Ensures (Both R I) (fun answer => ∀ w, answer = some w → Good w)
      (reconcile store v existence : ReconcilerM π σ (Option Volume)) := by
  refine (ensures_onStore (h.load v hlive)).bind fun answer hanswer => ?_
  cases answer with
  | some w => exact Ensures.pure hanswer
  | none =>
    -- What becomes of a volume without a record is up to the caller.
    cases existence with
    | required => exact Ensures.pure fun w hw => nomatch hw
    | establish =>
      refine (ensures_onStore (h.save v (hgood rfl))).bind fun _ _ => Ensures.pure ?_
      rintro w ⟨⟩
      exact hgood rfl

omit [VolumeProvider π] in
theorem ensures_listOne (filter : Filter) {v : Volume} (hlive : Live v) :
    Ensures (Both R I) (fun answer => ∀ w, answer = some w → Good w)
      (listOne store filter v : ReconcilerM π σ (Option Volume)) := by
  have hrequired : Existence.required = .establish → Good v := nofun
  refine (ensures_reconcile h hlive hrequired).bind fun answer hanswer => ?_
  cases answer with
  | none => exact Ensures.pure hanswer
  | some w =>
    dsimp only
    split
    · exact (ensures_onStore (h.save w (hanswer w rfl))).bind fun _ _ => Ensures.pure hanswer
    · exact Ensures.pure fun w' hw' => nomatch hw'

/-- A listing asks for registered volumes, so the live ones need not be good. -/
theorem ensures_list (filter : Filter) (hlive : ∀ p, R p → ∀ v, Listed p v → Live v) :
    Ensures (Both R I) (fun vs => ∀ v ∈ vs, Good v)
      (list store filter : ReconcilerM π σ (List Volume)) := by
  refine (ensures_ask _).bind fun vs ⟨p, hp, hvs⟩ => ?_
  have hloop : Ensures (Both R I) _ (vs.mapM (listOne store filter) : ReconcilerM π σ _) :=
    Ensures.mapM fun v hv => ensures_listOne h filter (hlive p hp v ⟨vs, hvs, hv⟩)
  refine hloop.bind fun listed hlisted => Ensures.pure fun v hv => ?_
  obtain ⟨answer, hmem, hanswer⟩ := List.mem_filterMap.1 hv
  exact hlisted answer hmem v hanswer

theorem ensures_listAll (filter : Filter)
    (hmet : ∀ p, R p → ∀ v, Listed p v → Live v ∧ Good v) :
    Ensures (Both R I) (fun vs => ∀ v ∈ vs, Good v)
      (listAll store filter : ReconcilerM π σ (List Volume)) := by
  refine (ensures_ask _).bind fun vs ⟨p, hp, hvs⟩ => ?_
  have hloop : Ensures (Both R I) _
      (vs.mapM fun v => reconcile store v .establish : ReconcilerM π σ _) :=
    Ensures.mapM fun v hv =>
      have hv := hmet p hp v ⟨vs, hvs, hv⟩
      ensures_reconcile h hv.1 fun _ => hv.2
  refine hloop.bind fun all hall => Ensures.pure fun v hv => ?_
  obtain ⟨answer, hmem, hanswer⟩ := List.mem_filterMap.1 (List.mem_filter.1 hv).1
  exact hall answer hmem v hanswer

theorem ensures_lookUp (id : OverlayId)
    (hmet : ∀ p, R p → ∀ v, Named p id.text v → Live v ∧ Good v) :
    Ensures (Both R I) Good (lookUp store id : ReconcilerM π σ Volume) := by
  unfold lookUp splitId
  cases hsplit : id.split with
  | none => exact (Ensures.throw (Q := fun _ => False) _).bind fun _ hnone => hnone.elim
  | some parts =>
    refine (Ensures.pure (Q := fun a => a = parts) rfl).bind ?_
    rintro ⟨service, volumeId⟩ rfl
    refine (ensures_askVolume id service volumeId).bind fun external ⟨p, hp, hexternal⟩ => ?_
    have hv := hmet p hp _ ⟨service, volumeId, external, hsplit, hexternal, rfl⟩
    refine (ensures_reconcile h hv.1 fun _ => hv.2).bind fun answer hanswer => ?_
    cases answer with
    | none => exact Ensures.throw _
    | some w => exact Ensures.pure (hanswer w rfl)

theorem ensures_inspect (text : String)
    (hmet : ∀ p, R p → ∀ v, Named p text v → Live v ∧ Good v) :
    Ensures (Both R I) Good (inspect store text : ReconcilerM π σ Volume) := by
  refine (ensures_ofResult _ _).bind fun id hid => ?_
  obtain rfl := OverlayId.eq_of_parse hid
  exact ensures_lookUp h _ hmet

theorem ensures_modify (text : String) {change : Volume → Volume}
    (hchange : ∀ v, Good v → Good (change v))
    (hmet : ∀ p, R p → ∀ v, Named p text v → Live v ∧ Good v) :
    Ensures (Both R I) Good (modify store text change : ReconcilerM π σ Volume) := by
  refine (ensures_ofResult _ _).bind fun id hid => ?_
  obtain rfl := OverlayId.eq_of_parse hid
  refine (ensures_lookUp h _ hmet).bind fun v hv => ?_
  have hgood := hchange v hv
  exact (ensures_onStore (h.save _ hgood)).bind fun _ _ => Ensures.pure hgood

/-- The provider has changed when the record of a new volume is written. -/
theorem keeps_create (request : CreateRequest) (hmet : ∀ p, R p → ∀ v, Made p request v → Good v) :
    Keeps R I Good (create store request : ReconcilerM π σ Volume) := by
  intro w hp hm
  by_cases hservice : Config.isServiceName request.serviceName = true
  · rw [create_of_isServiceName hservice, exec_bind]
    unfold checkLabels
    rw [exec_ofResult]
    cases Store.checkLeaves (store.order.names request.labels) with
    | error e => exact ⟨hm, fun a ha => nomatch ha⟩
    | ok _ =>
      dsimp only [Except.mapError]
      have hprovider := exec_onProvider w fun p =>
        VolumeProvider.create p request.serviceName request
      cases hmade : (VolumeProvider.create w.provider request.serviceName request).1 with
      | error e =>
        rw [hmade] at hprovider
        rw [exec_bind_of_error hprovider]
        exact ⟨hm, fun a ha => nomatch ha⟩
      | ok external =>
        rw [hmade] at hprovider
        rw [exec_bind_of_ok hprovider]
        -- The volume was made by the provider as it was before, so nothing is asked of the new one.
        have hgood := hmet w.provider hp _ ⟨external, hmade, rfl⟩
        have hwrite : Ensures (Both (fun _ : π => True) I) Good
            (onStore (store.saveVolume (created request external)) >>= fun _ =>
              pure (created request external) : ReconcilerM π σ Volume) :=
          (ensures_onStore (h.save _ hgood)).bind fun _ _ => Ensures.pure hgood
        exact Keeps.of_ensures hwrite _ trivial hm
  · rw [exec_create_of_not_isServiceName hservice]
    exact ⟨hm, fun a ha => nomatch ha⟩

end Operations

/-- The provider has changed when a record is removed, and the record is that of the id. -/
theorem keeps_remove (text : String)
    (hremove : OverlayId.parse text = .ok ⟨text⟩ →
      Ensures I (fun _ => True) (store.removeVolume ⟨text⟩ : StoreM σ Unit)) :
    Keeps R I (fun _ => True) (remove store text : ReconcilerM π σ Unit) := by
  intro w hp hm
  cases hparse : OverlayId.parse text with
  | error e =>
    rw [exec_remove_of_refused hparse]
    exact ⟨hm, fun _ _ => trivial⟩
  | ok id =>
    obtain rfl := OverlayId.eq_of_parse hparse
    obtain ⟨service, volumeId, hsplit⟩ := exists_split hparse
    rw [exec_remove_eq hparse hsplit]
    cases asked ⟨text⟩ (VolumeProvider.inspect w.provider service volumeId) with
    | error e => exact ⟨hm, fun _ _ => trivial⟩
    | ok external =>
      rcases VolumeProvider.remove w.provider service volumeId with ⟨_ | ⟨⟩, p⟩
      · exact ⟨hm, fun _ _ => trivial⟩
      · -- The record is dropped last, when the volume is gone from the provider already.
        obtain ⟨hdropped, -⟩ := hremove hparse w.medium hm
        dsimp only
        exact ⟨hdropped, fun _ _ => trivial⟩

/-- A command keeps what loading, writing and removing records keep, and every volume that it answers
is good. -/
theorem Command.keeps (c : Command) (h : Maintains store I Live Good) (hgood : Alterable Good)
    (hmet : ∀ p, R p → ∀ v, c.Meets p v → Live v ∧ Good v)
    (hremove : ∀ text, c = .remove text → OverlayId.parse text = .ok ⟨text⟩ →
      Ensures I (fun _ => True) (store.removeVolume ⟨text⟩ : StoreM σ Unit)) :
    Keeps R I (fun a => ∀ v ∈ a.shown, Good v) (c.run store : ReconcilerM π σ Answer) := by
  have hone : ∀ v, Good v → ∀ u ∈ (Answer.volume v).shown, Good u := by
    intro v hv u hu
    rwa [List.mem_singleton.1 hu]
  cases c with
  | reconcile v existence =>
    intro w hp hm
    have hv := hmet w.provider hp v rfl
    have hjoin : Ensures (Both R I) (fun a => ∀ u ∈ a.shown, Good u)
        (Command.run store (.reconcile v existence) : ReconcilerM π σ Answer) := by
      refine (ensures_reconcile h hv.1 fun _ => hv.2).bind fun answer hanswer => ?_
      cases answer with
      | none => exact Ensures.pure fun u hu => absurd hu List.not_mem_nil
      | some w => exact Ensures.pure (hone w (hanswer w rfl))
    exact Keeps.of_ensures hjoin w hp hm
  | list filter =>
    have hlist := ensures_list h filter fun p hp v hv => (hmet p hp v hv).1
    exact (Keeps.of_ensures hlist).map fun vs hvs => hvs
  | listAll filter =>
    have hlist := ensures_listAll h filter hmet
    exact (Keeps.of_ensures hlist).map fun vs hvs => hvs
  | inspect text => exact (Keeps.of_ensures (ensures_inspect h text hmet)).map hone
  | offer text requested =>
    have hchange := ensures_modify h text (fun v hv => hgood.offer v requested hv) hmet
    exact (Keeps.of_ensures hchange).map hone
  | revoke text revoked =>
    have hchange := ensures_modify h text (fun v hv => hgood.revoke v revoked hv) hmet
    exact (Keeps.of_ensures hchange).map hone
  | label text labels =>
    have hlabel : Ensures (Both R I) Good
        (Reconciler.label store text labels : ReconcilerM π σ Volume) :=
      (ensures_ofResult _ _).bind fun _ _ =>
        ensures_modify h text (fun v hv => hgood.relabel v _ hv) hmet
    exact (Keeps.of_ensures hlabel).map hone
  | removeLabels text keys =>
    have hchange := ensures_modify h text (fun v hv => hgood.relabel v (v.labels.eraseMany keys) hv)
      hmet
    exact (Keeps.of_ensures hchange).map hone
  | create request =>
    exact (keeps_create h request fun p hp v hv => (hmet p hp v hv).2).map hone
  | remove text =>
    refine (keeps_remove text (hremove text rfl)).map fun _ _ => ?_
    exact fun u hu => absurd hu List.not_mem_nil

end Reconciler

end VolumeOverlay
