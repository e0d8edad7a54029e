import VolumeOverlay.Proofs.Reconciler.Invariant
import VolumeOverlay.Proofs.Store.Failures

/-!
# Overlay ids from end to end

An overlay id is taken apart at its first separator and put together again around it, and a text is
accepted when both parts have something in them. What the store makes of an id in its keys is coarser:
blanks and slashes at the ends are dropped. The separator is neither, so it stays, and with it the
store finds something left of every id that was accepted or put together, whatever its parts are made
of. Every id that the reconciler hands to the store is of these two sorts, but for that of a volume it
is handed itself, so this is the one id that the store may refuse.

## Main definitions

* `OverlayId.Formed id`: an id that was accepted, or put together from a service and an external id
* `VolumeError.SparesId e`: an error that is about no id of which the store makes a key

## Main results

* `OverlayId.of_eq_of_iff`, `OverlayId.exists_parse_iff`: putting ids together, and accepting them
* `OverlayId.Formed.sanitize_ne_empty`: something is left of a formed id
* `Reconciler.blank_or_outcomes_run`: how the commands fail
* `Reconciler.overlayId_algebra`: the laws of overlay ids, and the commands that an id is refused in
-/

namespace VolumeOverlay

open Actions

namespace OverlayId

/-- Ids of different pairs are different, as long as service names hold no separator. -/
theorem of_eq_of_iff {service service' external external' : String}
    (h : separator ∉ service.toList) (h' : separator ∉ service'.toList) :
    of service external = of service' external' ↔ service = service' ∧ external = external' := by
  constructor
  · intro heq
    have hsplit : (of service external).split = some (service, external) := split_of h
    rw [heq, split_of h', Option.some.injEq, Prod.mk.injEq] at hsplit
    exact ⟨hsplit.1.symm, hsplit.2.symm⟩
  · rintro ⟨rfl, rfl⟩
    rfl

/-- A text is accepted if there is something before and after its first separator. -/
theorem exists_parse_iff {x : String} :
    (∃ id, parse x = .ok id) ↔
      ∃ before after : String, before ≠ "" ∧ after ≠ "" ∧ separator ∉ before.toList ∧
        x = before ++ separator.toString ++ after := by
  constructor
  · rintro ⟨id, hparse⟩
    obtain ⟨rfl, before, after, hsplit, hbefore, hafter⟩ := parse_eq_ok_iff.1 hparse
    obtain ⟨-, hnone⟩ := Text.cutFirst_eq_some_iff.1 hsplit
    have hjoin := congrArg text (of_of_split hsplit)
    exact ⟨before, after, hbefore, hafter, hnone, hjoin.symm⟩
  · rintro ⟨before, after, hbefore, hafter, hnone, rfl⟩
    exact ⟨of before after, parse_of hbefore hnone hafter⟩

/-- An id that a text was accepted as, or that was put together from a service name and an external
id. The parts of the latter may be empty. -/
inductive Formed : OverlayId → Prop
  | parsed {x : String} {id : OverlayId} (h : parse x = .ok id) : Formed id
  | built (service external : String) : Formed (of service external)

theorem Formed.separator_mem {id : OverlayId} (h : id.Formed) : separator ∈ id.text.toList := by
  cases h with
  | parsed h =>
    -- An accepted text has a separator, or it could not be split.
    obtain ⟨rfl, service, external, hsplit, -, -⟩ := parse_eq_ok_iff.1 h
    exact separator_mem_of_split hsplit
  | built service external => exact separator_mem_of service external

/-- Trimming blanks and slashes never drops the separator. -/
theorem Formed.sanitize_ne_empty {id : OverlayId} (h : id.Formed) : sanitize id.text ≠ "" :=
  sanitize_ne_empty_of_mem h.separator_mem

end OverlayId

/-- An error that is about no id of which the store makes a key. -/
def VolumeError.SparesId : VolumeError → Prop
  | .store e => e.SparesId
  | .invalidId _ | .notFound _ | .provider _ => True

namespace Reconciler

open ReconcilerM

variable {π σ : Type}

/-! ### Shared steps -/

section Steps

variable {α : Type} {Q : α → Prop}

theorem outcomes_onStore {x : StoreM σ α} (h : Outcomes StoreError.SparesId Q x) :
    Outcomes VolumeError.SparesId Q (onStore x : ReconcilerM π σ α) := by
  intro w
  obtain ⟨herror, hanswer⟩ := h w.medium
  rw [exec_onStore]
  refine ⟨fun e he => ?_, fun a ha => hanswer a (mapError_eq_ok_iff.1 ha)⟩
  obtain ⟨e', he', rfl⟩ := mapError_eq_error_iff.1 he
  exact herror e' he'

theorem outcomes_ofResult {ε : Type} (kind : ε → VolumeError) {r : Except ε α}
    (h : ∀ e, r = .error e → (kind e).SparesId) :
    Outcomes VolumeError.SparesId (fun a => r = .ok a) (ofResult kind r : ReconcilerM π σ α) := by
  intro w
  rw [exec_ofResult]
  refine ⟨fun e he => ?_, fun a ha => mapError_eq_ok_iff.1 ha⟩
  obtain ⟨e', he', rfl⟩ := mapError_eq_error_iff.1 he
  exact h e' he'

theorem outcomes_ask (question : π → Except ProviderError α) :
    Outcomes VolumeError.SparesId (fun a => ∃ p, question p = .ok a)
      (ask question : ReconcilerM π σ α) := by
  intro w
  rw [exec_ask]
  refine ⟨fun e he => ?_, fun a ha => ⟨w.provider, mapError_eq_ok_iff.1 ha⟩⟩
  obtain ⟨e', -, rfl⟩ := mapError_eq_error_iff.1 he
  trivial

theorem outcomes_onProvider (change : π → Except ProviderError α × π) :
    Outcomes VolumeError.SparesId (fun _ => True) (onProvider change : ReconcilerM π σ α) := by
  intro w
  rw [exec_onProvider]
  refine ⟨fun e he => ?_, fun _ _ => trivial⟩
  obtain ⟨e', -, rfl⟩ := mapError_eq_error_iff.1 he
  trivial

end Steps

theorem outcomes_askVolume [VolumeProvider π] (id : OverlayId) (service volumeId : String) :
    Outcomes VolumeError.SparesId (fun _ => True)
      (askVolume id service volumeId : ReconcilerM π σ ExternalVolume) := by
  intro w
  rw [exec_askVolume]
  refine ⟨fun e he => ?_, fun _ _ => trivial⟩
  rcases asked_error_cases he with rfl | ⟨source, rfl⟩
  · trivial
  · trivial

theorem outcomes_parseId (text : String) :
    Outcomes VolumeError.SparesId (fun id => id.Formed) (parseId text : ReconcilerM π σ OverlayId) :=
  (outcomes_ofResult .invalidId fun _ _ => trivial).mono fun _ h => .parsed h

theorem outcomes_splitId (id : OverlayId) :
    Outcomes VolumeError.SparesId (fun _ => True)
      (splitId id : ReconcilerM π σ (String × String)) := by
  unfold splitId
  split
  · exact Outcomes.pure trivial
  · exact Outcomes.throw trivial

theorem outcomes_checkLabels (labels : LabelMap) :
    Outcomes VolumeError.SparesId (fun _ => True) (checkLabels store labels : ReconcilerM π σ Unit) := by
  refine (outcomes_ofResult .store fun e he => ?_).mono fun _ _ => trivial
  obtain ⟨leaf, -, -, hleaf⟩ := Store.exists_of_checkLeaves_eq_error he
  exact StoreError.SparesId.leaf hleaf

/-! ### Operations -/

section Operations

variable [FaultSource σ] {store : Store} {v : Volume}

/-- A volume whose id has something left fails for no id, and neither does what it is joined with. -/
theorem outcomes_reconcile (hid : sanitize v.overlayId.text ≠ "") (existence : Existence) :
    Outcomes VolumeError.SparesId (fun answer => ∀ w, answer = some w → sanitize w.overlayId.text ≠ "")
      (reconcile store v existence : ReconcilerM π σ (Option Volume)) := by
  refine (outcomes_onStore (Store.outcomes_loadVolume hid)).bind fun answer hanswer => ?_
  cases answer with
  | some loaded =>
    refine Outcomes.pure fun w hw => ?_
    rwa [hanswer w hw]
  | none =>
    cases existence with
    | required => exact Outcomes.pure fun w hw => nomatch hw
    | establish =>
      refine (outcomes_onStore (Store.outcomes_saveVolume hid)).bind fun _ _ => Outcomes.pure ?_
      rintro w ⟨⟩
      exact hid

/-- An id of which nothing is left is refused before anything else happens. -/
theorem exec_reconcile_of_blank (hid : sanitize v.overlayId.text = "") (existence : Existence)
    (w : World π σ) :
    exec (reconcile store v existence : ReconcilerM π σ (Option Volume)) w =
      (.error (.store (.invalidIdentifier "object id must not be empty")), w) := by
  have hload : exec (onStore (store.loadVolume v) : ReconcilerM π σ (Option Volume)) w =
      (.error (.store (.invalidIdentifier "object id must not be empty")), w) := by
    rw [exec_onStore, Store.exec_loadVolume_of_blank hid]
    rfl
  unfold reconcile
  rw [exec_bind_of_error hload]

theorem outcomes_listOne (hid : sanitize v.overlayId.text ≠ "") (filter : Filter) :
    Outcomes VolumeError.SparesId (fun _ => True)
      (listOne store filter v : ReconcilerM π σ (Option Volume)) := by
  refine (outcomes_reconcile hid .required).bind fun answer hanswer => ?_
  cases answer with
  | none => exact Outcomes.pure trivial
  | some w =>
    dsimp only
    split
    · refine (outcomes_onStore (Store.outcomes_saveVolume (hanswer w rfl))).bind fun _ _ => ?_
      exact Outcomes.pure trivial
    · exact Outcomes.pure trivial

variable [VolumeProvider π]

/-- Volumes of a listing have ids that are put together. -/
theorem sanitize_ne_empty_of_listed {p : π} {vs : List Volume} (hvs : VolumeProvider.volumes p = .ok vs)
    (hv : v ∈ vs) : sanitize v.overlayId.text ≠ "" := by
  obtain ⟨service, external, rfl⟩ := Listed.exists_ofExternal ⟨vs, hvs, hv⟩
  exact sanitize_ofExternal service external

theorem outcomes_list (filter : Filter) :
    Outcomes VolumeError.SparesId (fun _ => True)
      (list store filter : ReconcilerM π σ (List Volume)) := by
  refine (outcomes_ask _).bind fun vs ⟨p, hvs⟩ => ?_
  have hloop : Outcomes _ _ (vs.mapM (listOne store filter) : ReconcilerM π σ _) :=
    Outcomes.mapM fun v hv => outcomes_listOne (sanitize_ne_empty_of_listed hvs hv) filter
  exact hloop.bind fun _ _ => Outcomes.pure trivial

theorem outcomes_listAll (filter : Filter) :
    Outcomes VolumeError.SparesId (fun _ => True)
      (listAll store filter : ReconcilerM π σ (List Volume)) := by
  refine (outcomes_ask _).bind fun vs ⟨p, hvs⟩ => ?_
  have hloop : Outcomes _ _ (vs.mapM fun v => reconcile store v .establish : ReconcilerM π σ _) :=
    Outcomes.mapM fun v hv => outcomes_reconcile (sanitize_ne_empty_of_listed hvs hv) .establish
  exact hloop.bind fun _ _ => Outcomes.pure trivial

theorem outcomes_lookUp (id : OverlayId) :
    Outcomes VolumeError.SparesId (fun v => sanitize v.overlayId.text ≠ "")
      (lookUp store id : ReconcilerM π σ Volume) := by
  refine (outcomes_splitId id).bind fun parts _ => ?_
  obtain ⟨service, volumeId⟩ := parts
  refine (outcomes_askVolume id service volumeId).bind fun external _ => ?_
  -- The provider may answer with another volume than was asked for, so the id that counts is the one
  -- put together from its answer.
  have hid := sanitize_ofExternal service external
  refine (outcomes_reconcile hid .establish).bind fun answer hanswer => ?_
  cases answer with
  | some w => exact Outcomes.pure (hanswer w rfl)
  | none => exact Outcomes.throw trivial

theorem outcomes_inspect (text : String) :
    Outcomes VolumeError.SparesId (fun v => sanitize v.overlayId.text ≠ "")
      (inspect store text : ReconcilerM π σ Volume) :=
  (outcomes_parseId text).bind fun id _ => outcomes_lookUp id

/-- A change of the overlay leaves the id as it was looked up. -/
theorem outcomes_modify (text : String) {change : Volume → Volume}
    (hchange : ∀ v, (change v).overlayId = v.overlayId) :
    Outcomes VolumeError.SparesId (fun _ => True)
      (modify store text change : ReconcilerM π σ Volume) := by
  refine (outcomes_parseId text).bind fun id _ => (outcomes_lookUp id).bind fun v hv => ?_
  have hid : sanitize (change v).overlayId.text ≠ "" := by rwa [hchange v]
  exact (outcomes_onStore (Store.outcomes_saveVolume hid)).bind fun _ _ => Outcomes.pure trivial

theorem outcomes_create (request : CreateRequest) :
    Outcomes VolumeError.SparesId (fun _ => True)
      (create store request : ReconcilerM π σ Volume) := by
  by_cases hservice : Config.isServiceName request.serviceName = true
  · rw [create_of_isServiceName hservice]
    refine (outcomes_checkLabels _).bind fun _ _ => (outcomes_onProvider _).bind fun external _ => ?_
    have hid : sanitize (created request external).overlayId.text ≠ "" :=
      sanitize_ofExternal request.serviceName external
    exact (outcomes_onStore (Store.outcomes_saveVolume hid)).bind fun _ _ => Outcomes.pure trivial
  · intro w
    rw [exec_create_of_not_isServiceName hservice]
    refine ⟨fun e he => ?_, fun _ _ => trivial⟩
    cases he
    trivial

theorem outcomes_remove (text : String) :
    Outcomes VolumeError.SparesId (fun _ => True) (remove store text : ReconcilerM π σ Unit) := by
  refine (outcomes_parseId text).bind fun id hid => (outcomes_splitId id).bind fun parts _ => ?_
  obtain ⟨service, volumeId⟩ := parts
  refine (outcomes_askVolume id service volumeId).bind fun _ _ => ?_
  refine (outcomes_onProvider _).bind fun _ _ => outcomes_onStore ?_
  -- A removal hands the store the id as it was accepted, not that of a volume.
  exact Store.outcomes_removeVolume hid.sanitize_ne_empty

/-- No command fails for an id, unless it is handed a volume with an id of which nothing is left. -/
theorem blank_or_outcomes_run (store : Store) (command : Command) :
    (∃ v existence, command = .reconcile v existence ∧ sanitize v.overlayId.text = "") ∨
      Outcomes VolumeError.SparesId (fun _ => True)
        (command.run store : ReconcilerM π σ Answer) := by
  have hone : ∀ {x : ReconcilerM π σ Volume}, Outcomes VolumeError.SparesId (fun _ => True) x →
      Outcomes VolumeError.SparesId (fun _ => True) (x >>= fun v => pure (Answer.volume v)) :=
    fun h => h.bind fun _ _ => Outcomes.pure trivial
  cases command with
  | reconcile v existence =>
    -- The only command that comes with an id of its own, which nothing was asked of.
    by_cases hid : sanitize v.overlayId.text = ""
    · exact .inl ⟨v, existence, rfl, hid⟩
    · refine .inr ((outcomes_reconcile hid existence).bind fun answer _ => ?_)
      cases answer with
      | none => exact Outcomes.pure trivial
      | some _ => exact Outcomes.pure trivial
  | list filter => exact .inr ((outcomes_list filter).bind fun _ _ => Outcomes.pure trivial)
  | listAll filter => exact .inr ((outcomes_listAll filter).bind fun _ _ => Outcomes.pure trivial)
  | inspect text => exact .inr (hone ((outcomes_inspect text).mono fun _ _ => trivial))
  | offer text requested => exact .inr (hone (outcomes_modify text fun _ => rfl))
  | revoke text revoked => exact .inr (hone (outcomes_modify text fun _ => rfl))
  | label text labels =>
    refine .inr (hone ?_)
    exact (outcomes_checkLabels labels).bind fun _ _ => outcomes_modify text fun _ => rfl
  | removeLabels text keys => exact .inr (hone (outcomes_modify text fun _ => rfl))
  | create request => exact .inr (hone (outcomes_create request))
  | remove text => exact .inr ((outcomes_remove text).bind fun _ _ => Outcomes.pure trivial)

/-- A command that is handed a volume with an id of which nothing is left fails for that id. -/
theorem exec_run_of_blank (hid : sanitize v.overlayId.text = "") (existence : Existence)
    (w : World π σ) :
    exec (Command.run store (.reconcile v existence) : ReconcilerM π σ Answer) w =
      (.error (.store (.invalidIdentifier "object id must not be empty")), w) :=
  exec_bind_of_error (exec_reconcile_of_blank hid existence w)

/-- A command fails for an id just when it is handed a volume with an id of which nothing is left. -/
theorem exists_refusesId_iff (store : Store) (command : Command) (w : World π σ) :
    (∃ e : StoreError, (exec (command.run store : ReconcilerM π σ Answer) w).1 = .error (.store e) ∧
        e.RefusesId) ↔
      ∃ v existence, command = .reconcile v existence ∧ sanitize v.overlayId.text = "" ∧
        ¬ v.overlayId.Formed := by
  constructor
  · rintro ⟨e, he, hrefuses⟩
    rcases blank_or_outcomes_run (π := π) (σ := σ) store command with
      ⟨v, existence, hcommand, hid⟩ | hrun
    · exact ⟨v, existence, hcommand, hid, fun hformed => hformed.sanitize_ne_empty hid⟩
    · have hspares : e.SparesId := (hrun w).1 _ he
      exact absurd hrefuses hspares.not_refusesId
  · rintro ⟨v, existence, rfl, hid, -⟩
    rw [exec_run_of_blank hid]
    exact ⟨_, rfl, store.layout, .index, v.overlayId.text, KeyLayout.objectKey_eq_error hid⟩

/-- An invalid identifier in the answer of a command is a refused id or a refused leaf. -/
theorem refusesId_or_exists_leaf {store : Store} {command : Command} {w : World π σ} {detail : String}
    (h : (exec (command.run store : ReconcilerM π σ Answer) w).1 =
      .error (.store (.invalidIdentifier detail))) :
    (StoreError.invalidIdentifier detail).RefusesId ∨
      ∃ leaf, checkLeaf leaf = .error (.invalidIdentifier detail) := by
  rcases blank_or_outcomes_run (π := π) (σ := σ) store command with ⟨v, existence, rfl, hid⟩ | hrun
  · rw [exec_run_of_blank hid] at h
    cases h
    exact .inl ⟨store.layout, .index, v.overlayId.text, KeyLayout.objectKey_eq_error hid⟩
  · have hspares : (StoreError.invalidIdentifier detail).SparesId := (hrun w).1 _ h
    exact .inr hspares.exists_leaf

end Operations

/-- Splitting an id gives back what it was put together from, so different pairs have different ids. A
text is accepted just when it has something before and after its first separator, and the two put
together again are that text. The store has a key for every id that was accepted or put together, so
the only id that a command fails for is one that it is handed in a volume and that is neither. -/
theorem overlayId_algebra (π σ : Type) [VolumeProvider π] [FaultSource σ] :
    (∀ service external : String, OverlayId.separator ∉ service.toList →
      (OverlayId.of service external).split = some (service, external)) ∧
    (∀ service external service' external' : String, OverlayId.separator ∉ service.toList →
      OverlayId.separator ∉ service'.toList → (service, external) ≠ (service', external') →
        OverlayId.of service external ≠ OverlayId.of service' external') ∧
    (∀ x : String, (∃ id, OverlayId.parse x = .ok id) ↔
      ∃ before after : String, before ≠ "" ∧ after ≠ "" ∧ OverlayId.separator ∉ before.toList ∧
        x = before ++ OverlayId.separator.toString ++ after) ∧
    (∀ (x : String) (id : OverlayId), OverlayId.parse x = .ok id →
      id.text = x ∧ ∃ service external, id.split = some (service, external) ∧
        (OverlayId.of service external).text = x) ∧
    (∀ (root : String) (category : Category) (id : OverlayId), id.Formed →
      ∃ key, (KeyLayout.ofRoot root).objectKey category id.text = .ok key) ∧
    (∀ (store : Store) (command : Command) (w : World π σ),
      (∃ e : StoreError, (exec (command.run store : ReconcilerM π σ Answer) w).1 =
          .error (.store e) ∧ e.RefusesId) ↔
        ∃ v existence, command = .reconcile v existence ∧ sanitize v.overlayId.text = "" ∧
          ¬ v.overlayId.Formed) ∧
    ∀ (store : Store) (command : Command) (w : World π σ) (detail : String),
      (exec (command.run store : ReconcilerM π σ Answer) w).1 =
          .error (.store (.invalidIdentifier detail)) →
        (StoreError.invalidIdentifier detail).RefusesId ∨
          ∃ leaf, checkLeaf leaf = .error (.invalidIdentifier detail) := by
  refine ⟨fun _ _ h => OverlayId.split_of h, fun _ _ _ _ h h' hne heq => ?_,
    fun _ => OverlayId.exists_parse_iff, fun x id hparse => ?_, fun root category id hid => ?_,
    exists_refusesId_iff, fun _ _ _ _ h => refusesId_or_exists_leaf h⟩
  · obtain ⟨hservice, hexternal⟩ := (OverlayId.of_eq_of_iff h h').1 heq
    exact hne (Prod.ext hservice hexternal)
  · obtain ⟨rfl, service, external, hsplit, -, -⟩ := OverlayId.parse_eq_ok_iff.1 hparse
    exact ⟨rfl, service, external, hsplit, congrArg OverlayId.text (OverlayId.of_of_split hsplit)⟩
  · exact ⟨_, KeyLayout.objectKey_eq_ok hid.sanitize_ne_empty⟩

/-- Parts that are made of separators, slashes and blanks. -/
theorem overlayId_algebra_dashes :
    OverlayId.separator ∉ "mock".toList ∧
      (OverlayId.of "mock" "-/ ").split = some ("mock", "-/ ") ∧
      OverlayId.parse " -/" = .ok ⟨" -/"⟩ ∧
      ∃ key, (KeyLayout.ofRoot "/").objectKey .index " -/" = .ok key := by
  have hservice : OverlayId.separator ∉ "mock".toList := by decide
  have hparse : OverlayId.parse " -/" = .ok ⟨" -/"⟩ := rfl
  obtain ⟨hsplit, -, -, -, hkey, -⟩ := overlayId_algebra Inventory Reliable
  exact ⟨hservice, hsplit _ _ hservice, hparse, hkey "/" .index ⟨" -/"⟩ (.parsed hparse)⟩

/-- A volume whose id was never accepted nor put together. -/
def blankVolume : Volume :=
  { Volume.ofExternal "mock" { id := "vol-000" } with overlayId := ⟨"  "⟩ }

/-- A volume that is handed over with a blank id is refused for it. -/
theorem not_ids_never_refused :
    ¬ ∀ (store : Store) (command : Command) (w : World Inventory Reliable) (e : StoreError),
      (exec (command.run store : ReconcilerM Inventory Reliable Answer) w).1 = .error (.store e) →
        ¬ e.RefusesId := by
  intro h
  have hid : sanitize blankVolume.overlayId.text = "" := by decide
  let store : Store := { layout := .ofRoot "polly" }
  let w : World Inventory Reliable := ⟨⟨.ofList [("mock", ∅)], 3⟩, ∅, {}⟩
  have hrun : exec (Command.run store (.reconcile blankVolume .required) : ReconcilerM _ _ _) w = _ :=
    exec_run_of_blank hid .required w
  exact h _ _ _ _ (congrArg Prod.fst hrun)
    ⟨.ofRoot "polly", .index, "  ", KeyLayout.objectKey_eq_error hid⟩

end Reconciler

end VolumeOverlay
