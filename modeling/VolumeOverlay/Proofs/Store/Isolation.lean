import VolumeOverlay.Proofs.Store.Footprint
import VolumeOverlay.Proofs.Store.Index

/-!
# Isolation of records

Writing or removing the record of one volume is not noticed by another volume when the ids of the two
are apart: their subtrees have no key in common. Ids that are not apart do disturb each other. Then
one subtree lies inside the other, and removing the record of the one takes away the existence marker
of the other, or a label that the other would report as its own.

## Main definitions

* `Store.Changes a es es'`: a run without faults that writes or removes the record of an id
* `Store.reported answer`: what loading a volume reports of its overlay
* `Store.SameFor b es es'`: a volume is found alike in two states of the entries

## Main results

* `Store.Changes.find?_eq`: a change leaves every key outside the record as it was
* `Store.changes_unnoticed_iff_apart`: changes of one record go unnoticed by another volume just when
  the two ids are apart
-/

namespace VolumeOverlay

open Actions
open Text (hasPrefix)

namespace Store

/-- A run without faults that writes or removes the record of an id. -/
inductive Changes (store : Store) (a : OverlayId) (es es' : Entries) : Prop where
  | saved (v : Volume) (hv : v.overlayId = a)
      (h : exec (store.saveVolume v : StoreM Reliable Unit) ⟨es, {}⟩ = (.ok (), ⟨es', {}⟩))
  | removed
      (h : exec (store.removeVolume a : StoreM Reliable Unit) ⟨es, {}⟩ = (.ok (), ⟨es', {}⟩))

/-- What loading a volume reports of its overlay, if there is one: schedulers, service and labels. -/
def reported (answer : Except StoreError (Option Volume)) :
    Except StoreError (Option (List String × String × LabelMap)) :=
  answer.map fun found => found.map fun v => (v.schedulers, v.serviceName, v.labels)

/-- A volume is found alike in two states of the entries: whether it is registered, and what loading
it reports. -/
structure SameFor (store : Store) (b : OverlayId) (es es' : Entries) : Prop where
  registered :
    (exec (store.isRegistered b : StoreM Reliable Bool) ⟨es, {}⟩).1 =
      (exec (store.isRegistered b : StoreM Reliable Bool) ⟨es', {}⟩).1
  loaded : ∀ w : Volume, w.overlayId = b →
    reported (exec (store.loadVolume w : StoreM Reliable (Option Volume)) ⟨es, {}⟩).1 =
      reported (exec (store.loadVolume w : StoreM Reliable (Option Volume)) ⟨es', {}⟩).1

variable {store : Store} {a b : OverlayId} {es es' : Entries}

/-! ### Ids that are apart -/

/-- A change leaves every key outside the record as it was. -/
theorem Changes.find?_eq (h : store.Changes a es es') {k : String}
    (hk : ¬ store.InRecord a.text k) : es.find? k = es'.find? k := by
  cases h with
  | saved v hv h =>
    subst hv
    have hmoves := moves_saveVolume (allows_agreeOff (store.InRecord v.overlayId.text))
      ⟨es, Reliable.mk⟩
    rw [h] at hmoves
    exact hmoves k hk
  | removed h =>
    have hmoves := moves_removeVolume (allows_agreeOff (store.InRecord a.text)) ⟨es, Reliable.mk⟩
    rw [h] at hmoves
    exact hmoves k hk

/-- A volume is found alike when the keys of its record are as they were. Loading it then answers the
same in every respect. -/
theorem sameFor_of_find?_eq (hb : sanitize b.text ≠ "")
    (h : ∀ k, store.InRecord b.text k → es.find? k = es'.find? k) : store.SameFor b es es' where
  registered := by
    rw [exec_isRegistered _ _ hb, exec_isRegistered _ _ hb,
      KeyMap.contains_eq_of_find?_eq (h _ inRecord_markerKey)]
  loaded := by
    rintro w rfl
    rw [exec_loadVolume _ _ hb, exec_loadVolume _ _ hb, loaded_congr h]

/-! ### Ids that are not apart -/

/-- A volume that is found alike is registered in both states or in neither. -/
theorem SameFor.contains_markerKey (h : store.SameFor b es es') (hb : sanitize b.text ≠ "") :
    es.contains (store.markerKey b.text) = es'.contains (store.markerKey b.text) := by
  have hreg := h.registered
  rw [exec_isRegistered _ _ hb, exec_isRegistered _ _ hb] at hreg
  exact Except.ok.inj hreg

/-- A volume that is found alike and loaded in the one state is loaded in the other, with the same
labels. -/
theorem SameFor.exists_loaded {w v : Volume} (h : store.SameFor w.overlayId es es')
    (hw : sanitize w.overlayId.text ≠ "") (hv : store.loaded w es = .ok (some v)) :
    ∃ v', store.loaded w es' = .ok (some v') ∧ v'.labels = v.labels := by
  have hloaded := h.loaded w rfl
  rw [exec_loadVolume _ _ hw, exec_loadVolume _ _ hw, hv] at hloaded
  dsimp only at hloaded
  cases hv' : store.loaded w es' with
  | error e =>
    rw [hv'] at hloaded
    cases hloaded
  | ok answer =>
    rw [hv'] at hloaded
    cases answer with
    | none => cases hloaded
    | some v' =>
      have hparts := Option.some.inj (Except.ok.inj hloaded)
      exact ⟨v', rfl, (congrArg (fun parts => parts.2.2) hparts).symm⟩

/-- A label stored inside the subtree of a volume is reported as a label of that volume, until the
record that it belongs to is removed. -/
theorem not_sameFor_removed (hb : sanitize b.text ≠ "") (hab : ¬ a.Apart b) :
    let es := store.markedWith b.text (store.layout.subtree .adminLabels a.text ++ "k")
    ¬ store.SameFor b es (store.removed a.text es) := by
  intro es hsame
  have hmarked : es.contains (store.markerKey b.text) = true := contains_markedWith.2 (.inr rfl)
  -- The marker stays, so it is the subtree of `a` that lies inside the one of `b`.
  have hnot : ¬ hasPrefix (store.layout.subtree .index a.text) (store.markerKey b.text) := by
    intro hp
    have hgone : (store.removed a.text es).find? (store.markerKey b.text) = none := by
      rw [find?_removed, if_pos ⟨.index, by decide, hp⟩]
    have hkept := hsame.contains_markerKey hb
    rw [hmarked, KeyMap.contains, hgone] at hkept
    cases hkept
  have hinside : hasPrefix (sanitize b.text ++ "/") (sanitize a.text ++ "/") := by
    refine Decidable.byContradiction fun hn => hab ⟨fun hp => hnot ?_, hn⟩
    exact Text.hasPrefix_trans (KeyLayout.hasPrefix_subtree_iff.2 hp) hasPrefix_markerKey
  -- The label of `a` is reported for `b` before the removal, and cannot be reported after it.
  obtain ⟨w, rfl⟩ : ∃ w : Volume, w.overlayId = b := ⟨⟨{ id := "" }, b, "", [], ∅⟩, rfl⟩
  have hkey : ¬ hasPrefix (store.layout.subtree .index w.overlayId.text)
      (store.layout.subtree .adminLabels a.text ++ "k") :=
    (KeyLayout.subtree_diverge_of_ne (by decide) _ _).not_hasPrefix (Text.hasPrefix_append _ _)
  obtain ⟨w', hbefore⟩ : ∃ w', store.loaded w es = .ok (some w') := ⟨_, loaded_markedWith hkey⟩
  obtain ⟨w'', hafter, hlabels⟩ := hsame.exists_loaded hb hbefore
  obtain ⟨_, rfl⟩ := eq_merge_of_loaded hbefore
  obtain ⟨_, rfl⟩ := eq_merge_of_loaded hafter
  dsimp only [merge] at hlabels
  have hlabel : (es.texts (store.layout.subtree .adminLabels w.overlayId.text)).contains "k" := by
    refine Entries.contains_texts_iff.2 ⟨by decide, store.layout.subtree .adminLabels a.text ++ "k",
      ?_, contains_markedWith.2 (.inl rfl), leafOf_subtree (by decide)⟩
    exact Text.hasPrefix_trans (KeyLayout.hasPrefix_subtree_iff.2 hinside)
      (Text.hasPrefix_append _ _)
  rw [← hlabels] at hlabel
  -- After the removal only the marker of `b` is left, and the marker is no label.
  obtain ⟨-, k, hk, hmem, -⟩ := Entries.contains_texts_iff.1 hlabel
  obtain ⟨value, hvalue⟩ := KeyMap.contains_iff.1 hmem
  rw [find?_removed] at hvalue
  split at hvalue
  · cases hvalue
  · rename_i hout
    rcases contains_markedWith.1 (KeyMap.contains_iff.2 ⟨value, hvalue⟩) with rfl | rfl
    · exact hout ⟨.adminLabels, by decide, Text.hasPrefix_append _ _⟩
    · exact (KeyLayout.subtree_diverge_of_ne (by decide) _ _).not_hasPrefix hasPrefix_markerKey hk

/-! ### Isolation -/

/-- Ids whose records do not disturb each other are apart. -/
theorem apart_of_unnoticed (ha : sanitize a.text ≠ "") (hb : sanitize b.text ≠ "")
    (h : ∀ es es', store.Changes a es es' → store.SameFor b es es') : a.Apart b := by
  refine Decidable.byContradiction fun hab => ?_
  exact not_sameFor_removed hb hab (h _ _ (.removed (exec_removeVolume _ _ ha)))

/-- Of two accepted ids, changes of the one record go unnoticed by the other volume just when the ids
are apart: registration, schedulers, service and labels are found as before, whatever the store holds
and wherever its root is. -/
theorem changes_unnoticed_iff_apart (store : Store) {s t : String} {a b : OverlayId}
    (ha : OverlayId.parse s = .ok a) (hb : OverlayId.parse t = .ok b) :
    (∀ es es', store.Changes a es es' → store.SameFor b es es') ↔ a.Apart b := by
  have hsanitize : ∀ {s id}, OverlayId.parse s = .ok id → sanitize id.text ≠ "" := fun {_ id} h => by
    have hkey : store.layout.objectKey .index id.text = _ := KeyLayout.objectKey_of_parse h .index
    exact (KeyLayout.objectKey_eq_ok_iff.1 hkey).1
  constructor
  · exact apart_of_unnoticed (hsanitize ha) (hsanitize hb)
  · intro hab es es' hchanges
    exact sameFor_of_find?_eq (hsanitize hb) fun k hk =>
      hchanges.find?_eq fun hka => hka.not_of_apart hab hk

/-- The volumes 1 and 10 of a service do not disturb each other. -/
theorem changes_unnoticed_neighbours :
    OverlayId.parse "mock-vol-1" = .ok ⟨"mock-vol-1"⟩ ∧
      OverlayId.parse "mock-vol-10" = .ok ⟨"mock-vol-10"⟩ ∧
      ∀ es es', Changes { layout := .ofRoot "polly", persistFields := true } ⟨"mock-vol-1"⟩ es es' →
        SameFor { layout := .ofRoot "polly", persistFields := true } ⟨"mock-vol-10"⟩ es es' := by
  refine ⟨rfl, rfl, ?_⟩
  exact (changes_unnoticed_iff_apart _ (s := "mock-vol-1") (t := "mock-vol-10") rfl rfl).2 (by decide)

/-- Services whose names differ in a blank only do disturb each other's volumes. -/
theorem not_unnoticed_blank :
    ¬ ∀ (store : Store) (s t : String) (a b : OverlayId), OverlayId.parse s = .ok a →
      OverlayId.parse t = .ok b → a ≠ b →
        ∀ es es', store.Changes a es es' → store.SameFor b es es' := by
  intro h
  have hapart : OverlayId.Apart ⟨"mock-vol-000"⟩ ⟨" mock-vol-000"⟩ :=
    apart_of_unnoticed (by decide) (by decide)
      (h { layout := .ofRoot "polly" } "mock-vol-000" " mock-vol-000" _ _ rfl rfl (by decide))
  exact absurd hapart (by decide)

end Store

end VolumeOverlay
