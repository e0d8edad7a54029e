import VolumeOverlay.Proofs.Store.Categories
import VolumeOverlay.Proofs.Store.Convergence
import VolumeOverlay.Proofs.Store.Reading

/-!
# Settled stores

A store is settled when every record of a plain id is there in full: each key that writing the record
of some volume sets is as that volume says, and labels are direct leaves of their object. Without
mirrored fields, setting up leads to a settled store, and without faults writing and removing records
of plain ids keeps a store settled. What is loaded from a settled store is the volume whose record is
there, up to what the provider knows better, so that writing it again changes nothing, wherever the
write is cut short.

## Main definitions

* `Store.Holds v es`: the record of a volume is there in full
* `Store.Settled es`: every record of a plain id is there in full

## Main results

* `settled_started`, `Settled.recorded`, `Settled.removed`: how a store gets and stays settled
* `Settled.holds_of_foundIn`: the record of a volume that is loaded is there in full
* `ensures_save_of_holds`: writing a record that is there in full changes nothing
-/

namespace VolumeOverlay

open Actions
open Text (hasPrefix)

namespace Store

variable {store : Store} {es : Entries} {v w : Volume}

/-- The record of a volume is there in full: every key that writing it sets is as the volume says. -/
def Holds (store : Store) (v : Volume) (es : Entries) : Prop :=
  ∀ k a, store.Sets v k a → es.find? k = a

/-- Every record of a plain id is there in full, and labels are direct leaves of their object. -/
structure Settled (store : Store) (es : Entries) : Prop where
  flat : ∀ id : OverlayId, id.IsPlain → ∀ leaf,
    es.contains (store.layout.subtree .adminLabels id.text ++ leaf) → '/' ∉ leaf.toList
  holds : ∀ id : OverlayId, id.IsPlain → es.contains (store.markerKey id.text) →
    ∃ v : Volume, v.overlayId = id ∧ checkLeaves v.labels.keys = .ok () ∧ store.Holds v es

/-- Records that are there in full are so whatever the order of texts. -/
theorem Settled.inOrder (h : store.Settled es) (order : TextOrder) :
    (store.inOrder order).Settled es where
  flat := h.flat
  holds id hid hmarker := by
    obtain ⟨v, hv, hlabels, hholds⟩ := h.holds id hid hmarker
    exact ⟨v, hv, hlabels, fun k a hset => hholds k a (hset.inOrder store.order)⟩

/-- Without mirrored fields, a record is made of four parts of a volume. -/
theorem Sets.congr (hp : store.persistFields = false) (hid : w.overlayId = v.overlayId)
    (hschedulers : w.schedulers = v.schedulers) (hname : w.serviceName = v.serviceName)
    (hlabels : w.labels = v.labels) {k : String} {a : Option Bytes} (h : store.Sets w k a) :
    store.Sets v k a := by
  cases h with
  | root =>
    rw [hid]
    exact .root
  | marker =>
    rw [hid]
    exact .marker
  | schedulers =>
    rw [hid, hschedulers]
    exact .schedulers
  | serviceName =>
    rw [hid, hname]
    exact .serviceName
  | field hp' h =>
    -- Fields are set by stores that mirror them, and this one does not.
    exact absurd (hp.symm.trans hp') Bool.false_ne_true
  | label h =>
    rw [hid, hlabels] at h
    exact .label h

/-! ### Getting and staying settled -/

theorem settled_started : store.Settled store.started where
  flat id _ leaf hleaf := by
    rw [KeyMap.contains, find?_started] at hleaf
    cases hleaf
  holds id _ hmarker := by
    rw [KeyMap.contains, markerKey, find?_started] at hmarker
    cases hmarker

/-- Another plain id keeps its record when the changes are confined to the record of one. -/
theorem Holds.of_agree {es' : Entries} {a : OverlayId} (h : store.Holds v es)
    (hv : v.overlayId.IsPlain) (ha : a.IsPlain) (hne : v.overlayId ≠ a)
    (hagree : ∀ k, ¬ store.InRecord a.text k → es'.find? k = es.find? k) :
    store.Holds v es' := by
  intro k b hset
  have hout : ¬ store.InRecord a.text k := hset.inRecord.not_of_apart (hv.apart ha hne)
  rw [hagree k hout]
  exact h k b hset

/-- A store stays settled when the record of one plain id is changed into a settled one. -/
theorem Settled.of_agree {es' : Entries} {a : OverlayId} (h : store.Settled es) (ha : a.IsPlain)
    (hagree : ∀ k, ¬ store.InRecord a.text k → es'.find? k = es.find? k)
    (hflat : ∀ leaf, es'.contains (store.layout.subtree .adminLabels a.text ++ leaf) →
      '/' ∉ leaf.toList)
    (hholds : es'.contains (store.markerKey a.text) →
      ∃ v : Volume, v.overlayId = a ∧ checkLeaves v.labels.keys = .ok () ∧ store.Holds v es') :
    store.Settled es' where
  flat id hid leaf hleaf := by
    by_cases hne : id = a
    · subst hne
      exact hflat leaf hleaf
    · have hin : store.InRecord id.text (store.layout.subtree .adminLabels id.text ++ leaf) :=
        inRecord_of_hasPrefix (Text.hasPrefix_append _ _) (by decide)
      rw [KeyMap.contains_eq_of_find?_eq
        (hagree _ (hin.not_of_apart (hid.apart ha hne)))] at hleaf
      exact h.flat id hid leaf hleaf
  holds id hid hmarker := by
    by_cases hne : id = a
    · subst hne
      exact hholds hmarker
    · -- The marker of another id was there before, and so was its record, which is kept.
      have hin : store.InRecord id.text (store.markerKey id.text) := inRecord_markerKey
      rw [KeyMap.contains_eq_of_find?_eq
        (hagree _ (hin.not_of_apart (hid.apart ha hne)))] at hmarker
      obtain ⟨v, rfl, hlabels, hv⟩ := h.holds id hid hmarker
      exact ⟨v, rfl, hlabels, hv.of_agree hid ha hne hagree⟩

theorem Settled.recorded (hp : store.persistFields = false) (h : store.Settled es)
    (hv : v.overlayId.IsPlain) (hlabels : checkLeaves v.labels.keys = .ok ()) :
    store.Settled (store.recorded v es) := by
  have hmirrored : store.checkMirrored v = .ok () := checkMirrored_of_not hp
  apply h.of_agree hv
  · intro k hk
    exact find?_recorded_of_not_sets (fun a hset => hk hset.inRecord) es
  · intro leaf hleaf
    have htexts : ∀ t ∈ v.labels.toList, isLeaf t.1 = true := fun t ht =>
      checkLeaves_eq_ok_iff.1 hlabels t.1 (List.mem_map_of_mem ht)
    refine Entries.slash_notMem_of_withTexts htexts v.labels.nodup_keys (fun leaf hleaf => ?_) hleaf
    -- What is written before the labels lies in another category.
    rw [mirrored, hp, if_neg Bool.false_ne_true, KeyMap.contains_eq_of_find?_eq
      (find?_indexed_of_not_hasPrefix v es
        ((KeyLayout.subtree_diverge_of_ne (by decide) _ _).not_hasPrefix
          (Text.hasPrefix_append _ _)))] at hleaf
    exact h.flat _ hv leaf hleaf
  · intro _
    refine ⟨v, rfl, hlabels, fun k a hset => ?_⟩
    exact find?_recorded_of_sets hlabels hmirrored hset es

theorem Settled.removed (h : store.Settled es) {id : OverlayId} (hid : id.IsPlain) :
    store.Settled (store.removed id.text es) := by
  have hgone : ∀ k, store.InRecord id.text k →
      (store.removed id.text es).contains k = false := by
    intro k hk
    rw [KeyMap.contains, find?_removed_of_inRecord hk]
    rfl
  apply h.of_agree hid
  · exact fun k hk => find?_removed_of_not_inRecord hk es
  · intro leaf hleaf
    rw [hgone _ (inRecord_of_hasPrefix (Text.hasPrefix_append _ _) (by decide))] at hleaf
    cases hleaf
  · intro hmarker
    rw [hgone _ inRecord_markerKey] at hmarker
    cases hmarker

/-! ### Loading and writing back -/

/-- The record of a volume that is found in a settled store is there in full. -/
theorem Settled.holds_of_foundIn (hp : store.persistFields = false) (h : store.Settled es)
    (hv : v.overlayId.IsPlain)
    (hw : store.FoundIn es (fun labels =>
      labels = es.texts (store.layout.subtree .adminLabels v.overlayId.text)) v w) :
    store.Holds w es := by
  obtain ⟨hmarker, entry, labels, fields, hentry, rfl, hmerge⟩ := hw
  obtain ⟨u, hid, hcheck, hu⟩ := h.holds v.overlayId hv hmarker
  rw [← hid] at hentry hv hmerge
  -- Index entry and labels are those of the volume whose record is there.
  have hindex : entry = ⟨u.schedulers, some u.serviceName⟩ := by
    rw [ofEntries_startingWith, hu _ _ .schedulers, hu _ _ .serviceName, schedulersAt_encode,
      Option.map_some, Text.Utf8.decodeLossy_encode] at hentry
    exact (Except.ok.inj hentry).symm
  have htexts : es.texts (store.layout.subtree .adminLabels u.overlayId.text) = u.labels := by
    have hleaf := checkLeaves_eq_ok_iff.1 hcheck
    apply Entries.texts_eq_of_find? hleaf
    exact Entries.find?_of_set (h.flat _ hv) fun k a hset => hu k a (.label hset)
  rw [hindex, htexts] at hmerge
  -- What loading makes of them differs in the external part only, and that is not written.
  intro k a hset
  apply hu k a
  refine Sets.congr hp ?_ ?_ ?_ ?_ hset
  · rw [hmerge]
    exact hid.symm
  all_goals
    rw [hmerge]
    rfl

/-- Writing a record that is there in full changes nothing, wherever the write is cut short. -/
theorem ensures_save_of_holds {σ : Type} [FaultSource σ] (h : store.Holds v es) :
    Ensures (HasEntries es) (fun _ => True) (store.saveVolume v : StoreM σ Unit) := by
  have hmoves : Moves (OnEntries σ (Toward (store.Sets v))) (store.saveVolume v : StoreM σ Unit) :=
    moves_saveVolumeInOrder (store.order.perm _) (store.order.perm _) Toward.admits
  refine Ensures.of_moves hmoves ?_
  rintro m m' htoward rfl
  exact htoward.eq_of_holds h

end Store

end VolumeOverlay
