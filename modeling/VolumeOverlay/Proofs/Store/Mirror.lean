import VolumeOverlay.Proofs.Store.Categories
import VolumeOverlay.Proofs.Store.Record

/-!
# Mirrored fields

A store that mirrors provider fields holds what the same store without a mirror holds, and the mirror
besides. Loading a volume merges its mirror into the live fields, so the two stores answer alike as
long as no mirror of a registered volume has a field that the live volume lacks: live fields win, and
nothing is left for the mirror to add. Writing a record makes its mirror hold the live fields and no
others, and removing a record drops its mirror, so this stays so.

## Main definitions

* `Store.mirroring b`: the store that mirrors fields, or that does not
* `Store.Mirrorable Live`: live volumes with fields that can be mirrored
* `Store.Mirrored Live es es'`: entries without a mirror, and the same with one

## Main results

* `Mirrored.loaded_eq`: loading a live volume answers alike
* `Mirrored.recorded`, `Mirrored.removed`, `Mirrored.erased`: what keeps two stores alike
-/

namespace VolumeOverlay

open Actions
open Text (hasPrefix)

namespace Store

/-- The store that mirrors fields, or that does not. -/
def mirroring (store : Store) (b : Bool) : Store :=
  { store with persistFields := b }

/-- Live volumes with fields that can be mirrored: their ids are plain, the fields belong to the id,
and each is a leaf. -/
structure Mirrorable (Live : Volume → Prop) : Prop where
  isPlain : ∀ v, Live v → v.overlayId.IsPlain
  fields_eq : ∀ v w, Live v → Live w → v.overlayId = w.overlayId →
    v.external.fields = w.external.fields
  checkLeaves : ∀ v, Live v → checkLeaves v.external.fields.keys = .ok ()

/-- Entries without a mirror, and the same with one. The mirror of a live volume that is registered
has no field that the volume lacks. -/
structure Mirrored (store : Store) (Live : Volume → Prop) (es es' : Entries) : Prop where
  agree : ∀ k, ¬ hasPrefix (store.layout.categoryRoot .externalFields) k → es.find? k = es'.find? k
  covered : ∀ v, Live v → es'.contains (store.markerKey v.overlayId.text) → ∀ leaf,
    (es'.texts (store.layout.subtree .externalFields v.overlayId.text)).contains leaf →
      v.external.fields.contains leaf

variable {store : Store} {Live : Volume → Prop} {es es' : Entries} {v : Volume}

/-- The two stores differ in one place of what they load. -/
theorem loaded_mirroring (b : Bool) :
    (store.mirroring b).loaded v es =
      let id := v.overlayId.text
      if es.contains (store.markerKey id) then
        let key := store.layout.subtree .index id
        (IndexEntry.ofEntries key (es.startingWith key)).map fun entry =>
          some <| merge v entry (es.texts (store.layout.subtree .adminLabels id))
            (if b then es.texts (store.layout.subtree .externalFields id) else ∅)
      else .ok none := rfl

/-- Without a mirror, a volume is loaded with its live fields. -/
theorem external_of_loaded {w : Volume}
    (h : (store.mirroring false).loaded v es = .ok (some w)) :
    w.overlayId = v.overlayId ∧ w.external = v.external := by
  obtain ⟨entry, rfl⟩ := eq_merge_of_loaded h
  exact ⟨rfl, by simp [merge, mirroring]⟩

namespace Mirrored

theorem mono {Live' : Volume → Prop} (h : store.Mirrored Live es es')
    (hlive : ∀ v, Live' v → Live v) : store.Mirrored Live' es es' where
  agree := h.agree
  covered v hv := h.covered v (hlive v hv)

/-- The keys of another category are the same with and without the mirror. -/
theorem find?_eq (h : store.Mirrored Live es es') {c : Category} (hc : c ≠ .externalFields)
    {k : String} (hk : hasPrefix (store.layout.categoryRoot c) k) : es.find? k = es'.find? k :=
  h.agree k ((KeyLayout.categoryRoot_diverge hc).not_hasPrefix hk)

/-- Loading a live volume answers alike with and without the mirror. -/
theorem loaded_eq (h : store.Mirrored Live es es') (hv : Live v) :
    (store.mirroring false).loaded v es = (store.mirroring true).loaded v es' := by
  have hsub : ∀ c, c ≠ .externalFields → ∀ k,
      hasPrefix (store.layout.subtree c v.overlayId.text) k → es.find? k = es'.find? k :=
    fun c hc k hk => h.find?_eq hc (Text.hasPrefix_trans KeyLayout.hasPrefix_subtree hk)
  have hmarker : es.contains (store.markerKey v.overlayId.text) =
      es'.contains (store.markerKey v.overlayId.text) :=
    KeyMap.contains_eq_of_find?_eq (hsub .index (by decide) _ hasPrefix_markerKey)
  rw [loaded_mirroring, loaded_mirroring]
  dsimp only
  rw [hmarker]
  split
  · rename_i hreg
    -- Index entry and labels are the same, and the mirror adds nothing to the live fields.
    have hfields : v.external.fields.orElse
        (es'.texts (store.layout.subtree .externalFields v.overlayId.text)) = v.external.fields :=
      KeyMap.orElse_eq_self (h.covered v hv hreg)
    rw [KeyMap.startingWith_congr (hsub .index (by decide)),
      Entries.texts_congr (hsub .adminLabels (by decide)), if_neg Bool.false_ne_true, if_pos rfl]
    simp only [merge, KeyMap.orElse_empty, hfields]
  · rfl

/-! ### Writing -/

/-- Two stores stay alike when the record of one id changes in both: outside the mirror to the same,
and in the mirror to fields that live volumes with that id have. They need not have been alike in that
record before. -/
theorem of_changed (hlive : Mirrorable Live) {id : OverlayId}
    (h : store.Mirrored (fun w => Live w ∧ w.overlayId ≠ id) es es') (hid : id.IsPlain)
    {changed changed' : Entries}
    (hagree : ∀ k, ¬ hasPrefix (store.layout.categoryRoot .externalFields) k →
      changed.find? k = changed'.find? k)
    (hout : ∀ k, ¬ store.InRecord id.text k → changed'.find? k = es'.find? k)
    (hin : changed'.contains (store.markerKey id.text) → ∀ w, Live w → w.overlayId = id → ∀ leaf,
      (changed'.texts (store.layout.subtree .externalFields id.text)).contains leaf →
        w.external.fields.contains leaf) :
    store.Mirrored Live changed changed' where
  agree := hagree
  covered w hw hreg leaf hleaf := by
    by_cases hne : w.overlayId = id
    · subst hne
      exact hin hreg w hw rfl leaf hleaf
    · -- The record of another id is as it was.
      have hsame : ∀ k, store.InRecord w.overlayId.text k → changed'.find? k = es'.find? k := by
        intro k hk
        apply hout k
        exact hk.not_of_apart ((hlive.isPlain w hw).apart hid hne)
      rw [KeyMap.contains_eq_of_find?_eq (hsame _ inRecord_markerKey)] at hreg
      rw [Entries.texts_congr fun k hk => hsame k (inRecord_of_hasPrefix hk (by decide))] at hleaf
      exact h.covered w ⟨hw, hne⟩ hreg leaf hleaf

end Mirrored

/-- A key outside the mirror is set alike with and without it. -/
theorem sets_mirroring {b b' : Bool} {k : String} {a : Option Bytes}
    (hk : ¬ hasPrefix (store.layout.categoryRoot .externalFields) k) :
    (store.mirroring b).Sets v k a → (store.mirroring b').Sets v k a := by
  intro h
  cases h with
  | root => exact .root
  | marker => exact .marker
  | schedulers => exact .schedulers
  | serviceName => exact .serviceName
  | field hp h =>
    exact absurd (Text.hasPrefix_trans KeyLayout.hasPrefix_subtree h.inSubtree) hk
  | label h => exact .label h

namespace Mirrored

/-- Two stores stay alike when the record of a live volume is written to both. -/
theorem recorded (hlive : Mirrorable Live)
    (h : store.Mirrored (fun w => Live w ∧ w.overlayId ≠ v.overlayId) es es') (hv : Live v)
    (hlabels : Store.checkLeaves v.labels.keys = .ok ()) :
    store.Mirrored Live ((store.mirroring false).recorded v es)
      ((store.mirroring true).recorded v es') := by
  have hfields : (store.mirroring true).checkMirrored v = .ok () :=
    (checkMirrored_eq_ok_iff rfl).2 (hlive.checkLeaves v hv)
  apply of_changed hlive h (hlive.isPlain v hv)
  · -- Outside the mirror the two records set the same keys, each to the same.
    intro k hk
    by_cases hset : ∃ a, (store.mirroring false).Sets v k a
    · obtain ⟨a, ha⟩ := hset
      rw [find?_recorded_of_sets hlabels rfl ha,
        find?_recorded_of_sets hlabels hfields (sets_mirroring hk ha)]
    · have hset' : ∀ a, ¬ (store.mirroring true).Sets v k a :=
        fun a ha => hset ⟨a, sets_mirroring hk ha⟩
      rw [find?_recorded_of_not_sets (not_exists.1 hset), find?_recorded_of_not_sets hset']
      exact h.agree k hk
  · intro k hk
    have hset : ∀ a, ¬ (store.mirroring true).Sets v k a := fun a ha => hk ha.inRecord
    exact find?_recorded_of_not_sets hset es'
  · intro _ w hw hid leaf hleaf
    obtain ⟨hne, k, hk, hthere, hlast⟩ := Entries.contains_texts_iff.1 hleaf
    rw [hlive.fields_eq w v hw hv hid]
    cases hfield : v.external.fields.contains leaf with
    | true => rfl
    | false =>
      -- A key of the mirror whose last segment is no live field is stale, so it is gone.
      have hunwanted : leaf ∉ v.external.fields.toList.map (·.1) := by
        intro hmem
        rw [KeyMap.contains_iff.2 (KeyMap.mem_keys.1 hmem)] at hfield
        cases hfield
      have hstale : isStale (v.external.fields.toList.map (·.1)) k = true := by
        rw [isStale, hlast]
        simp [hne, hunwanted]
      have hgone : (store.mirroring true).Sets v k none := .field rfl (.stale hk hstale)
      rw [KeyMap.contains, find?_recorded_of_sets hlabels hfields hgone] at hthere
      cases hthere

/-- Two stores stay alike when a record is removed from both. -/
theorem removed (hlive : Mirrorable Live) {id : OverlayId}
    (h : store.Mirrored (fun w => Live w ∧ w.overlayId ≠ id) es es') (hid : id.IsPlain) :
    store.Mirrored Live (store.removed id.text es) (store.removed id.text es') := by
  apply of_changed hlive h hid
  · intro k hk
    rw [find?_removed, find?_removed, h.agree k hk]
  · exact fun k hk => find?_removed_of_not_inRecord hk es'
  · intro hreg
    rw [KeyMap.contains, find?_removed_of_inRecord inRecord_markerKey] at hreg
    cases hreg

/-- Erasing both stores drops every record, and what is left of them is the same. -/
theorem erased (h : store.Mirrored Live es es') :
    store.Mirrored Live (store.erased es) (store.erased es') where
  agree k hk := find?_erased_congr (h.agree k hk)
  covered v hv hreg := by
    rw [KeyMap.contains, markerKey, find?_erased] at hreg
    cases hreg

end Mirrored

/-- Stores that are set up on no entries are alike, since there is nothing to mirror. -/
theorem mirrored_started :
    store.Mirrored Live store.started store.started where
  agree _ _ := rfl
  covered v hv hreg := by
    rw [KeyMap.contains, markerKey, find?_started] at hreg
    cases hreg

/-! ### Actions with and without a mirror -/

/-- Two media, the second of which holds a mirror. -/
def MirroredOn (store : Store) (Live : Volume → Prop) (m m' : Medium Reliable) : Prop :=
  store.Mirrored Live m.entries m'.entries

theorem alike_eraseAll :
    Alike (store.MirroredOn Live) (fun _ => True)
      ((store.mirroring false).eraseAll) ((store.mirroring true).eraseAll) := by
  rintro ⟨es, s⟩ ⟨es', s'⟩ h
  exact Alike.of_exec exec_eraseAll exec_eraseAll (Mirrored.erased h) fun _ _ => trivial

section Alike

variable (hlive : Mirrorable Live)

include hlive

/-- A live volume is loaded alike, and with its live fields. -/
theorem alike_loadVolume (hv : Live v) :
    Alike (store.MirroredOn Live)
      (fun answer => ∀ w, answer = some w →
        w.overlayId = v.overlayId ∧ w.external = v.external)
      ((store.mirroring false).loadVolume v) ((store.mirroring true).loadVolume v) := by
  rintro ⟨es, s⟩ ⟨es', s'⟩ h
  have hid : sanitize v.overlayId.text ≠ "" := (hlive.isPlain v hv).sanitize_ne_empty
  have hload : exec ((store.mirroring false).loadVolume v) (⟨es, s⟩ : Medium Reliable) = _ :=
    exec_loadVolume es s hid
  have hmirror : exec ((store.mirroring true).loadVolume v) (⟨es', s'⟩ : Medium Reliable) = _ :=
    exec_loadVolume es' s' hid
  rw [← h.loaded_eq hv] at hmirror
  refine Alike.of_exec hload hmirror h fun answer hanswer w hw => ?_
  subst hw
  exact external_of_loaded hanswer

/-- A live volume is written alike, with its mirror or without. -/
theorem alike_saveVolume (hv : Live v) :
    Alike (store.MirroredOn Live) (fun _ => True)
      ((store.mirroring false).saveVolume v) ((store.mirroring true).saveVolume v) := by
  rintro ⟨es, s⟩ ⟨es', s'⟩ h
  have hid : sanitize v.overlayId.text ≠ "" := (hlive.isPlain v hv).sanitize_ne_empty
  have hsave : exec ((store.mirroring false).saveVolume v) (⟨es, s⟩ : Medium Reliable) = _ :=
    exec_saveVolume es s hid
  have hmirror : exec ((store.mirroring true).saveVolume v) (⟨es', s'⟩ : Medium Reliable) = _ :=
    exec_saveVolume es' s' hid
  cases hlabels : Store.checkLeaves (store.order.names v.labels) with
  | error e =>
    have hrefused : ∀ p es, (store.mirroring p).written v es = (.error e, es) := fun p es =>
      written_of_error hlabels
    rw [hrefused] at hsave hmirror
    exact Alike.of_exec hsave hmirror h fun _ _ => trivial
  | ok _ =>
    have hmirrored : (store.mirroring true).checkMirrored v = .ok () :=
      (checkMirrored_eq_ok_iff rfl).2 (hlive.checkLeaves v hv)
    rw [checkLeaves_names] at hlabels
    rw [written_of_ok hlabels rfl] at hsave
    rw [written_of_ok hlabels hmirrored] at hmirror
    have hothers : store.Mirrored (fun w => Live w ∧ w.overlayId ≠ v.overlayId) es es' :=
      Mirrored.mono h fun _ hw => hw.1
    exact Alike.of_exec hsave hmirror (hothers.recorded hlive hv hlabels) fun _ _ => trivial

end Alike

/-- Ids are listed alike, since they are read off the index. -/
theorem alike_volumeIds :
    Alike (store.MirroredOn Live) (fun _ => True)
      ((store.mirroring false).volumeIds) ((store.mirroring true).volumeIds) := by
  rintro ⟨es, s⟩ ⟨es', s'⟩ h
  have hids : exec ((store.mirroring false).volumeIds) (⟨es, s⟩ : Medium Reliable) = _ :=
    exec_volumeIds es s
  have hmirror : exec ((store.mirroring true).volumeIds) (⟨es', s'⟩ : Medium Reliable) = _ :=
    exec_volumeIds es' s'
  have hindex : es.startingWith (store.layout.categoryRoot .index) =
      es'.startingWith (store.layout.categoryRoot .index) :=
    KeyMap.startingWith_congr fun _ hk => Mirrored.find?_eq h (by decide) hk
  have hsame : (es.startingWith ((store.mirroring false).layout.categoryRoot .index)).filterMap
        (fun e => markedId (store.mirroring false).layout e.1) =
      (es'.startingWith ((store.mirroring true).layout.categoryRoot .index)).filterMap
        (fun e => markedId (store.mirroring true).layout e.1) :=
    congrArg (List.filterMap _) hindex
  rw [hsame] at hids
  exact Alike.of_exec hids hmirror h fun _ _ => trivial

end Store

end VolumeOverlay
