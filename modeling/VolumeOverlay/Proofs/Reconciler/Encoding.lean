import VolumeOverlay.Proofs.Provider.Inventory
import VolumeOverlay.Proofs.Reconciler.OverlayMap
import VolumeOverlay.Proofs.Store.Record

/-!
# Overlays as records

A map of overlays is kept as one record for each of its ids. For plain ids the record says exactly
what the overlay is: every key of the subtrees of an id is decided by its overlay, and an id without
an overlay has no key. Loading, writing and removing records then are a lookup in the map, an
insertion and an erasure.

## Main definitions

* `Overlay.stored o id category leaf`: the value of a leaf in the record of an overlay
* `Store.Represents store es m`: the entries hold the records of a map, and no others

## Main results

* `Store.Represents.loaded`: loading a volume looks up its overlay
* `Store.Represents.recorded`: writing a volume inserts its overlay
* `Store.Represents.removed`: removing a record erases its overlay
-/

namespace VolumeOverlay

open Text (hasPrefix)

/-- The value of a leaf in the record of an overlay. The empty leaf is the key of the subtree. -/
def Overlay.stored (o : Overlay) (id : OverlayId) : Category → String → Option Bytes
  | .internalLabels, leaf =>
    if leaf = Store.serviceNameLeaf then some (Text.Utf8.encode id.owner)
    else if leaf = Store.schedulersLeaf then Schedulers.encode o.schedulers
    else if leaf = Store.idLeaf then some (Text.Utf8.encode id.text)
    else if leaf = "" then some []
    else none
  | .adminLabels, leaf =>
    if leaf = "" then some [] else (o.labels.find? leaf).map Text.Utf8.encode
  | _, _ => none

namespace Store

/-- The entries hold the records of a map of overlays, and for plain ids no other records. -/
structure Represents (store : Store) (es : Entries) (m : KeyMap Overlay) : Prop where
  find?_eq : ∀ id : OverlayId, id.IsPlain → ∀ c ∈ Category.ofVolumes, ∀ leaf,
    es.find? (store.layout.subtree c id.text ++ leaf) =
      (m.find? id.text).bind fun o => o.stored id c leaf
  isLeaf : ∀ id o, m.find? id = some o → ∀ leaf ∈ o.labels.keys, isLeaf leaf = true

variable {store : Store} {es : Entries} {m : KeyMap Overlay} {v : Volume}

/-- Entries without records are those of the empty map. -/
theorem represents_empty (h : ∀ id : OverlayId, id.IsPlain → ∀ c ∈ Category.ofVolumes, ∀ leaf,
    es.find? (store.layout.subtree c id.text ++ leaf) = none) : store.Represents es ∅ where
  find?_eq := h
  isLeaf _ _ hm := nomatch hm

/-- What entries represent does not depend on the order of texts. -/
theorem represents_inOrder (order : TextOrder) :
    (store.inOrder order).Represents es m ↔ store.Represents es m :=
  ⟨fun h => ⟨h.find?_eq, h.isLeaf⟩, fun h => ⟨h.find?_eq, h.isLeaf⟩⟩

namespace Represents

/-- A volume is registered when it has an overlay. -/
theorem contains_markerKey (h : store.Represents es m) {id : OverlayId} (hid : id.IsPlain) :
    es.contains (store.markerKey id.text) = (m.find? id.text).isSome := by
  rw [KeyMap.contains, markerKey, h.find?_eq id hid _ (by decide)]
  cases m.find? id.text <;> rfl

/-- The labels of an overlay are the texts in its record. -/
theorem texts_eq (h : store.Represents es m) {id : OverlayId} (hid : id.IsPlain) {o : Overlay}
    (ho : m.find? id.text = some o) :
    es.texts (store.layout.subtree .adminLabels id.text) = o.labels := by
  refine Entries.texts_eq_of_find? (h.isLeaf _ _ ho) fun leaf => ?_
  rw [h.find?_eq id hid _ (by decide), ho]
  rfl

/-- Where labels are kept, every key is a leaf. -/
theorem slash_notMem (h : store.Represents es m) {id : OverlayId} (hid : id.IsPlain) {leaf : String}
    (hmem : es.contains (store.layout.subtree .adminLabels id.text ++ leaf)) :
    '/' ∉ leaf.toList := by
  obtain ⟨value, hvalue⟩ := KeyMap.contains_iff.1 hmem
  rw [h.find?_eq id hid _ (by decide)] at hvalue
  obtain ⟨o, ho, hstored⟩ := Option.bind_eq_some_iff.1 hvalue
  by_cases hempty : leaf = ""
  · rw [hempty]
    decide
  · simp only [Overlay.stored, if_neg hempty] at hstored
    obtain ⟨label, hlabel, -⟩ := Option.map_eq_some_iff.1 hstored
    exact slash_notMem_of_isLeaf (h.isLeaf _ _ ho leaf (KeyMap.mem_keys.2 ⟨label, hlabel⟩))

/-- Loading a volume looks up its overlay. -/
theorem loaded (h : store.Represents es m) (hp : store.persistFields = false) (hv : v.IsPlain) :
    store.loaded v es = .ok ((m.find? v.overlayId.text).map fun o => o.on v) := by
  have hmarker := h.contains_markerKey hv.id
  cases ho : m.find? v.overlayId.text with
  | none =>
    rw [ho] at hmarker
    exact loaded_of_not_contains hmarker
  | some o =>
    rw [ho] at hmarker
    have hschedulers := h.find?_eq v.overlayId hv.id .index (by decide) schedulersLeaf
    have hservice := h.find?_eq v.overlayId hv.id .index (by decide) serviceNameLeaf
    rw [ho] at hschedulers hservice
    have hencoded : es.find? (store.layout.subtree .index v.overlayId.text ++ schedulersLeaf) =
        Schedulers.encode o.schedulers := hschedulers
    have howner : es.find? (store.layout.subtree .index v.overlayId.text ++ serviceNameLeaf) =
        some (Text.Utf8.encode v.overlayId.owner) := hservice
    rw [loaded_of_contains hmarker]
    dsimp only
    rw [hencoded, schedulersAt_encode, howner, h.texts_eq hv.id ho, hp,
      if_neg Bool.false_ne_true, Option.map_some, Text.Utf8.decodeLossy_encode, hv.owner]
    show Except.ok (some (merge v ⟨o.schedulers, some v.serviceName⟩ o.labels ∅)) =
      Except.ok (some (o.on v))
    rw [merge, Overlay.on, KeyMap.orElse_empty]
    rfl

/-- A key of one plain id is not in the subtrees of another. -/
theorem not_hasPrefix_of_ne {a b : OverlayId} (ha : a.IsPlain) (hb : b.IsPlain) (hab : a ≠ b)
    (c d : Category) (leaf : String) :
    ¬ hasPrefix (store.layout.subtree c a.text) (store.layout.subtree d b.text ++ leaf) :=
  (KeyLayout.subtree_diverge (ha.apart hb hab) c d).symm.not_hasPrefix (Text.hasPrefix_append _ _)

/-- The keys of a volume after its record is written. -/
theorem find?_recorded (h : store.Represents es m) (hp : store.persistFields = false)
    (hv : v.IsPlain) (hlabels : ∀ leaf ∈ v.labels.keys, VolumeOverlay.isLeaf leaf = true)
    {c : Category} (hc : c ∈ Category.ofVolumes) (leaf : String) :
    (store.recorded v es).find? (store.layout.subtree c v.overlayId.text ++ leaf) =
      (Overlay.mk v.schedulers v.labels).stored v.overlayId c leaf := by
  have hout : ∀ {c d : Category}, c ≠ d →
      ¬ hasPrefix (store.layout.subtree c v.overlayId.text)
        (store.layout.subtree d v.overlayId.text ++ leaf) := fun hcd =>
    (KeyLayout.subtree_diverge_of_ne hcd _ _).symm.not_hasPrefix (Text.hasPrefix_append _ _)
  cases c with
  | externalFields =>
    -- Nothing is mirrored, so there were no fields, and none are written.
    rw [Store.recorded, Entries.find?_withTexts_of_not_hasPrefix (hout (by decide)), mirrored, hp,
      if_neg Bool.false_ne_true, find?_indexed_of_not_hasPrefix v es (hout (by decide)),
      h.find?_eq _ hv.id _ hc]
    cases m.find? v.overlayId.text <;> rfl
  | internalLabels =>
    rw [find?_recorded_of_not_hasPrefix v es (hout (by decide)) (hout (by decide))]
    -- Four leaves are written anew, and the record that was there had no others.
    refine (find?_indexed v es leaf).trans ?_
    have hold := h.find?_eq v.overlayId hv.id .index (by decide) leaf
    rw [hold, ← hv.owner]
    cases m.find? v.overlayId.text with
    | none => rfl
    | some o =>
      rw [Option.bind_some]
      simp only [Overlay.stored, Category.index]
      grind
  | adminLabels =>
    have hfields : store.mirrored v (store.indexed v es) = store.indexed v es := by
      rw [mirrored, hp, if_neg Bool.false_ne_true]
    rw [Store.recorded, hfields]
    refine Entries.find?_withTexts hlabels (fun leaf' hmem => ?_) leaf
    -- Writing the index part has put no key where labels are kept.
    refine h.slash_notMem hv.id ?_
    rw [← KeyMap.contains_eq_of_find?_eq (find?_indexed_of_not_hasPrefix v es ?_)]
    · exact hmem
    · exact (KeyLayout.subtree_diverge_of_ne (by decide) _ _).symm.not_hasPrefix
        (Text.hasPrefix_append _ _)
  | snapshot => exact absurd hc (by decide)

/-- Writing a volume inserts its overlay. -/
theorem recorded (h : store.Represents es m) (hp : store.persistFields = false) (hv : v.IsPlain)
    (hlabels : ∀ leaf ∈ v.labels.keys, VolumeOverlay.isLeaf leaf = true) :
    store.Represents (store.recorded v es)
      (m.insert v.overlayId.text ⟨v.schedulers, v.labels⟩) where
  find?_eq id hid c hc leaf := by
    by_cases hne : v.overlayId = id
    · subst hne
      rw [h.find?_recorded hp hv hlabels hc, KeyMap.find?_insert_self]
      rfl
    · -- The keys of another plain id are outside every subtree that is written.
      have htext : id.text ≠ v.overlayId.text := fun heq => hne (OverlayId.eq_of_text_eq heq.symm)
      have hout : ∀ d, ¬ hasPrefix (store.layout.subtree d v.overlayId.text)
          (store.layout.subtree c id.text ++ leaf) := fun d =>
        not_hasPrefix_of_ne hv.id hid hne d c leaf
      rw [find?_recorded_of_not_hasPrefix v es (hout _) (hout _),
        find?_indexed_of_not_hasPrefix v es (hout _), h.find?_eq id hid c hc,
        KeyMap.find?_insert_of_ne _ _ htext]
  isLeaf id o ho := by
    rw [KeyMap.find?_insert] at ho
    split at ho
    · cases ho
      exact hlabels
    · exact h.isLeaf id o ho

/-- Removing a record erases its overlay. -/
theorem removed (h : store.Represents es m) {id : OverlayId} (hid : id.IsPlain) :
    store.Represents (store.removed id.text es) (m.erase id.text) where
  find?_eq id' hid' c hc leaf := by
    rw [Store.find?_removed]
    by_cases hne : id = id'
    · subst hne
      rw [if_pos ⟨c, hc, Text.hasPrefix_append _ _⟩, KeyMap.find?_erase, if_pos rfl]
      rfl
    · have htext : id'.text ≠ id.text := fun heq => hne (OverlayId.eq_of_text_eq heq.symm)
      rw [if_neg, h.find?_eq id' hid' c hc, KeyMap.find?_erase_of_ne _ htext]
      rintro ⟨d, -, hd⟩
      exact not_hasPrefix_of_ne hid hid' hne d c leaf hd
  isLeaf id' o ho := by
    rw [KeyMap.find?_erase] at ho
    split at ho
    · cases ho
    · exact h.isLeaf id' o ho

end Represents

end Store

end VolumeOverlay
