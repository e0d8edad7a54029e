import Mathlib.Data.List.Nodup
import Mathlib.Data.Option.Basic
import VolumeOverlay.Proofs.Store.Footprint
import VolumeOverlay.Proofs.Text.ByteOrder

/-!
# Listed ids

Ids are enumerated backwards from the keys below the root of the index: a key with as many segments as
the leaf of an object, the last of which is that of the existence marker, stands for what is between
the root and that segment. Whatever is stored, this finds the markers of texts that are one segment,
each of them once and in the order of their bytes.

## Main definitions

* `KeyLayout.markerAt x`: the key of an existence marker with `x` between root and leaf
* `Store.listed es`: the ids that are listed

## Main results

* `segmentCount_markerAt`: how many segments a marker has
* `Store.markedId_eq_some_iff`: which key stands for which id
* `Store.mem_listed_iff`, `nodup_listed`: the ids that are listed, whatever is stored
* `Store.mem_listed_iff_of_isPlain`: a plain id is listed just when its marker is there
* `Store.volumeIds_exact`: the enumeration, on any content and under any root
-/

namespace VolumeOverlay

open Actions
open Text (hasPrefix)

/-! ### Markers -/

namespace KeyLayout

variable {layout : KeyLayout}

/-- The key of an existence marker with a text between the root of the index and the leaf. -/
def markerAt (layout : KeyLayout) (x : String) : String :=
  layout.categoryRoot .index ++ x ++ "/" ++ Store.idLeaf

theorem hasPrefix_markerAt {x : String} :
    hasPrefix (layout.categoryRoot .index) (layout.markerAt x) := by
  rw [markerAt, String.append_assoc, String.append_assoc]
  exact Text.hasPrefix_append _ _

theorem markerAt_inj {x y : String} : layout.markerAt x = layout.markerAt y ↔ x = y := by
  simp only [markerAt, String.append_left_inj, String.append_right_inj]

/-- The text of a marker adds its own segments to those of a leaf. -/
theorem segmentCount_markerAt {x : String} :
    segmentCount (layout.markerAt x) = layout.leafDepth + Text.countChar '/' x := by
  have hleaf : Text.countChar '/' Store.idLeaf = 0 := by decide
  rw [markerAt, segmentCount_append_leaf, hleaf, Nat.add_zero]

end KeyLayout

namespace Store

variable {store : Store} {layout : KeyLayout} {id : OverlayId} {es : Entries}

theorem markerKey_eq_markerAt (id : String) :
    store.markerKey id = store.layout.markerAt (sanitize id) := rfl

/-- A key stands for an id when it is a marker with the id as the one segment between root and
leaf. -/
theorem markedId_eq_some_iff {k : String} :
    markedId layout k = some id ↔
      id.text ≠ "" ∧ '/' ∉ id.text.toList ∧ k = layout.markerAt id.text := by
  have hdepth : segmentCount (layout.markerAt id.text) = layout.leafDepth ↔ '/' ∉ id.text.toList := by
    rw [KeyLayout.segmentCount_markerAt, Text.countChar, Nat.add_eq_left, List.count_eq_zero]
  simp only [markedId, bind, Option.bind_eq_some_iff, Text.dropPrefix?_eq_some_iff,
    Text.dropSuffix?_eq_some_iff, Option.guard_eq_some']
  constructor
  · rintro ⟨_, hcount, rest, hk, rest', hrest, text, htext, _, hne, hid⟩
    obtain rfl := Option.some.inj hid
    have hmarker : k = layout.markerAt text := by
      rw [hk, hrest, htext, KeyLayout.markerAt]
      simp only [String.append_assoc]
    exact ⟨hne, hdepth.1 (hmarker ▸ hcount), hmarker⟩
  · rintro ⟨hne, hslash, rfl⟩
    refine ⟨(), hdepth.2 hslash, id.text ++ "/" ++ idLeaf, ?_, id.text ++ "/", rfl, id.text, rfl, (),
      hne, rfl⟩
    simp only [KeyLayout.markerAt, String.append_assoc]

/-! ### The enumeration -/

/-- The ids that are listed. -/
def listed (store : Store) (es : Entries) : List OverlayId :=
  (es.startingWith (store.layout.categoryRoot .index)).filterMap fun e => markedId store.layout e.1

/-- Listing ids succeeds whatever is stored, and changes nothing. -/
theorem effect_volumeIds (store : Store) (es : Entries) :
    effect store.volumeIds es = (.ok (store.listed es), es) := by
  rw [effect, exec_volumeIds, listed]

/-- Listed are the texts of one segment whose marker is stored. -/
theorem mem_listed_iff :
    id ∈ store.listed es ↔
      id.text ≠ "" ∧ '/' ∉ id.text.toList ∧ es.contains (store.layout.markerAt id.text) := by
  simp only [listed, List.mem_filterMap, markedId_eq_some_iff, Prod.exists, KeyMap.mem_startingWith,
    KeyMap.contains_iff]
  constructor
  · rintro ⟨_, value, ⟨hk, -⟩, hne, hslash, rfl⟩
    exact ⟨hne, hslash, value, hk⟩
  · rintro ⟨hne, hslash, value, hk⟩
    exact ⟨_, value, ⟨hk, KeyLayout.hasPrefix_markerAt⟩, hne, hslash, rfl⟩

/-- No id is listed twice: keys are listed once each, and each stands for an id of its own. -/
theorem nodup_listed (store : Store) (es : Entries) : (store.listed es).Nodup := by
  have hkeys : ((es.startingWith (store.layout.categoryRoot .index)).map (·.1)).Nodup := by
    rw [KeyMap.startingWith_eq_filter]
    exact (es.filter fun e => hasPrefix (store.layout.categoryRoot .index) e.1).nodup_keys
  have hlisted : store.listed es =
      ((es.startingWith (store.layout.categoryRoot .index)).map (·.1)).filterMap
        (markedId store.layout) := by
    rw [List.filterMap_map]
    rfl
  rw [hlisted]
  refine hkeys.filterMap fun k k' id hk hk' => ?_
  rw [(markedId_eq_some_iff.1 hk).2.2, (markedId_eq_some_iff.1 hk').2.2]

/-- A plain id is listed just when its marker is there. -/
theorem mem_listed_iff_of_isPlain (hid : id.IsPlain) :
    id ∈ store.listed es ↔ es.contains (store.markerKey id.text) := by
  rw [mem_listed_iff, markerKey_eq_markerAt, hid.sanitize_eq]
  exact ⟨fun h => h.2.2, fun h => ⟨hid.ne_empty, hid.slash_notMem, h⟩⟩

/-- Ids are listed in the order of their markers. -/
theorem pairwise_listed (store : Store) (es : Entries) :
    (store.listed es).Pairwise fun a b =>
      store.layout.markerAt a.text < store.layout.markerAt b.text := by
  -- Keys are listed in ascending order, and an id stands for the key that it was read from.
  rw [listed, KeyMap.startingWith_eq_filter]
  refine List.Pairwise.filterMap _ (fun e f hlt a ha b hb => ?_) (es.ascending.filter _)
  rwa [← (markedId_eq_some_iff.1 ha).2.2, ← (markedId_eq_some_iff.1 hb).2.2]

/-- Listing ids is exact, whatever the root is and whatever is stored. Listed are the texts of one
segment that stand between the root of the index and the leaf `ID` of a stored key, each once and in
the order of the bytes of these keys; nothing else adds to the list, which is empty when nothing is
stored under the root of the index. -/
theorem volumeIds_exact (store : Store) (es : Entries) :
    ∃ ids, effect store.volumeIds es = (.ok ids, es) ∧
      (∀ id : OverlayId, id ∈ ids ↔ id.text ≠ "" ∧ '/' ∉ id.text.toList ∧
        es.contains (store.layout.categoryRoot .index ++ id.text ++ "/ID")) ∧
      ids.Nodup ∧
      (ids.map fun id => Text.Utf8.encode
        (store.layout.categoryRoot .index ++ id.text ++ "/ID")).Pairwise (· < ·) ∧
      ((∀ k, hasPrefix (store.layout.categoryRoot .index) k → es.find? k = none) → ids = []) := by
  have hmarker : ∀ x, store.layout.categoryRoot .index ++ x ++ "/ID" = store.layout.markerAt x := by
    have hleaf : "/ID" = "/" ++ idLeaf := by decide
    intro x
    rw [KeyLayout.markerAt, hleaf, ← String.append_assoc]
  simp only [hmarker]
  refine ⟨store.listed es, effect_volumeIds store es, fun id => mem_listed_iff,
    nodup_listed store es, ?_, fun hnone => ?_⟩
  · rw [List.pairwise_map]
    exact (pairwise_listed store es).imp Text.Utf8.encode_lt_encode_iff.2
  · refine List.eq_nil_iff_forall_not_mem.2 fun id hid => ?_
    obtain ⟨value, hvalue⟩ := KeyMap.contains_iff.1 (mem_listed_iff.1 hid).2.2
    rw [hnone _ KeyLayout.hasPrefix_markerAt] at hvalue
    cases hvalue

end Store

end VolumeOverlay
