import VolumeOverlay.Proofs.Store.Texts

/-!
# Keys by their segments

The segments of a key are what its slashes separate. Those of the root come first in the key of a
leaf, then the segment of the category, the id, and the leaf. An id and a leaf without slashes are one
segment each, so that all three are found again at their places: a key stands for one leaf of one
object, and a key that lies in the subtree of such an object belongs to that object.

## Main definitions

* `segments key`: what the slashes of a key separate
* `IsSegment s`: a text that is one segment, and not an empty one
* `KeyLayout.rootSegments`: the segments that all keys of a store have in front

## Main results

* `length_segments`: the count of segments that a layout goes by is that of the segments
* `KeyLayout.segments_subtree_append`: the segments of the keys in a subtree
* `KeyLayout.leafKey_decodable`: what a key tells of its category, its object and its leaf
-/

namespace VolumeOverlay

open Text (hasPrefix)

/-! ### Segments -/

/-- What the slashes of a key separate. -/
def segments (key : String) : List String :=
  (key.toList.splitOn '/').map String.ofList

/-- A text that is one segment, and not an empty one. -/
structure IsSegment (s : String) : Prop where
  ne_empty : s ≠ ""
  slash_notMem : '/' ∉ s.toList

theorem segments_append_slash (s t : String) :
    segments (s ++ "/" ++ t) = segments s ++ segments t := by
  rw [segments, String.append_assoc, String.toList_append, String.toList_append]
  show (List.splitOn '/' (s.toList ++ '/' :: t.toList)).map _ = _
  rw [List.splitOn_append_cons_self, List.map_append, segments, segments]

theorem segments_of_slash_notMem {s : String} (h : '/' ∉ s.toList) : segments s = [s] := by
  rw [segments, List.splitOn_eq_singleton h, List.map_singleton, String.ofList_toList]

/-- Behind a path, the last segment of which is empty, other segments take the place of that one. -/
theorem segments_append_of_isPath {p : String} (h : Text.IsPath p) (s : String) :
    segments (p ++ s) = (segments p).dropLast ++ segments s := by
  have hempty : segments "" = [""] := segments_of_slash_notMem (by decide)
  rcases h with rfl | ⟨root, rfl⟩
  · rw [hempty, String.empty_append]
    rfl
  · have hpath : segments (root ++ "/") = segments root ++ [""] := by
      rw [← String.append_empty (s := root ++ "/"), segments_append_slash, hempty]
    rw [segments_append_slash, hpath, List.dropLast_concat]

/-- There is one segment more than there are slashes. -/
theorem length_segments (key : String) : (segments key).length = segmentCount key := by
  rw [segments, List.length_map, segmentCount, Text.countChar]
  induction key.toList with
  | nil => rfl
  | cons c cs ih =>
    rw [List.splitOn_eq_splitOnP, List.splitOnP_cons_eq_if_modifyHead, ← List.splitOn_eq_splitOnP]
    split <;> rename_i hc
    · rw [List.length_cons, ih, beq_iff_eq.1 hc, List.count_cons_self]
    · rw [List.length_modifyHead, ih, List.count_cons_of_ne (by simpa using hc)]

/-! ### Keys -/

namespace KeyLayout

variable {layout : KeyLayout}

/-- The segments that the keys of all objects have in front. -/
def rootSegments (layout : KeyLayout) : List String :=
  (segments layout.path).dropLast

theorem leafDepth_eq_length (layout : KeyLayout) :
    layout.leafDepth = layout.rootSegments.length + 3 := by
  rw [rootSegments, List.length_dropLast, length_segments, segmentCount, leafDepth,
    Nat.add_sub_cancel]

/-- The segments of a key in the subtree of an object whose id is one segment. -/
theorem segments_subtree_append (hpath : Text.IsPath layout.path) {category : Category} {id : String}
    (hid : '/' ∉ (sanitize id).toList) (rest : String) :
    segments (layout.subtree category id ++ rest) =
      layout.rootSegments ++ category.segment :: sanitize id :: segments rest := by
  have hkey : layout.subtree category id ++ rest =
      layout.path ++ (category.segment ++ "/" ++ (sanitize id ++ "/" ++ rest)) := by
    simp only [subtree, categoryRoot, String.append_assoc]
  rw [hkey, segments_append_of_isPath hpath, segments_append_slash, segments_append_slash,
    segments_of_slash_notMem (slash_notMem_segment category), segments_of_slash_notMem hid]
  rfl

theorem segment_injective {c d : Category} (h : c.segment = d.segment) : c = d := by
  rw [← Option.some.injEq, ← Category.parse?_segment c, h, Category.parse?_segment]

/-- Subtrees of objects whose ids are one segment share a key only when they are the same. -/
theorem eq_of_subtree_append_eq (hpath : Text.IsPath layout.path) {c d : Category} {i j : String}
    (hi : '/' ∉ (sanitize i).toList) (hj : '/' ∉ (sanitize j).toList) {s t : String}
    (h : layout.subtree c i ++ s = layout.subtree d j ++ t) :
    c = d ∧ sanitize i = sanitize j := by
  have hsegments := congrArg segments h
  rw [segments_subtree_append hpath hi, segments_subtree_append hpath hj, List.append_cancel_left_eq,
    List.cons.injEq, List.cons.injEq] at hsegments
  exact ⟨segment_injective hsegments.1, hsegments.2.1⟩

/-- The key of a leaf tells all that it is made of. For every root, and for ids that are one segment
when they are sanitized, the key of a leaf has the segments of the root, that of the category, the id
and the leaf, as many as the layout says; the leaf is what its last segment reads as; no other
category, sanitized id or leaf makes the same key; and of the objects only its own has a key that it
begins with. Nothing has to be known of the leaf that it is compared with. -/
theorem leafKey_decodable (root : String) (c d : Category) {i j l : String}
    (hi : IsSegment (sanitize i)) (hj : IsSegment (sanitize j)) (hl : checkLeaf l = .ok ())
    (m : String) :
    ∃ a b, (ofRoot root).objectKey c i = .ok a ∧ (ofRoot root).objectKey d j = .ok b ∧
      leafOf (a ++ l) = .ok l ∧
      segments (a ++ l) = (ofRoot root).rootSegments ++ [c.segment, sanitize i, l] ∧
      (segments (a ++ l)).length = (ofRoot root).leafDepth ∧
      (a ++ l = b ++ m ↔ c = d ∧ sanitize i = sanitize j ∧ l = m) ∧
      (hasPrefix a (b ++ m) ↔ c = d ∧ sanitize i = sanitize j) := by
  have hpath := isPath_ofRoot root
  have hlslash := slash_notMem_of_isLeaf (checkLeaf_eq_ok_iff.1 hl)
  have hsegments : segments ((ofRoot root).subtree c i ++ l) =
      (ofRoot root).rootSegments ++ [c.segment, sanitize i, l] := by
    rw [segments_subtree_append hpath hi.slash_notMem, segments_of_slash_notMem hlslash]
  have hsame : c = d → sanitize i = sanitize j →
      (ofRoot root).subtree c i = (ofRoot root).subtree d j := by
    rintro rfl hid
    rw [subtree, subtree, hid]
  refine ⟨_, _, objectKey_eq_ok hi.ne_empty, objectKey_eq_ok hj.ne_empty, leafOf_subtree hlslash,
    hsegments, ?_, ⟨fun h => ?_, ?_⟩, ⟨fun h => ?_, ?_⟩⟩
  · rw [hsegments, List.length_append, leafDepth_eq_length]
    rfl
  · obtain ⟨hcategory, hid⟩ := eq_of_subtree_append_eq hpath hi.slash_notMem hj.slash_notMem h
    rw [hsame hcategory hid, String.append_right_inj] at h
    exact ⟨hcategory, hid, h⟩
  · rintro ⟨hcategory, hid, rfl⟩
    rw [hsame hcategory hid]
  · obtain ⟨t, ht⟩ := Text.hasPrefix_iff_exists.1 h
    exact eq_of_subtree_append_eq hpath hi.slash_notMem hj.slash_notMem ht.symm
  · rintro ⟨hcategory, hid⟩
    rw [hsame hcategory hid]
    exact Text.hasPrefix_append _ _

/-- The keys of two ids, one of which begins with the other, under a root of three segments, one of
them empty. -/
theorem leafKey_decodable_neighbours :
    IsSegment (sanitize " mock-1/ ") ∧ IsSegment (sanitize "mock-10") ∧ checkLeaf "color" = .ok () ∧
      ∃ a b, (ofRoot " x//y/ ").objectKey .adminLabels " mock-1/ " = .ok a ∧
        (ofRoot " x//y/ ").objectKey .adminLabels "mock-10" = .ok b ∧
        segments (a ++ "color") = ["x", "", "y", "volumeadmin", "mock-1", "color"] ∧
        a ++ "color" ≠ b ++ "color" ∧ ¬ hasPrefix a (b ++ "color") := by
  have hi : IsSegment (sanitize " mock-1/ ") := ⟨by decide, by decide⟩
  have hj : IsSegment (sanitize "mock-10") := ⟨by decide, by decide⟩
  have hl : checkLeaf "color" = .ok () := by rfl
  have hids : sanitize " mock-1/ " ≠ sanitize "mock-10" := by decide
  obtain ⟨a, b, ha, hb, -, hsegments, -, hsame, hwithin⟩ :=
    leafKey_decodable " x//y/ " .adminLabels .adminLabels hi hj hl "color"
  refine ⟨hi, hj, hl, a, b, ha, hb, ?_, fun h => hids (hsame.1 h).2.1, fun h => hids (hwithin.1 h).2⟩
  rw [hsegments]
  decide

end KeyLayout

end VolumeOverlay
