import VolumeOverlay.Proofs.Text.Prefix
import VolumeOverlay.Proofs.Text.Utf8

/-!
# The order and the prefixes of UTF-8 forms

Texts are ordered by their characters, stored keys by the bytes of their UTF-8 forms. The two orders
are the same: a greater character has a greater first byte, or the same first byte and a greater
rest, whatever stands behind it. No character's form begins another's, so that the two notions of a
prefix agree as well.

## Main results

* `utf8EncodeChar_append_lt`: a smaller character has the smaller form, whatever follows
* `encode_lt_encode_iff`: the order of texts is the order of their bytes
* `encode_prefix_encode_iff`: a text begins with another when its bytes do
-/

namespace VolumeOverlay.Text.Utf8

/-- Bytes are compared by the first in which they differ. -/
theorem ofNat_cons_lt_cons {a b : Nat} (ha : a < 256) (hb : b < 256) {as bs : Bytes}
    (hle : a ≤ b) (hrest : a = b → as < bs) : UInt8.ofNat a :: as < UInt8.ofNat b :: bs := by
  rw [List.cons_lt_cons_iff, UInt8.lt_iff_toNat_lt, toNat_ofNat_of_lt ha, toNat_ofNat_of_lt hb]
  rcases Nat.lt_or_eq_of_le hle with hlt | heq
  · exact .inl hlt
  · exact .inr ⟨congrArg UInt8.ofNat heq, hrest heq⟩

/-- Bytes of which the first is smaller are smaller. -/
theorem ofNat_cons_lt_cons_of_lt {a b : Nat} (ha : a < 256) (hb : b < 256) {as bs : Bytes}
    (hlt : a < b) : UInt8.ofNat a :: as < UInt8.ofNat b :: bs :=
  ofNat_cons_lt_cons ha hb (Nat.le_of_lt hlt) fun heq => absurd heq (Nat.ne_of_lt hlt)

/-- The form of a smaller character is the smaller one, whatever stands behind the two. -/
theorem utf8EncodeChar_append_lt {c d : Char} (h : c < d) (as bs : Bytes) :
    String.utf8EncodeChar c ++ as < String.utf8EncodeChar d ++ bs := by
  have hlt : c.val.toNat < d.val.toNat := h
  have hvalid : d.val.toNat < 0xD800 ∨ 0xDFFF < d.val.toNat ∧ d.val.toNat < 0x110000 := d.valid
  unfold String.utf8EncodeChar
  generalize c.val.toNat = v at *
  generalize d.val.toNat = w at *
  dsimp only
  -- A form of fewer bytes has the smaller first byte. Of two forms with as many bytes, the code points
  -- are compared in blocks of six bits, and equal blocks leave the comparison to the next byte.
  by_cases hv₁ : v ≤ 0x7F
  · rw [if_pos hv₁]
    (repeat' split) <;> exact ofNat_cons_lt_cons_of_lt (by omega) (by omega) (by omega)
  by_cases hv₂ : v ≤ 0x7FF
  · rw [if_neg hv₁, if_pos hv₂, if_neg (by omega : ¬ w ≤ 0x7F)]
    by_cases hw₂ : w ≤ 0x7FF
    · rw [if_pos hw₂]
      exact ofNat_cons_lt_cons (by omega) (by omega) (by omega) fun h₁ =>
        ofNat_cons_lt_cons_of_lt (by omega) (by omega) (by omega)
    · rw [if_neg hw₂]
      (repeat' split) <;> exact ofNat_cons_lt_cons_of_lt (by omega) (by omega) (by omega)
  by_cases hv₃ : v ≤ 0xFFFF
  · rw [if_neg hv₁, if_neg hv₂, if_pos hv₃, if_neg (by omega : ¬ w ≤ 0x7F),
      if_neg (by omega : ¬ w ≤ 0x7FF)]
    by_cases hw₃ : w ≤ 0xFFFF
    · rw [if_pos hw₃]
      exact ofNat_cons_lt_cons (by omega) (by omega) (by omega) fun h₁ =>
        ofNat_cons_lt_cons (by omega) (by omega) (by omega) fun h₂ =>
          ofNat_cons_lt_cons_of_lt (by omega) (by omega) (by omega)
    · rw [if_neg hw₃]
      exact ofNat_cons_lt_cons_of_lt (by omega) (by omega) (by omega)
  · rw [if_neg hv₁, if_neg hv₂, if_neg hv₃, if_neg (by omega : ¬ w ≤ 0x7F),
      if_neg (by omega : ¬ w ≤ 0x7FF), if_neg (by omega : ¬ w ≤ 0xFFFF)]
    exact ofNat_cons_lt_cons (by omega) (by omega) (by omega) fun h₁ =>
      ofNat_cons_lt_cons (by omega) (by omega) (by omega) fun h₂ =>
        ofNat_cons_lt_cons (by omega) (by omega) (by omega) fun h₃ =>
          ofNat_cons_lt_cons_of_lt (by omega) (by omega) (by omega)

/-! ### Order -/

/-- A smaller text has the smaller form. -/
theorem flatMap_utf8EncodeChar_lt {cs ds : List Char} (h : cs < ds) :
    cs.flatMap String.utf8EncodeChar < ds.flatMap String.utf8EncodeChar := by
  induction cs generalizing ds with
  | nil =>
    cases ds with
    | nil => exact absurd h (List.not_lt_nil _)
    | cons d ds =>
      -- A text that goes on has at least one byte more.
      obtain ⟨b, bs, hd⟩ := List.exists_cons_of_ne_nil (String.utf8EncodeChar_ne_nil (c := d))
      rw [List.flatMap_nil, List.flatMap_cons, hd]
      exact List.nil_lt_cons b _
  | cons c cs ih =>
    cases ds with
    | nil => exact absurd h (List.not_lt_nil _)
    | cons d ds =>
      rw [List.flatMap_cons, List.flatMap_cons]
      -- The first characters decide, or they are the same and leave it to the rest.
      rcases List.cons_lt_cons_iff.1 h with hcd | ⟨rfl, hrest⟩
      · exact utf8EncodeChar_append_lt hcd _ _
      · exact List.append_left_lt (ih hrest)

theorem encode_lt_encode_of_lt {s t : String} (h : s < t) : encode s < encode t :=
  flatMap_utf8EncodeChar_lt h

/-- The order of texts is the order of their bytes. -/
theorem encode_lt_encode_iff {s t : String} : encode s < encode t ↔ s < t := by
  constructor
  · -- The other two ways in which texts compare would turn the bytes around, or make them equal.
    intro h
    refine Decidable.byContradiction fun hnot => ?_
    rcases Decidable.em (t < s) with hlt | hnlt
    · exact List.lt_irrefl _ (List.lt_trans h (encode_lt_encode_of_lt hlt))
    · rw [String.le_antisymm (String.not_lt.1 hnlt) (String.not_lt.1 hnot)] at h
      exact List.lt_irrefl _ h
  · exact encode_lt_encode_of_lt

/-! ### Prefixes -/

theorem flatMap_utf8EncodeChar_prefix_iff {cs ds : List Char} :
    cs.flatMap String.utf8EncodeChar <+: ds.flatMap String.utf8EncodeChar ↔ cs <+: ds := by
  induction cs generalizing ds with
  | nil => simp
  | cons c cs ih =>
    cases ds with
    | nil => simp
    | cons d ds =>
      rw [List.flatMap_cons, List.flatMap_cons, List.cons_prefix_cons]
      by_cases hcd : c = d
      · subst hcd
        rw [List.prefix_append_right_inj, ih, eq_self, true_and]
      · -- Forms of different characters differ in a byte that both have.
        refine ⟨fun hprefix => ?_, fun h => absurd h.1 hcd⟩
        obtain ⟨rest, hrest⟩ := hprefix
        rw [List.append_assoc] at hrest
        rcases Nat.lt_or_gt_of_ne fun h => hcd (Char.ext (UInt32.toNat_inj.1 h)) with hlt | hgt
        · exact absurd (hrest ▸ utf8EncodeChar_append_lt hlt _ _) (List.lt_irrefl _)
        · exact absurd (hrest ▸ utf8EncodeChar_append_lt hgt _ _) (List.lt_irrefl _)

/-- A text begins with another when its bytes do. -/
theorem encode_prefix_encode_iff {p s : String} : encode p <+: encode s ↔ hasPrefix p s := by
  rw [hasPrefix_iff]
  exact flatMap_utf8EncodeChar_prefix_iff

end VolumeOverlay.Text.Utf8
