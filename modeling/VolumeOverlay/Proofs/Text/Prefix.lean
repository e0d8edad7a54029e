import VolumeOverlay.Text.Cut

/-!
# Prefixes of texts

The texts that begin with a given one form a run in the order of texts, and the run starts at the
given text itself.

## Main definitions

* `Diverge p q`: neither of two texts begins with the other
* `IsPath p`: a text that is empty or has a slash at its end

## Main results

* `hasPrefix_iff_exists`: a text begins with `p` when it is `p` with something behind
* `not_prefix_of_lt`: the run of texts with a prefix ends at the first text without it
* `IsPath.hasPrefix_of_append`, `IsPath.eq_of_append_eq`: a last segment does not reach into a path
-/

namespace VolumeOverlay.Text

theorem hasPrefix_append (p s : String) : hasPrefix p (p ++ s) :=
  hasPrefix_iff.2 ⟨s.toList, by rw [String.toList_append]⟩

theorem hasPrefix_iff_exists {p s : String} : hasPrefix p s ↔ ∃ t, s = p ++ t := by
  constructor
  · intro h
    obtain ⟨t, ht⟩ := hasPrefix_iff.1 h
    exact ⟨.ofList t, String.toList_inj.1 (by rw [String.toList_append, String.toList_ofList, ht])⟩
  · rintro ⟨t, rfl⟩
    exact hasPrefix_append p t

theorem hasPrefix_trans {p q s : String} (hpq : hasPrefix p q) (hqs : hasPrefix q s) :
    hasPrefix p s :=
  hasPrefix_iff.2 ((hasPrefix_iff.1 hpq).trans (hasPrefix_iff.1 hqs))

theorem hasPrefix_refl (p : String) : hasPrefix p p :=
  hasPrefix_iff.2 List.prefix_rfl

/-- Of two prefixes of one text, one begins with the other. -/
theorem hasPrefix_or_hasPrefix {p q s : String} (hp : hasPrefix p s) (hq : hasPrefix q s) :
    hasPrefix p q ∨ hasPrefix q p :=
  (List.prefix_or_prefix_of_prefix (hasPrefix_iff.1 hp) (hasPrefix_iff.1 hq)).imp
    hasPrefix_iff.2 hasPrefix_iff.2

/-- A prefix stands before all that begins with it. -/
theorem not_lt_of_hasPrefix {p s : String} (h : hasPrefix p s) : ¬ s < p :=
  List.IsPrefix.le (hasPrefix_iff.1 h)

/-- Beyond a prefix, the first text without it ends the run of those that have it. -/
theorem not_prefix_of_lt {p x y : List Char} (hpx : ¬ x < p) (hx : ¬ p <+: x) (hxy : x < y) :
    ¬ p <+: y := by
  induction p generalizing x y with
  | nil => exact absurd List.nil_prefix hx
  | cons c p ih =>
    cases x with
    | nil => exact absurd (List.nil_lt_cons c p) hpx
    | cons a x =>
      cases y with
      | nil => exact absurd hxy (List.not_lt_nil _)
      | cons b y =>
        rw [List.cons_prefix_cons] at hx ⊢
        -- If `y` began with the prefix, `x` would stand before it, or begin like it and go on below.
        rintro ⟨rfl, hy⟩
        rcases List.cons_lt_cons_iff.1 hxy with hac | ⟨rfl, hlt⟩
        · exact hpx (List.cons_lt_cons_iff.2 (.inl hac))
        · exact ih (fun h => hpx (List.cons_lt_cons_iff.2 (.inr ⟨rfl, h⟩))) (fun h => hx ⟨rfl, h⟩)
            hlt hy

theorem hasPrefix_antisymm {p q : String} (hpq : hasPrefix p q) (hqp : hasPrefix q p) : p = q := by
  have hpre := hasPrefix_iff.1 hpq
  exact String.toList_inj.1 (hpre.eq_of_length_le (hasPrefix_iff.1 hqp).length_le)

/-- A text with a slash behind it begins with itself, and with what the text begins with. -/
theorem hasPrefix_append_slash_iff {p s : String} :
    hasPrefix p (s ++ "/") ↔ p = s ++ "/" ∨ hasPrefix p s := by
  rw [hasPrefix_iff, hasPrefix_iff, ← String.toList_inj, String.toList_append]
  exact List.prefix_concat_iff

/-! ### Paths -/

/-- A text that is empty or has a slash at its end. -/
def IsPath (p : String) : Prop :=
  p = "" ∨ ∃ root, p = root ++ "/"

theorem isPath_append_slash (root : String) : IsPath (root ++ "/") := .inr ⟨root, rfl⟩

/-- Behind something else, a path is left only by what has a slash. -/
theorem IsPath.eq_empty_of_append {p s : String} (h : IsPath (p ++ s)) (hs : '/' ∉ s.toList) :
    s = "" := by
  rcases h with h | ⟨root, h⟩
  · exact (String.append_eq_empty_iff.1 h).2
  · refine Decidable.byContradiction fun hne => hs ?_
    obtain hnil | ⟨init, c, hc⟩ := List.eq_nil_or_concat s.toList
    · exact absurd (String.toList_eq_nil_iff.1 hnil) hne
    · rw [List.concat_eq_append] at hc
      rw [← String.toList_inj, String.toList_append, String.toList_append, hc, ← List.append_assoc] at h
      rw [hc, (List.append_inj' h rfl).2]
      exact List.mem_append_right _ List.mem_cons_self

/-- A path that stands before something without a slash stands before what is in front of that. -/
theorem IsPath.hasPrefix_of_append {p q s : String} (hq : IsPath q) (hs : '/' ∉ s.toList)
    (h : hasPrefix q (p ++ s)) : hasPrefix q p := by
  rcases hasPrefix_or_hasPrefix h (hasPrefix_append p s) with hqp | hpq
  · exact hqp
  · -- What the path has beyond `p` is the beginning of `s`, which has no slash.
    obtain ⟨t, rfl⟩ := hasPrefix_iff_exists.1 hpq
    obtain ⟨u, hu⟩ := hasPrefix_iff_exists.1 h
    rw [String.append_assoc, String.append_right_inj] at hu
    have ht : '/' ∉ t.toList := fun hmem => hs (by simp [hu, hmem])
    rw [hq.eq_empty_of_append ht, String.append_empty]
    exact hasPrefix_refl p

/-- What stands behind the last slash of a text tells where the path before it ends. -/
theorem IsPath.eq_of_append_eq {p q s t : String} (hp : IsPath p) (hq : IsPath q)
    (hs : '/' ∉ s.toList) (ht : '/' ∉ t.toList) (h : p ++ s = q ++ t) : p = q :=
  hasPrefix_antisymm (hp.hasPrefix_of_append ht (h ▸ hasPrefix_append p s))
    (hq.hasPrefix_of_append hs (h ▸ hasPrefix_append q t))

/-! ### Texts that part -/

/-- Neither of two texts begins with the other. -/
def Diverge (p q : String) : Prop :=
  ¬ hasPrefix p q ∧ ¬ hasPrefix q p

instance (p q : String) : Decidable (Diverge p q) :=
  inferInstanceAs (Decidable (_ ∧ _))

theorem Diverge.symm {p q : String} (h : Diverge p q) : Diverge q p :=
  ⟨h.2, h.1⟩

/-- No text begins with both of two texts that diverge. -/
theorem Diverge.not_hasPrefix {p q s : String} (h : Diverge p q) (hp : hasPrefix p s) :
    ¬ hasPrefix q s := fun hq =>
  (hasPrefix_or_hasPrefix hp hq).elim h.1 h.2

theorem hasPrefix_append_left_iff {r p q : String} : hasPrefix (r ++ p) (r ++ q) ↔ hasPrefix p q := by
  rw [hasPrefix_iff, hasPrefix_iff, String.toList_append, String.toList_append,
    List.prefix_append_right_inj]

theorem diverge_append_left_iff {r p q : String} : Diverge (r ++ p) (r ++ q) ↔ Diverge p q := by
  rw [Diverge, Diverge, hasPrefix_append_left_iff, hasPrefix_append_left_iff]

/-- Texts that diverge do so with anything behind them. -/
theorem Diverge.append {p q : String} (h : Diverge p q) (s t : String) :
    Diverge (p ++ s) (q ++ t) := by
  constructor
  · exact fun hst => h.not_hasPrefix (hasPrefix_trans (hasPrefix_append p s) hst)
      (hasPrefix_append q t)
  · exact fun hts => h.symm.not_hasPrefix (hasPrefix_trans (hasPrefix_append q t) hts)
      (hasPrefix_append p s)

end VolumeOverlay.Text
