import Mathlib.Data.List.Perm.Basic
import VolumeOverlay.Proofs.Store.Schedulers

/-!
# The algebra of scheduler lists

A list changes in two ways. An offer puts the requested names in its place, each where it came first
in the request; a revocation leaves names out and moves none. Both are told by what they leave, so
that nothing has to be said about how they go through a list: there is just one list that has the
names of another in the order of their first occurrences, and just one that keeps every occurrence of
some names and none of the others.

The first occurrences are found by a loop that carries the names known so far. Behind each name its
list is that of the first occurrences in what was seen.

## Main definitions

* `FirstOccurrences names kept`: the names of a list, in the order in which each came first
* `Without current removed kept`: a list without some of its names

## Main results

* `FirstOccurrences.concat`, `FirstOccurrences.appendNew`: one round of the loop, and all of it
* `eq_dedup_iff`, `eq_revoke_iff`: what an offer and a revocation leave
* `revoke_appendNew`: a revocation may be made before or behind the loop
* `offers_and_revocations`: the laws of both
-/

namespace VolumeOverlay.Schedulers

variable {names seen known kept kept' current removed : List String}

/-! ### First occurrences -/

/-- The names of a list, each once, in the order in which they came first. -/
structure FirstOccurrences (names kept : List String) : Prop where
  mem_iff : ∀ name, name ∈ kept ↔ name ∈ names
  inOrder : kept.Pairwise fun a b => names.idxOf a < names.idxOf b

namespace FirstOccurrences

theorem nil : FirstOccurrences [] [] where
  mem_iff _ := .rfl
  inOrder := .nil

/-- No name comes before itself. -/
theorem nodup (h : FirstOccurrences names kept) : kept.Nodup := by
  refine h.inOrder.imp fun {a b} hlt => ?_
  rintro rfl
  exact Nat.lt_irrefl _ hlt

/-- More names behind those that were seen do not move what came first. -/
theorem inOrder_append (h : FirstOccurrences seen known) (names : List String) :
    known.Pairwise fun a b => (seen ++ names).idxOf a < (seen ++ names).idxOf b := by
  refine h.inOrder.imp_of_mem fun {a b} ha hb hlt => ?_
  rwa [List.idxOf_append_of_mem ((h.mem_iff a).1 ha), List.idxOf_append_of_mem ((h.mem_iff b).1 hb)]

/-- A name that was seen already is passed over, and a new one comes behind all others. -/
theorem concat (h : FirstOccurrences seen known) (name : String) :
    FirstOccurrences (seen ++ [name])
      (if known.contains name then known else known ++ [name]) := by
  by_cases hname : name ∈ known
  · rw [if_pos (List.contains_iff_mem.2 hname)]
    refine ⟨fun other => ?_, h.inOrder_append [name]⟩
    rw [List.mem_append, List.mem_singleton, h.mem_iff]
    refine ⟨.inl, fun hother => hother.elim id ?_⟩
    rintro rfl
    exact (h.mem_iff _).1 hname
  · have hnew : name ∉ seen := fun hmem => hname ((h.mem_iff name).2 hmem)
    rw [if_neg fun hcontains => hname (List.contains_iff_mem.1 hcontains)]
    refine ⟨fun other => ?_, ?_⟩
    · rw [List.mem_append, List.mem_append, h.mem_iff]
    · refine List.pairwise_append.2 ⟨h.inOrder_append [name], List.pairwise_singleton _ _, ?_⟩
      intro a ha b hb
      -- Its first place is the end of what was seen, which is behind every place in there.
      have hseen := (h.mem_iff a).1 ha
      rw [List.mem_singleton.1 hb, List.idxOf_append_of_mem hseen, List.idxOf_append_of_notMem hnew]
      exact Nat.lt_add_right _ (List.idxOf_lt_length_iff.2 hseen)

/-- The loop keeps its list that of the first occurrences in what it has seen. -/
theorem appendNew (h : FirstOccurrences seen known) (names : List String) :
    FirstOccurrences (seen ++ names) (appendNew known names) := by
  induction names generalizing seen known with
  | nil => rwa [List.append_nil]
  | cons name names ih =>
    have hstep := ih (h.concat name)
    rw [List.append_assoc, List.singleton_append] at hstep
    rw [Schedulers.appendNew]
    split <;> rename_i hcontains
    · rwa [if_pos hcontains] at hstep
    · rwa [if_neg hcontains] at hstep

/-- Only one list has the names of another in the order of their first occurrences. -/
theorem unique (h : FirstOccurrences names kept) (h' : FirstOccurrences names kept') :
    kept = kept' := by
  have hperm : kept.Perm kept' := (List.perm_ext_iff_of_nodup h.nodup h'.nodup).2 fun name =>
    (h.mem_iff name).trans (h'.mem_iff name).symm
  refine hperm.eq_of_pairwise (fun a b _ _ hlt hgt => ?_) h.inOrder h'.inOrder
  exact absurd hgt (Nat.lt_asymm hlt)

end FirstOccurrences

theorem firstOccurrences_dedup (names : List String) : FirstOccurrences names (dedup names) :=
  FirstOccurrences.nil.appendNew names

/-- No name is kept twice. -/
theorem nodup_dedup (names : List String) : (dedup names).Nodup :=
  (firstOccurrences_dedup names).nodup

/-- Names without repetitions are their own first occurrences. -/
theorem firstOccurrences_self (h : names.Nodup) : FirstOccurrences names names where
  mem_iff _ := .rfl
  inOrder := by
    refine List.pairwise_iff_getElem.2 fun i j hi hj hij => ?_
    rwa [h.idxOf_getElem, h.idxOf_getElem]

theorem eq_dedup_iff : kept = dedup names ↔ FirstOccurrences names kept := by
  constructor
  · rintro rfl
    exact firstOccurrences_dedup names
  · exact fun h => h.unique (firstOccurrences_dedup names)

/-- Names without repetitions are left as they are. -/
theorem dedup_of_nodup (h : names.Nodup) : dedup names = names :=
  (firstOccurrences_dedup names).unique (firstOccurrences_self h)

/-! ### Revocations -/

/-- A list without some of its names: the others stay, every occurrence of them and in their order. -/
structure Without (current removed kept : List String) : Prop where
  sublist : kept.Sublist current
  count_eq : ∀ name, kept.count name = if name ∈ removed then 0 else current.count name

theorem mem_revoke {name : String} :
    name ∈ revoke current removed ↔ name ∈ current ∧ name ∉ removed := by
  simp [revoke]

theorem without_revoke (current removed : List String) :
    Without current removed (revoke current removed) where
  sublist := List.filter_sublist
  count_eq name := by
    split <;> rename_i hname
    · exact List.count_eq_zero.2 fun h => (mem_revoke.1 h).2 hname
    · exact List.count_filter (by simpa using hname)

/-- Only one list keeps every occurrence of the other names and none of these. -/
theorem Without.eq_revoke (h : Without current removed kept) : kept = revoke current removed := by
  induction current generalizing kept with
  | nil => exact List.sublist_nil.1 h.sublist
  | cons name current ih =>
    have hcount : ∀ other ≠ name, (name :: current).count other = current.count other :=
      fun other hne => List.count_cons_of_ne hne.symm
    by_cases hname : name ∈ removed
    · -- The first name is not kept, so what is kept comes from the rest.
      have hnotMem : name ∉ kept := List.count_eq_zero.1 ((h.count_eq name).trans (if_pos hname))
      rw [revoke, List.filter_cons_of_neg (by simpa using hname)]
      refine ih ⟨?_, fun other => (h.count_eq other).trans ?_⟩
      · rcases List.sublist_cons_iff.1 h.sublist with hsub | ⟨rest, rfl, -⟩
        · exact hsub
        · exact absurd List.mem_cons_self hnotMem
      · split
        · rfl
        · rename_i hother
          exact hcount other fun heq => hother (heq ▸ hname)
    · rw [revoke, List.filter_cons_of_pos (by simpa using hname)]
      have hfirst : kept.count name = current.count name + 1 :=
        ((h.count_eq name).trans (if_neg hname)).trans List.count_cons_self
      rcases List.sublist_cons_iff.1 h.sublist with hsub | ⟨rest, rfl, hsub⟩
      · -- The rest does not have the name as often as it is kept.
        have hle := hsub.count_le name
        omega
      · refine congrArg (name :: ·) (ih ⟨hsub, fun other => ?_⟩)
        have hother := h.count_eq other
        by_cases heq : other = name
        · subst heq
          rw [List.count_cons_self] at hfirst
          rw [if_neg hname]
          exact Nat.succ.inj hfirst
        · rwa [List.count_cons_of_ne (Ne.symm heq), hcount other heq] at hother

theorem eq_revoke_iff : kept = revoke current removed ↔ Without current removed kept := by
  constructor
  · rintro rfl
    exact without_revoke current removed
  · exact Without.eq_revoke

/-- Revoking twice is revoking all at once. -/
theorem revoke_revoke (current a b : List String) :
    revoke (revoke current a) b = revoke current (a ++ b) := by
  rw [revoke, revoke, revoke, List.filter_filter]
  refine List.filter_congr fun name _ => ?_
  rw [List.contains_append, Bool.not_or, Bool.and_comm]

theorem revoke_comm (current a b : List String) :
    revoke (revoke current a) b = revoke (revoke current b) a :=
  List.filter_comm _ _ _

/-! ### Both -/

/-- What is revoked may be left out before the loop goes through the names, if it is left out of the
names known so far as well. -/
theorem revoke_appendNew (known names removed : List String) :
    revoke (appendNew known names) removed =
      appendNew (revoke known removed) (revoke names removed) := by
  induction names generalizing known with
  | nil => rfl
  | cons name names ih =>
    by_cases hname : name ∈ removed
    · have hnames : revoke (name :: names) removed = revoke names removed :=
        List.filter_cons_of_neg (by simpa using hname)
      have hknown : revoke (known ++ [name]) removed = revoke known removed := by
        rw [revoke, List.filter_append, List.filter_cons_of_neg (by simpa using hname),
          List.filter_nil, List.append_nil, revoke]
      -- Whether or not the name is new, nothing of it is left.
      rw [hnames, appendNew]
      split
      · exact ih known
      · rw [ih, hknown]
    · have hnames : revoke (name :: names) removed = name :: revoke names removed :=
        List.filter_cons_of_pos (by simpa using hname)
      have hknown : revoke (known ++ [name]) removed = revoke known removed ++ [name] := by
        rw [revoke, List.filter_append, List.filter_cons_of_pos (by simpa using hname),
          List.filter_nil, revoke]
      have hcontains : (revoke known removed).contains name = known.contains name := by
        rw [Bool.eq_iff_iff, List.contains_iff_mem, List.contains_iff_mem, mem_revoke]
        exact ⟨And.left, fun hmem => ⟨hmem, hname⟩⟩
      rw [hnames, appendNew, appendNew, hcontains]
      split
      · exact ih known
      · rw [ih, hknown]

/-- The laws of offers and revocations. An offer leaves the first occurrences of the requested names,
whatever was there, and offering what it leaves changes nothing; a revocation leaves the list without
the given names; two revocations are one of all their names, in either order; and it makes no
difference whether names are revoked before or after repetitions are dropped. -/
theorem offers_and_revocations :
    (∀ names kept, kept = dedup names ↔ FirstOccurrences names kept) ∧
    (∀ names, (dedup names).Nodup ∧ dedup (dedup names) = dedup names) ∧
    (∀ current requested, offer current requested = dedup requested) ∧
    (∀ current removed kept, kept = revoke current removed ↔ Without current removed kept) ∧
    (∀ current a b, revoke (revoke current a) b = revoke current (a ++ b) ∧
      revoke current (a ++ b) = revoke (revoke current b) a) ∧
    ∀ names removed, revoke (dedup names) removed = dedup (revoke names removed) := by
  refine ⟨fun _ _ => eq_dedup_iff, fun names => ?_, fun _ _ => rfl, fun _ _ _ => eq_revoke_iff,
    fun current a b => ?_, fun names removed => ?_⟩
  · exact ⟨nodup_dedup names, dedup_of_nodup (nodup_dedup names)⟩
  · exact ⟨revoke_revoke current a b, (revoke_revoke current a b).symm.trans (revoke_comm current a b)⟩
  · exact revoke_appendNew [] names removed

example : revoke (dedup ["x", "y", "x", "z"]) ["y"] = ["x", "z"] := by decide

end VolumeOverlay.Schedulers
