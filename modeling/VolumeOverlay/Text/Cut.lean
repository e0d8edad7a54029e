/-!
# Cutting texts at a separator

Overlay ids are cut at their first `-`, labels at their first `=`, keys at their last `/`, and a
key under a prefix is cut into the prefix and the rest.

## Main definitions

* `cutFirst sep s`: the parts before and after the first `sep`
* `afterLast sep s`: the part after the last `sep`
* `hasPrefix p s`: whether `s` begins with `p`; `dropPrefix? p s` is then the rest
* `hasSuffix p s`, `dropSuffix? p s`: the same at the end

## Main results

* `cutFirst_eq_some_iff`: the cut is at a separator, and none comes before it
* `dropPrefix?_eq_some_iff`: the rest is what completes the prefix
-/

namespace VolumeOverlay.Text

/-- The characters before and after the first `sep`. -/
def cutChars (sep : Char) : List Char → Option (List Char × List Char)
  | [] => none
  | c :: cs => if c = sep then some ([], cs) else (cutChars sep cs).map fun p => (c :: p.1, p.2)

theorem cutChars_eq_some_iff {sep : Char} {cs a b : List Char} :
    cutChars sep cs = some (a, b) ↔ cs = a ++ sep :: b ∧ sep ∉ a := by
  induction cs generalizing a b with
  | nil => simp [cutChars]
  | cons c cs ih =>
    by_cases h : c = sep
    · subst h
      cases a with
      | nil => simp [cutChars]
      | cons x a =>
        simp only [cutChars, if_true, List.cons_append, List.cons.injEq, List.mem_cons, not_or]
        constructor
        · intro e; cases e
        · rintro ⟨⟨rfl, -⟩, h, -⟩; exact absurd rfl h
    · cases a with
      | nil =>
        simp only [cutChars, List.nil_append, List.cons.injEq, h, false_and]
        simp
      | cons x a =>
        simp only [cutChars, if_neg h, Option.map_eq_some_iff, Prod.mk.injEq, List.cons.injEq,
          Prod.exists, List.cons_append, List.mem_cons, not_or]
        constructor
        · rintro ⟨a', b', e, ⟨rfl, rfl⟩, rfl⟩
          obtain ⟨rfl, hs⟩ := ih.1 e
          exact ⟨⟨rfl, rfl⟩, fun e => h e.symm, hs⟩
        · rintro ⟨⟨rfl, rfl⟩, -, hs⟩
          exact ⟨a, b, ih.2 ⟨rfl, hs⟩, ⟨rfl, rfl⟩, rfl⟩

/-- The parts of a text before and after its first `sep`. -/
def cutFirst (sep : Char) (s : String) : Option (String × String) :=
  (cutChars sep s.toList).map fun p => (.ofList p.1, .ofList p.2)

theorem cutFirst_eq_some_iff {sep : Char} {s a b : String} :
    cutFirst sep s = some (a, b) ↔ s.toList = a.toList ++ sep :: b.toList ∧ sep ∉ a.toList := by
  simp only [cutFirst, Option.map_eq_some_iff, Prod.mk.injEq, Prod.exists, cutChars_eq_some_iff]
  constructor
  · rintro ⟨x, y, h, rfl, rfl⟩
    simpa using h
  · exact fun h => ⟨_, _, h, String.ofList_toList, String.ofList_toList⟩

/-- The characters after the last `sep`. -/
def tailAfter (sep : Char) : List Char → Option (List Char)
  | [] => none
  | c :: cs =>
    match tailAfter sep cs with
    | some t => some t
    | none => if c = sep then some cs else none

/-- The part of a text after its last `sep`. -/
def afterLast (sep : Char) (s : String) : Option String :=
  (tailAfter sep s.toList).map String.ofList

theorem tailAfter_eq_none_iff {sep : Char} {cs : List Char} :
    tailAfter sep cs = none ↔ sep ∉ cs := by
  induction cs with
  | nil => simp [tailAfter]
  | cons c cs ih =>
    unfold tailAfter
    cases h : tailAfter sep cs with
    | some t => simp only [h, reduceCtorEq, false_iff, Decidable.not_not] at ih ⊢; simp [ih]
    | none =>
      have hs := ih.1 h
      by_cases hc : c = sep
      · simp [hc]
      · simp [hc, hs, eq_comm (a := sep)]

theorem tailAfter_append {sep : Char} {a b : List Char} (h : sep ∉ b) :
    tailAfter sep (a ++ sep :: b) = some b := by
  induction a with
  | nil => simp [tailAfter, tailAfter_eq_none_iff.2 h]
  | cons c a ih => simp [tailAfter, ih]

/-- Whether a text begins with `p`. -/
def hasPrefix (p s : String) : Bool :=
  p.toList.isPrefixOf s.toList

/-- What follows `p` in a text that begins with it. -/
def dropPrefix? (p s : String) : Option String :=
  if hasPrefix p s then some (.ofList (s.toList.drop p.toList.length)) else none

theorem hasPrefix_iff {p s : String} : hasPrefix p s ↔ p.toList <+: s.toList :=
  List.isPrefixOf_iff_prefix

theorem dropPrefix?_eq_some_iff {p s t : String} : dropPrefix? p s = some t ↔ s = p ++ t := by
  unfold dropPrefix?
  split
  · rename_i h
    obtain ⟨u, hu⟩ := hasPrefix_iff.1 h
    simp only [Option.some.injEq, ← String.toList_inj, String.toList_append, ← hu,
      List.drop_left, String.toList_ofList, List.append_cancel_left_eq]
  · rename_i h
    simp only [reduceCtorEq, false_iff]
    rintro rfl
    exact h (hasPrefix_iff.2 ⟨t.toList, by simp⟩)

/-- Whether a text ends with `p`. -/
def hasSuffix (p s : String) : Bool :=
  p.toList.isSuffixOf s.toList

/-- What comes before `p` in a text that ends with it. -/
def dropSuffix? (p s : String) : Option String :=
  if hasSuffix p s then some (.ofList (s.toList.take (s.toList.length - p.toList.length))) else none

theorem hasSuffix_iff {p s : String} : hasSuffix p s ↔ p.toList <:+ s.toList :=
  List.isSuffixOf_iff_suffix

theorem dropSuffix?_eq_some_iff {p s t : String} : dropSuffix? p s = some t ↔ s = t ++ p := by
  unfold dropSuffix?
  split
  · rename_i h
    obtain ⟨u, hu⟩ := hasSuffix_iff.1 h
    simp only [Option.some.injEq, ← String.toList_inj, String.toList_append, ← hu,
      String.toList_ofList, List.length_append, Nat.add_sub_cancel, List.take_left,
      List.append_cancel_right_eq]
  · rename_i h
    simp only [reduceCtorEq, false_iff]
    rintro rfl
    exact h (hasSuffix_iff.2 ⟨t.toList, by simp⟩)

/-- The number of occurrences of a character. -/
def countChar (c : Char) (s : String) : Nat :=
  s.toList.count c

@[simp] theorem countChar_append (c : Char) (s t : String) :
    countChar c (s ++ t) = countChar c s + countChar c t := by
  simp [countChar]

end VolumeOverlay.Text
