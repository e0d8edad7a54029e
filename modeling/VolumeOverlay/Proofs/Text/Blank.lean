import VolumeOverlay.Text.Blank

/-!
# Stripped ends

Stripping removes characters of one class from both ends of a text. A character of another class is
never lost, and nothing is removed from a text whose ends are not of the class.

## Main results

* `mem_stripEnds`: characters outside the class stay
* `stripEnds_eq_self`: a text whose ends are outside the class is left as it is
* `head?_stripEnds`: what is left begins outside the class
-/

namespace VolumeOverlay.Text

variable {p : Char → Bool} {cs : List Char}

theorem mem_dropWhile {c : Char} (h : c ∈ cs) (hc : p c = false) : c ∈ cs.dropWhile p := by
  induction cs with
  | nil => exact absurd h List.not_mem_nil
  | cons a cs ih =>
    by_cases ha : p a = true
    · rw [List.dropWhile_cons_of_pos ha]
      rcases List.mem_cons.1 h with rfl | h
      · rw [hc] at ha
        exact absurd ha Bool.false_ne_true
      · exact ih h
    · rwa [List.dropWhile_cons_of_neg ha]

/-- Characters outside the class stay. -/
theorem mem_stripEnds {c : Char} (h : c ∈ cs) (hc : p c = false) : c ∈ stripEnds p cs := by
  rw [stripEnds, List.mem_reverse]
  exact mem_dropWhile (List.mem_reverse.2 (mem_dropWhile h hc)) hc

theorem dropWhile_eq_self (h : ∀ c ∈ cs.head?, p c = false) : cs.dropWhile p = cs := by
  cases cs with
  | nil => rfl
  | cons c cs => rw [List.dropWhile_cons_of_neg (by simp [h c rfl])]

theorem head?_dropWhile : ∀ c ∈ (cs.dropWhile p).head?, p c = false := by
  induction cs with
  | nil => simp
  | cons a cs ih =>
    by_cases ha : p a = true
    · rwa [List.dropWhile_cons_of_pos ha]
    · rw [List.dropWhile_cons_of_neg ha]
      simpa using ha

/-- A text whose ends are outside the class is left as it is. -/
theorem stripEnds_eq_self (hhead : ∀ c ∈ cs.head?, p c = false)
    (hlast : ∀ c ∈ cs.getLast?, p c = false) : stripEnds p cs = cs := by
  rw [stripEnds, dropWhile_eq_self hhead, dropWhile_eq_self, List.reverse_reverse]
  rwa [List.head?_reverse]

/-- What is left begins outside the class. -/
theorem head?_stripEnds : ∀ c ∈ (stripEnds p cs).head?, p c = false := by
  intro c hc
  -- Only the end is taken off what is left after the first strip.
  have hsub : stripEnds p cs <+: cs.dropWhile p := by
    rw [stripEnds, ← List.reverse_suffix, List.reverse_reverse]
    exact List.dropWhile_suffix p
  obtain ⟨t, ht⟩ := hsub
  have hhead : c ∈ (cs.dropWhile p).head? := by
    rw [← ht, List.head?_append, Option.mem_def.1 hc]
    rfl
  exact head?_dropWhile c hhead

end VolumeOverlay.Text
