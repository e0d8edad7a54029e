import VolumeOverlay.Proofs.Document.Json
import VolumeOverlay.Proofs.Text.Utf8
import VolumeOverlay.Store.Schedulers

/-!
# Scheduler lists

The names of a list are kept in the order in which each was given first, and a list that is stored is
read back as it was.

## Main results

* `Schedulers.dedup_eq_eraseDups`: the names of a list, each once, in the order in which they came
* `Schedulers.nodup_revoke`: a revocation repeats no name
* `Schedulers.decode_encode`: a stored list is read back
-/

namespace VolumeOverlay.Schedulers

theorem appendNew_eq (known names : List String) :
    appendNew known names = known ++ (names.filter fun name => !known.contains name).eraseDups := by
  induction names generalizing known with
  | nil => simp [appendNew]
  | cons name names ih =>
    rw [appendNew]
    by_cases h : known.contains name = true
    · rw [if_pos h, ih, List.filter_cons_of_neg (by simpa using h)]
    · have hfilter : (names.filter fun n => !(known ++ [name]).contains n) =
          (names.filter fun n => !known.contains n).filter fun n => !n == name := by
        rw [List.filter_filter]
        congr 1
        funext n
        by_cases hn : n = name <;> simp [hn]
      rw [if_neg h, ih, List.filter_cons_of_pos (by simpa using h), List.eraseDups_cons, hfilter,
        List.append_assoc, List.singleton_append]

/-- The names of a list are kept once each, in the order in which they came. -/
theorem dedup_eq_eraseDups (names : List String) : dedup names = names.eraseDups := by
  rw [dedup, appendNew_eq, List.nil_append]
  exact congrArg List.eraseDups (List.filter_eq_self.2 fun _ _ => rfl)

/-- Revoking leaves names out, so it repeats none. -/
theorem nodup_revoke {current : List String} (h : current.Nodup) (names : List String) :
    (revoke current names).Nodup :=
  h.filter _

/-- A list that is stored is not empty. -/
theorem ne_nil_of_encode {names : List String} {value : Bytes} (h : encode names = some value) :
    names ≠ [] := by
  rintro rfl
  cases h

/-- A stored list is read back. -/
theorem decode_encode {names : List String} {value : Bytes} (h : encode names = some value)
    (key : String) : decode key value = .ok names := by
  unfold encode at h
  split at h
  · cases h
  · cases h
    rw [decode, Text.Utf8.decode?_encode, Option.bind_some,
      Document.ofJson?_compact (Document.exact_ofTexts names), Option.bind_some,
      Document.texts?_ofTexts]

end VolumeOverlay.Schedulers
