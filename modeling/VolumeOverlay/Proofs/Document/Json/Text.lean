import VolumeOverlay.Document.Json.Printer
import VolumeOverlay.Document.Json.Reader

/-!
# Texts are read back from JSON

A character is written plainly, by a letter behind a backslash, or by its code; in each case the
reader takes up exactly what was written for it, whatever follows. So a text of any characters is read
back.

## Main results

* `readPieces_escapeChar`: a character is read back from its escaped form
* `readText_writeText`: a text is read back
-/

namespace VolumeOverlay.Document.Json

/-! ### Characters -/

theorem hexDigit?_digitChar : ∀ d < 16, hexDigit? (Nat.digitChar d) = some d := by
  decide

theorem hexNumber?_control {n : Nat} (h : n < 32) :
    hexNumber? ['0', '0', Nat.digitChar (n / 16), Nat.digitChar (n % 16)] = some n := by
  have h₀ : hexDigit? '0' = some 0 := by decide
  rw [hexNumber?, List.foldl_cons, List.foldl_cons, List.foldl_cons, List.foldl_cons, List.foldl_nil,
    h₀, hexDigit?_digitChar (n / 16) (by omega), hexDigit?_digitChar (n % 16) (by omega)]
  show some ((((0 * 16 + 0) * 16 + 0) * 16 + n / 16) * 16 + n % 16) = some n
  congr 1
  omega

/-- A character that stands for itself. -/
theorem readPieces_plain {c : Char} (hquote : c ≠ '"') (hslash : c ≠ '\\') (hc : ¬ c < ' ')
    (cs : List Char) :
    readPieces (c :: cs) = (readPieces cs).map fun r => (.char c :: r.1, r.2) := by
  rw [readPieces.eq_def]
  split
  · simp_all
  · simp_all
  · simp_all
  · simp_all
  · simp_all
  · rename_i heq
    cases heq
    rw [if_neg hc]
    cases readPieces cs <;> rfl

/-- A character that a letter behind a backslash stands for. -/
theorem readPieces_letter {e c : Char} (hu : e ≠ 'u') (he : escaped? e = some c) (cs : List Char) :
    readPieces ('\\' :: e :: cs) = (readPieces cs).map fun r => (.char c :: r.1, r.2) := by
  rw [readPieces.eq_def]
  split
  · simp_all
  · simp_all
  · simp_all
  · simp_all
  · rename_i heq
    cases heq
    rw [he]
    cases readPieces cs <;> rfl
  · rename_i hne heq
    cases heq
    exact absurd rfl (hne e cs rfl)

/-- A control character that stands as its code. -/
theorem readPieces_code {n : Nat} (h : n < 32) (cs : List Char) :
    readPieces ('\\' :: 'u' :: '0' :: '0' :: Nat.digitChar (n / 16) :: Nat.digitChar (n % 16) :: cs) =
      (readPieces cs).map fun r => (.unit n :: r.1, r.2) := by
  rw [readPieces, hexNumber?_control h]
  cases readPieces cs <;> rfl

theorem joinPieces_unit {n : Nat} (h : n < 32) (ps : List Piece) :
    joinPieces (.unit n :: ps) = (joinPieces ps).map (.ofNat n :: ·) := by
  have hhigh : isHighSurrogate n = false := by
    simp only [isHighSurrogate, Bool.and_eq_false_iff, decide_eq_false_iff_not]
    omega
  have hlow : isLowSurrogate n = false := by
    simp only [isLowSurrogate, Bool.and_eq_false_iff, decide_eq_false_iff_not]
    omega
  rw [joinPieces.eq_def]
  dsimp only
  rw [hhigh, hlow, if_neg Bool.false_ne_true, if_neg Bool.false_ne_true]

/-- A character is read back from its escaped form, whatever follows. -/
theorem readPieces_escapeChar (c : Char) :
    ∃ piece, (∀ cs, readPieces (escapeChar c ++ cs) =
        (readPieces cs).map fun r => (piece :: r.1, r.2)) ∧
      ∀ ps, joinPieces (piece :: ps) = (joinPieces ps).map (c :: ·) := by
  unfold escapeChar
  split
  · exact ⟨.char '"', readPieces_letter (by decide) rfl, fun _ => rfl⟩
  · exact ⟨.char '\\', readPieces_letter (by decide) rfl, fun _ => rfl⟩
  · exact ⟨.char '\x08', readPieces_letter (by decide) rfl, fun _ => rfl⟩
  · exact ⟨.char '\x0c', readPieces_letter (by decide) rfl, fun _ => rfl⟩
  · exact ⟨.char '\n', readPieces_letter (by decide) rfl, fun _ => rfl⟩
  · exact ⟨.char '\r', readPieces_letter (by decide) rfl, fun _ => rfl⟩
  · exact ⟨.char '\t', readPieces_letter (by decide) rfl, fun _ => rfl⟩
  · -- Of the other characters only control characters are escaped.
    rename_i hquote hslash _ _ _ _ _
    split
    · rename_i hc
      have hlt : c.toNat < 32 := hc
      refine ⟨.unit c.toNat, readPieces_code hlt, fun ps => ?_⟩
      rw [joinPieces_unit hlt, Char.ofNat_toNat]
    · rename_i hc
      exact ⟨.char c, readPieces_plain hquote hslash hc, fun _ => rfl⟩

/-! ### Texts -/

theorem readPieces_flatMap (cs rest : List Char) :
    ∃ ps, readPieces (cs.flatMap escapeChar ++ '"' :: rest) = some (ps, rest) ∧
      joinPieces ps = some cs := by
  induction cs with
  | nil => exact ⟨[], by rw [List.flatMap_nil, List.nil_append, readPieces], rfl⟩
  | cons c cs ih =>
    obtain ⟨ps, hread, hjoin⟩ := ih
    obtain ⟨piece, hpiece, hc⟩ := readPieces_escapeChar c
    refine ⟨piece :: ps, ?_, ?_⟩
    · rw [List.flatMap_cons, List.append_assoc, hpiece, hread]
      rfl
    · rw [hc, hjoin]
      rfl

/-- A text is read back from its form in quotes. -/
theorem readText_writeText (s : String) (rest : List Char) :
    readText (s.toList.flatMap escapeChar ++ '"' :: rest) = some (some s, rest) := by
  obtain ⟨ps, hread, hjoin⟩ := readPieces_flatMap s.toList rest
  rw [readText, hread, Option.map_some, hjoin, Option.map_some, String.ofList_toList]

end VolumeOverlay.Document.Json
