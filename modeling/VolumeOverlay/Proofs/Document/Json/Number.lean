import VolumeOverlay.Document.Json.Reader
import VolumeOverlay.Proofs.Text.Decimal

/-!
# Integers are read back from JSON

A number ends where neither a digit nor a point nor an exponent follows. An integer of at most 64
bits is then read from its decimal form. The reader rounds its digits to a floating point number to
see whether they are beyond all of these; rounding at most triples a number, so they are not.

## Main definitions

* `Stops rest`: nothing that could belong to a number comes next

## Main results

* `nearest_le`: rounding at most triples a number
* `nearest_lt_leastOverflow`: a number of 64 bits stays finite
* `overflows_digits`: no number of 64 bits is beyond the floating point numbers
* `readNumber_ofInt`: an integer is read back
-/

namespace VolumeOverlay

/-! ### Rounding -/

namespace Binary64

theorem roundDiv_le (n d : Nat) : roundDiv n d ≤ n / d + 1 := by
  unfold roundDiv
  dsimp only
  split
  · exact Nat.le_refl _
  · exact Nat.le_succ _

/-- Rounding at most triples a number. -/
theorem nearest_le {n : Nat} (h : n ≠ 0) : nearest n ≤ 3 * n := by
  -- The unit is at most the power of two above the number.
  have hunit : Nat.pow 2 (n.log2 + 1 - precision) ≤ 2 * n := by
    calc 2 ^ (n.log2 + 1 - precision) ≤ 2 ^ (n.log2 + 1) :=
          Nat.pow_le_pow_right (by decide) (Nat.sub_le _ _)
      _ = 2 * 2 ^ n.log2 := Nat.pow_succ'
      _ ≤ 2 * n := Nat.mul_le_mul_left 2 (Nat.log2_self_le h)
  calc nearest n ≤ (n / Nat.pow 2 (n.log2 + 1 - precision) + 1) *
          Nat.pow 2 (n.log2 + 1 - precision) := Nat.mul_le_mul_right _ (roundDiv_le _ _)
    _ ≤ n + Nat.pow 2 (n.log2 + 1 - precision) := by
        rw [Nat.add_mul, Nat.one_mul]
        exact Nat.add_le_add_right (Nat.div_mul_le_self _ _) _
    _ ≤ 3 * n := by omega

/-- A number of 64 bits stays finite when it is rounded. -/
theorem nearest_lt_leastOverflow {n : Nat} (h : n < UInt64.size) : nearest n < leastOverflow := by
  have hlarge : 3 * UInt64.size < leastOverflow := by decide +kernel
  by_cases hn : n = 0
  · subst hn
    exact Nat.lt_of_le_of_lt (Nat.zero_le _) hlarge
  · calc nearest n ≤ 3 * n := nearest_le hn
      _ ≤ 3 * UInt64.size := Nat.mul_le_mul_left 3 (Nat.le_of_lt h)
      _ < leastOverflow := hlarge

end Binary64

namespace Document.Json

open Text.Decimal (digits ofInt isDigits_digits ofDigitChars_digits eq_zero_of_digits_eq)

/-! ### Digits -/

/-- Digits that make a number of 64 bits are all counted. -/
theorem leadingDigits_of_lt {ds : List Char} {n : Nat}
    (h : Nat.ofDigitChars 10 ds n < UInt64.size) :
    leadingDigits n ds = (Nat.ofDigitChars 10 ds n, []) := by
  induction ds generalizing n with
  | nil => rfl
  | cons d ds ih =>
    rw [Nat.ofDigitChars_cons, Nat.mul_comm] at h ⊢
    -- What is counted so far is no more than the whole number.
    have hnext : n * 10 + (d.toNat - '0'.toNat) < UInt64.size := by
      refine Nat.lt_of_le_of_lt ?_ h
      rw [Nat.ofDigitChars_eq_ofDigitChars_zero]
      exact Nat.le_trans (Nat.le_mul_of_pos_left _ (Nat.pow_pos (by decide)))
        (Nat.le_add_right _ _)
    rw [leadingDigits, if_pos hnext]
    exact ih h

/-- A number of 64 bits is not beyond the floating point numbers. -/
theorem overflows_digits {n : Nat} (h : n < UInt64.size) : overflows (digits n) [] 0 = false := by
  have hcount : leadingDigits 0 (digits n) = (n, []) := by
    have hlt : Nat.ofDigitChars 10 (digits n) 0 < UInt64.size := by
      rwa [ofDigitChars_digits]
    rw [leadingDigits_of_lt hlt, ofDigitChars_digits]
  have hone : Binary64.nearest (Nat.pow 10 0) = 1 :=
    Binary64.nearest_of_lt (by decide)
  -- There is neither a fraction nor an exponent, so the power of ten is one.
  rw [overflows, hcount]
  show (decide (n ≠ 0) && (decide (greatestPower < 0) || decide (Binary64.leastOverflow ≤
    Binary64.nearest n * Binary64.nearest (Nat.pow 10 0)))) = false
  rw [hone, Nat.mul_one, decide_eq_false (Nat.not_lt_zero _),
    decide_eq_false (Nat.not_le.2 (Binary64.nearest_lt_leastOverflow h)), Bool.or_self,
    Bool.and_false]

/-! ### Where a number ends -/

/-- Nothing comes next that could belong to a number. -/
def Stops (rest : List Char) : Prop :=
  ∀ c ∈ rest.head?, c.isDigit = false ∧ c ≠ '.' ∧ c ≠ 'e' ∧ c ≠ 'E'

variable {rest : List Char}

theorem Stops.cons {c : Char} (hc : c.isDigit = false ∧ c ≠ '.' ∧ c ≠ 'e' ∧ c ≠ 'E')
    (rest : List Char) : Stops (c :: rest) := by
  intro c' hc'
  obtain rfl : c = c' := by simpa using hc'
  exact hc

theorem Stops.punctuation {c : Char} (hc : c = ',' ∨ c = ']' ∨ c = '}') (rest : List Char) :
    Stops (c :: rest) := by
  refine .cons ?_ rest
  rcases hc with rfl | rfl | rfl <;> decide

theorem readDigits_append {ds : List Char} (hds : ∀ c ∈ ds, c.isDigit = true)
    (hrest : Stops rest) : readDigits (ds ++ rest) = (ds, rest) := by
  have hnone : rest.takeWhile Char.isDigit = [] ∧ rest.dropWhile Char.isDigit = rest := by
    cases rest with
    | nil => exact ⟨rfl, rfl⟩
    | cons c cs =>
      have hc : ¬ c.isDigit = true := by simp [(hrest c rfl).1]
      exact ⟨List.takeWhile_cons_of_neg hc, List.dropWhile_cons_of_neg hc⟩
  rw [readDigits, List.takeWhile_append_of_pos hds, List.dropWhile_append_of_pos hds, hnone.1,
    hnone.2, List.append_nil]

/-- The digits of a number are read up to its end; a zero comes alone. -/
theorem readWhole_digits (n : Nat) (hrest : Stops rest) :
    readWhole (digits n ++ rest) = some (digits n, rest) := by
  unfold readWhole
  split
  · rename_i cs heq
    -- The digits begin with a zero, so they are one.
    obtain ⟨c, ds, hds⟩ := List.exists_cons_of_ne_nil (isDigits_digits n).ne_nil
    rw [hds, List.cons_append] at heq
    obtain ⟨rfl, rfl⟩ := List.cons.inj heq
    obtain rfl := eq_zero_of_digits_eq hds
    obtain ⟨-, rfl⟩ := List.cons.inj (hds.symm.trans (Nat.toDigits_zero 10))
    rw [hds]
    rfl
  · rw [readDigits_append (isDigits_digits n).isDigit hrest]
    split
    · rename_i heq
      exact absurd (Prod.ext_iff.1 heq).1 (isDigits_digits n).ne_nil
    · rename_i heq
      rw [heq]

theorem readFraction_of_stops (hrest : Stops rest) : readFraction rest = some ([], rest) := by
  unfold readFraction
  split
  · exact absurd rfl (hrest '.' rfl).2.1
  · rfl

theorem readExponent_of_stops (hrest : Stops rest) : readExponent rest = some (none, rest) := by
  unfold readExponent
  split
  · exact absurd rfl (hrest 'e' rfl).2.2.1
  · exact absurd rfl (hrest 'E' rfl).2.2.2
  · rfl

/-! ### Integers -/

theorem ofInt_ne_nil : ∀ n : Int, ofInt n ≠ []
  | .ofNat n => (isDigits_digits n).ne_nil
  | .negSucc _ => List.cons_ne_nil _ _

theorem readUnsigned_digits (negative : Bool) {n : Nat} (h : n < UInt64.size)
    (hrest : Stops rest) :
    readUnsigned negative (digits n ++ rest) =
      some (if negative then (if n = 0 then .real else .integer (-n)) else .integer n, rest) := by
  have hparts : readUnsigned negative (digits n ++ rest) =
      some (numberOf negative (digits n) [] none, rest) := by
    simp only [readUnsigned, readWhole_digits n hrest, readFraction_of_stops hrest,
      readExponent_of_stops hrest, Option.bind_eq_bind, Option.bind_some]
    rfl
  rw [hparts, numberOf, Option.getD_none, overflows_digits h, ofDigitChars_digits]
  rfl

/-- An integer is read back from its decimal form. -/
theorem readNumber_ofInt {n : Int} (h : n.natAbs < UInt64.size) (hrest : Stops rest) :
    readNumber (ofInt n ++ rest) = some (.integer n, rest) := by
  cases n with
  | ofNat n =>
    have hunsigned : readNumber (digits n ++ rest) = readUnsigned false (digits n ++ rest) := by
      unfold readNumber
      split
      · rename_i cs heq
        -- No digit is a sign.
        obtain ⟨c, ds, hds⟩ := List.exists_cons_of_ne_nil (isDigits_digits n).ne_nil
        rw [hds, List.cons_append] at heq
        exact absurd (List.cons.inj heq).1
          ((hds ▸ isDigits_digits n).head_ne (by decide))
      · rfl
    rw [ofInt, hunsigned]
    exact readUnsigned_digits false h hrest
  | negSucc n =>
    rw [ofInt, List.cons_append, readNumber]
    exact readUnsigned_digits true h hrest

end Document.Json

end VolumeOverlay
