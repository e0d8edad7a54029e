import VolumeOverlay.Text.Decimal

/-!
# Integers and the texts that denote them

An integer is denoted by at most one sign and one or more ASCII digits. Reading a 64-bit integer finds
exactly what is denoted, and refuses both what denotes nothing and what is out of range. Many texts
denote one integer: zeros in front and a plus sign say nothing. The padded form of a number denotes
that number, so different numbers have different padded forms, whatever their widths.

## Main definitions

* `IsDigits cs`: one or more ASCII digits
* `Denotes cs n`: the integer that a sign and digits stand for

## Main results

* `int64?_eq_some_iff`: a text is read as the 64-bit integer that it denotes
* `IsDigits.denotes_plus_zeros_iff`, `denotes_minus_zeros_iff`: a plus sign does not matter, nor do
  zeros behind a sign
* `zeroPadded_injective`: a number is known from its padded form
-/

namespace VolumeOverlay.Text.Decimal

/-- One or more ASCII digits. -/
structure IsDigits (cs : List Char) : Prop where
  ne_nil : cs ≠ []
  isDigit : ∀ c ∈ cs, c.isDigit = true

/-- The integer that at most one sign and then digits stand for. -/
inductive Denotes : List Char → Int → Prop where
  | unsigned {ds : List Char} (h : IsDigits ds) : Denotes ds (Nat.ofDigitChars 10 ds 0)
  | plus {ds : List Char} (h : IsDigits ds) : Denotes ('+' :: ds) (Nat.ofDigitChars 10 ds 0)
  | minus {ds : List Char} (h : IsDigits ds) : Denotes ('-' :: ds) (-Nat.ofDigitChars 10 ds 0)

/-! ### Reading -/

theorem digitsValue?_eq_some_iff {cs : List Char} {n : Nat} :
    digitsValue? cs = some n ↔ IsDigits cs ∧ n = Nat.ofDigitChars 10 cs 0 := by
  unfold digitsValue?
  constructor
  · intro h
    split at h
    · rename_i hcs
      exact ⟨⟨hcs.1, List.all_eq_true.1 hcs.2⟩, (Option.some.inj h).symm⟩
    · cases h
  · rintro ⟨h, rfl⟩
    rw [if_pos ⟨h.ne_nil, List.all_eq_true.2 h.isDigit⟩]

/-- No sign is a digit. -/
theorem IsDigits.head_ne {c d : Char} {cs : List Char} (h : IsDigits (c :: cs))
    (hd : d.isDigit = false) : c ≠ d := by
  rintro rfl
  rw [h.isDigit c List.mem_cons_self] at hd
  cases hd

theorem denotes_plus_iff {ds : List Char} {n : Int} :
    Denotes ('+' :: ds) n ↔ IsDigits ds ∧ n = Nat.ofDigitChars 10 ds 0 := by
  constructor
  · intro h
    cases h with
    | unsigned h => exact absurd rfl (h.head_ne (by decide))
    | plus h => exact ⟨h, rfl⟩
  · rintro ⟨h, rfl⟩
    exact .plus h

theorem denotes_minus_iff {ds : List Char} {n : Int} :
    Denotes ('-' :: ds) n ↔ IsDigits ds ∧ n = -Nat.ofDigitChars 10 ds 0 := by
  constructor
  · intro h
    cases h with
    | unsigned h => exact absurd rfl (h.head_ne (by decide))
    | minus h => exact ⟨h, rfl⟩
  · rintro ⟨h, rfl⟩
    exact .minus h

/-- An integer is read from the texts that denote it. -/
theorem int?_eq_some_iff {cs : List Char} {n : Int} : int? cs = some n ↔ Denotes cs n := by
  unfold int?
  split
  · rw [Option.map_eq_some_iff, denotes_plus_iff]
    simp only [digitsValue?_eq_some_iff]
    constructor
    · rintro ⟨m, ⟨h, rfl⟩, rfl⟩
      exact ⟨h, rfl⟩
    · rintro ⟨h, rfl⟩
      exact ⟨_, ⟨h, rfl⟩, rfl⟩
  · rw [Option.map_eq_some_iff, denotes_minus_iff]
    simp only [digitsValue?_eq_some_iff]
    constructor
    · rintro ⟨m, ⟨h, rfl⟩, rfl⟩
      exact ⟨h, rfl⟩
    · rintro ⟨h, rfl⟩
      exact ⟨_, ⟨h, rfl⟩, rfl⟩
  · rename_i hplus hminus
    rw [Option.map_eq_some_iff]
    simp only [digitsValue?_eq_some_iff]
    constructor
    · rintro ⟨m, ⟨h, rfl⟩, rfl⟩
      exact .unsigned h
    · intro h
      -- The other two forms begin with a sign.
      cases h with
      | unsigned h => exact ⟨_, ⟨h, rfl⟩, rfl⟩
      | plus h => exact absurd rfl (hplus _)
      | minus h => exact absurd rfl (hminus _)

theorem toInt64?_eq_some_iff {n : Int} {m : Int64} : toInt64? n = some m ↔ n = m.toInt := by
  constructor
  · intro h
    unfold toInt64? at h
    split at h
    · rename_i hrange
      obtain rfl := Option.some.inj h
      exact (Int64.toInt_ofInt_of_le hrange.1 (Int.lt_of_le_of_lt hrange.2 (by decide))).symm
    · cases h
  · rintro rfl
    exact toInt64?_toInt m

/-- A 64-bit integer is read from the texts that denote it, and from no others. -/
theorem int64?_eq_some_iff {s : String} {n : Int64} :
    int64? s = some n ↔ Denotes s.toList n.toInt := by
  unfold int64?
  rw [Option.bind_eq_some_iff]
  simp only [int?_eq_some_iff, toInt64?_eq_some_iff, exists_eq_right]

/-! ### Texts with the same value -/

theorem ofDigitChars_zeros (k : Nat) (ds : List Char) :
    Nat.ofDigitChars 10 (List.replicate k '0' ++ ds) 0 = Nat.ofDigitChars 10 ds 0 := by
  rw [Nat.ofDigitChars_append, Nat.ofDigitChars_replicate_zero, Nat.mul_zero]

theorem IsDigits.zeros {ds : List Char} (h : IsDigits ds) (k : Nat) :
    IsDigits (List.replicate k '0' ++ ds) where
  ne_nil := List.append_ne_nil_of_right_ne_nil _ h.ne_nil
  isDigit c hc := by
    rcases List.mem_append.1 hc with hc | hc
    · rw [List.eq_of_mem_replicate hc]
      decide
    · exact h.isDigit c hc

theorem IsDigits.denotes_iff {ds : List Char} (h : IsDigits ds) {n : Int} :
    Denotes ds n ↔ n = Nat.ofDigitChars 10 ds 0 := by
  constructor
  · intro hn
    cases hn with
    | unsigned h => rfl
    | plus _ => exact absurd rfl (h.head_ne (by decide))
    | minus _ => exact absurd rfl (h.head_ne (by decide))
  · rintro rfl
    exact .unsigned h

/-- A plus sign and zeros in front do not matter. -/
theorem IsDigits.denotes_plus_zeros_iff {ds : List Char} (h : IsDigits ds) (k : Nat) {n : Int} :
    Denotes ('+' :: (List.replicate k '0' ++ ds)) n ↔ Denotes ds n := by
  rw [denotes_plus_iff, h.denotes_iff, ofDigitChars_zeros, and_iff_right (h.zeros k)]

/-- Zeros behind a minus sign do not matter. -/
theorem IsDigits.denotes_minus_zeros_iff {ds : List Char} (h : IsDigits ds) (k : Nat) {n : Int} :
    Denotes ('-' :: (List.replicate k '0' ++ ds)) n ↔ Denotes ('-' :: ds) n := by
  rw [denotes_minus_iff, denotes_minus_iff, ofDigitChars_zeros, and_iff_right (h.zeros k),
    and_iff_right h]

/-! ### Written numbers -/

theorem isDigits_digits (n : Nat) : IsDigits (digits n) where
  ne_nil := Nat.toDigits_ne_nil
  isDigit _ hc := Nat.isDigit_of_mem_toDigits (by decide) (by decide) hc

@[simp] theorem ofDigitChars_digits (n : Nat) : Nat.ofDigitChars 10 (digits n) 0 = n :=
  Nat.ofDigitChars_ten_toDigits

/-- No zero stands in front of other digits. -/
theorem eq_zero_of_digits_eq {n : Nat} {cs : List Char} (h : digits n = '0' :: cs) : n = 0 := by
  induction n using Nat.strongRecOn generalizing cs with
  | ind n ih =>
    rw [digits, Nat.toDigits_eq_if (by decide)] at h
    split at h
    · exact Nat.digitChar_eq_zero.1 (List.cons.inj h).1
    · -- The first digit is that of a tenth of the number, and this is not zero.
      obtain ⟨c, ds, hds⟩ := List.exists_cons_of_ne_nil (Nat.toDigits_ne_nil (n := n / 10) (b := 10))
      rw [hds, List.cons_append] at h
      obtain ⟨rfl, -⟩ := List.cons.inj h
      have htenth : n / 10 = 0 := ih (n / 10) (by omega) hds
      omega

/-- A number is known from its padded form, also where the width is not enough for it. -/
theorem zeroPadded_injective {width m n : Nat} (h : zeroPadded width m = zeroPadded width n) :
    m = n := by
  have hvalue : ∀ n, Nat.ofDigitChars 10 (zeroPadded width n) 0 = n := fun n => by
    rw [zeroPadded, ofDigitChars_zeros, ofDigitChars_digits]
  rw [← hvalue m, h, hvalue]

end VolumeOverlay.Text.Decimal
