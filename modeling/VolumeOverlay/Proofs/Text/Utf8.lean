import VolumeOverlay.Text.Utf8

/-!
# The UTF-8 form of a text is read back

The decoder goes through the bytes of a character and reports that character. The cases follow the
number of bytes, and for three and four bytes the first one too, since it narrows the range of the
second. Hence a text is what its UTF-8 form decodes to, refused or repaired.

## Main results

* `decodeFrom_utf8EncodeChar`: the bytes of a character are read as that character
* `decode?_encode`, `decodeLossy_encode`: a text is read back from its UTF-8 form
-/

namespace VolumeOverlay.Text.Utf8

theorem toNat_ofNat_of_lt {n : Nat} (h : n < 256) : (UInt8.ofNat n).toNat = n := by
  rw [UInt8.toNat_ofNat']
  exact Nat.mod_eq_of_lt h

/-- A first byte that needs others leaves the decoder inside a character. -/
theorem decodeFrom_start {b : Nat} {p : Pending} (hb : b < 256) (h : start b = ([], some p))
    (bs : Bytes) : decodeFrom none (UInt8.ofNat b :: bs) = decodeFrom (some p) bs := by
  rw [decodeFrom, toNat_ofNat_of_lt hb, step, h]
  rfl

/-- A continuation byte that leaves others owed. -/
theorem decodeFrom_more {p : Pending} {b : Nat} (hlow : p.low ≤ b) (hhigh : b ≤ p.high)
    (hb : b < 256) (howed : p.owed ≠ 1) (bs : Bytes) :
    decodeFrom (some p) (UInt8.ofNat b :: bs) =
      decodeFrom (some ⟨p.bits * 64 + (b - 0x80), p.owed - 1, 0x80, 0xBF⟩) bs := by
  rw [decodeFrom, toNat_ofNat_of_lt hb, step, if_pos ⟨hlow, hhigh⟩]
  dsimp only
  rw [if_neg howed]
  rfl

/-- The last byte of a character. -/
theorem decodeFrom_last {p : Pending} {b : Nat} (hlow : p.low ≤ b) (hhigh : b ≤ p.high)
    (hb : b < 256) (howed : p.owed = 1) (bs : Bytes) :
    decodeFrom (some p) (UInt8.ofNat b :: bs) =
      some (.ofNat (p.bits * 64 + (b - 0x80))) :: decodeFrom none bs := by
  rw [decodeFrom, toNat_ofNat_of_lt hb, step, if_pos ⟨hlow, hhigh⟩]
  dsimp only
  rw [if_pos howed]
  rfl

theorem start_two {b : Nat} (hlow : 0xC2 ≤ b) (hhigh : b ≤ 0xDF) :
    start b = ([], some ⟨b - 0xC0, 1, 0x80, 0xBF⟩) := by
  rw [start, if_neg (by omega), if_pos ⟨hlow, hhigh⟩]

/-- The first of three bytes: the second is narrowed where the character could be overlong or half a
surrogate pair. -/
theorem start_three {b : Nat} (hlow : 0xE0 ≤ b) (hhigh : b ≤ 0xEF) :
    start b = ([], some ⟨b - 0xE0, 2, if b = 0xE0 then 0xA0 else 0x80,
      if b = 0xED then 0x9F else 0xBF⟩) := by
  rw [start, if_neg (by omega), if_neg (by omega)]
  by_cases h₁ : b = 0xE0
  · subst h₁
    rfl
  · by_cases h₂ : b = 0xED
    · subst h₂
      rfl
    · rw [if_neg h₁, if_neg h₂, if_pos (by omega), if_neg h₁, if_neg h₂]

/-- The first of four bytes: the second is narrowed where the character could be overlong or beyond
the last code point. -/
theorem start_four {b : Nat} (hlow : 0xF0 ≤ b) (hhigh : b ≤ 0xF4) :
    start b = ([], some ⟨b - 0xF0, 3, if b = 0xF0 then 0x90 else 0x80,
      if b = 0xF4 then 0x8F else 0xBF⟩) := by
  rw [start, if_neg (by omega), if_neg (by omega), if_neg (by omega), if_neg (by omega),
    if_neg (by omega)]
  by_cases h₁ : b = 0xF0
  · subst h₁
    rfl
  · by_cases h₂ : b = 0xF4
    · subst h₂
      rfl
    · rw [if_neg h₁, if_pos (by omega), if_neg h₁, if_neg h₂]

/-- The bytes of a character are read as that character. -/
theorem decodeFrom_utf8EncodeChar (c : Char) (bs : Bytes) :
    decodeFrom none (String.utf8EncodeChar c ++ bs) = some c :: decodeFrom none bs := by
  -- Everything below is arithmetic on the code point, which is no half of a surrogate pair.
  have hvalid : c.toNat < 0xD800 ∨ 0xDFFF < c.toNat ∧ c.toNat < 0x110000 := c.valid
  have hchar : ∀ n, n = c.toNat → Char.ofNat n = c := by
    rintro _ rfl
    exact Char.ofNat_toNat c
  have hval : c.val.toNat = c.toNat := rfl
  unfold String.utf8EncodeChar
  rw [hval]
  generalize c.toNat = v at *
  dsimp only
  by_cases h₁ : v ≤ 0x7F
  · rw [if_pos h₁, List.singleton_append, decodeFrom, toNat_ofNat_of_lt (by omega), step, start,
      if_pos h₁]
    show some (Char.ofNat v) :: _ = _
    rw [hchar v rfl]
    rfl
  by_cases h₂ : v ≤ 0x7FF
  · rw [if_neg h₁, if_pos h₂, List.cons_append, List.singleton_append,
      decodeFrom_start (by omega) (start_two (by omega) (by omega)),
      decodeFrom_last (by dsimp only; omega) (by dsimp only; omega) (by omega) rfl]
    rw [hchar _ (by dsimp only; omega)]
  by_cases h₃ : v ≤ 0xFFFF
  · rw [if_neg h₁, if_neg h₂, if_pos h₃, List.cons_append, List.cons_append, List.singleton_append,
      decodeFrom_start (by omega) (start_three (by omega) (by omega)),
      decodeFrom_more (by dsimp only; split <;> omega) (by dsimp only; split <;> omega) (by omega)
        (by dsimp only; omega),
      decodeFrom_last (by dsimp only; omega) (by dsimp only; omega) (by omega) rfl]
    rw [hchar _ (by dsimp only; omega)]
  · rw [if_neg h₁, if_neg h₂, if_neg h₃, List.cons_append, List.cons_append, List.cons_append,
      List.singleton_append,
      decodeFrom_start (by omega) (start_four (by omega) (by omega)),
      decodeFrom_more (by dsimp only; split <;> omega) (by dsimp only; split <;> omega) (by omega)
        (by dsimp only; omega),
      decodeFrom_more (by dsimp only; omega) (by dsimp only; omega) (by omega)
        (by dsimp only; omega),
      decodeFrom_last (by dsimp only; omega) (by dsimp only; omega) (by omega) rfl]
    rw [hchar _ (by dsimp only; omega)]

/-- The UTF-8 form of a text decodes to its characters. -/
theorem decode_encode (s : String) : decode (encode s) = s.toList.map some := by
  rw [decode, encode]
  induction s.toList with
  | nil => rfl
  | cons c cs ih => rw [List.flatMap_cons, decodeFrom_utf8EncodeChar, ih, List.map_cons]

theorem decode?_encode (s : String) : decode? (encode s) = some s := by
  have hmap : ∀ cs : List Char, (cs.map some).mapM id = some cs := by
    intro cs
    induction cs with
    | nil => rfl
    | cons c cs ih =>
      rw [List.map_cons, List.mapM_cons, ih]
      rfl
  rw [decode?, decode_encode, hmap, Option.map_some, String.ofList_toList]

theorem decodeLossy_encode (s : String) : decodeLossy (encode s) = s := by
  rw [decodeLossy, decode_encode, List.map_map]
  show String.ofList (s.toList.map id) = s
  rw [List.map_id, String.ofList_toList]

/-- Different texts have different UTF-8 forms. -/
theorem encode_injective {s t : String} (h : encode s = encode t) : s = t := by
  rw [← decodeLossy_encode s, h, decodeLossy_encode]

end VolumeOverlay.Text.Utf8
