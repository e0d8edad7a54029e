import Mathlib.Data.List.Forall2
import VolumeOverlay.Proofs.Store.Schedulers

/-!
# The stored form of scheduler lists

A list with names in it is stored as the UTF-8 form of a JSON text: brackets around the names, commas
and no blanks between them, and each name in quotes. Inside the quotes stands every character for
itself, but for the quote, the backslash and the control characters. The rules of this writing are
relations here, made of what stands for one character; the writer satisfies them, and no other text
does. What is stored is read back as the list that it was, for names of any characters, so that no two
lists share a stored form.

## Main definitions

* `WritesChar c cs`: what stands for a character inside quotes
* `WritesName name cs`, `WritesNames names cs`: a name in quotes, and a list of names

## Main results

* `writesChar_iff`, `writesNames_iff`: the writer follows these rules, and they leave no choice
* `encode_eq_some_iff`: which bytes are stored
* `stored_form_exact`: what is stored of a list, and what is read from it
-/

namespace VolumeOverlay.Schedulers

open Document.Json (escapeChar write writeItems writeText)

/-! ### The writing -/

/-- The digits of hexadecimal numbers, in the order of their values. -/
def hexDigits : List Char :=
  "0123456789abcdef".toList

/-- What stands for a character inside quotes. Of the control characters five have a letter, and the
others are told by their code. -/
inductive WritesChar : Char → List Char → Prop where
  | quote : WritesChar '"' ['\\', '"']
  | backslash : WritesChar '\\' ['\\', '\\']
  | backspace : WritesChar '\x08' ['\\', 'b']
  | formFeed : WritesChar '\x0c' ['\\', 'f']
  | lineFeed : WritesChar '\n' ['\\', 'n']
  | carriageReturn : WritesChar '\r' ['\\', 'r']
  | tab : WritesChar '\t' ['\\', 't']
  | control {c high low : Char} (hcontrol : c.toNat < 0x20)
      (hletter : c ∉ ['\x08', '\x0c', '\n', '\r', '\t'])
      (hhigh : hexDigits[c.toNat / 16]? = some high) (hlow : hexDigits[c.toNat % 16]? = some low) :
      WritesChar c ['\\', 'u', '0', '0', high, low]
  | plain {c : Char} (hcontrol : 0x20 ≤ c.toNat) (hquote : c ≠ '"') (hbackslash : c ≠ '\\') :
      WritesChar c [c]

/-- A name in quotes, character by character. -/
def WritesName (name : String) (cs : List Char) : Prop :=
  ∃ parts, List.Forall₂ WritesChar name.toList parts ∧ cs = '"' :: parts.flatten ++ ['"']

/-- Names between brackets, with commas between them. -/
def WritesNames (names : List String) (cs : List Char) : Prop :=
  ∃ parts, List.Forall₂ WritesName names parts ∧ cs = '[' :: [','].intercalate parts ++ [']']

/-! ### The writer -/

theorem hexDigits_digitChar : ∀ d < 16, hexDigits[d]? = some (Nat.digitChar d) := by
  decide

/-- A character that is no other special one is written by its code, or as it is. -/
theorem escapeChar_of_ne {c : Char} (hquote : c ≠ '"') (hbackslash : c ≠ '\\')
    (hletter : c ∉ ['\x08', '\x0c', '\n', '\r', '\t']) :
    escapeChar c =
      if c.toNat < 0x20 then
        ['\\', 'u', '0', '0', Nat.digitChar (c.toNat / 16), Nat.digitChar (c.toNat % 16)]
      else [c] := by
  simp only [List.mem_cons, not_or] at hletter
  obtain ⟨hb, hf, hn, hr, ht, -⟩ := hletter
  unfold escapeChar
  split
  case h_8 => rfl
  -- The other rows are for the characters that are left out.
  all_goals contradiction

/-- The rules for a character are followed by the writer, and leave no choice. -/
theorem writesChar_iff {c : Char} {cs : List Char} : WritesChar c cs ↔ escapeChar c = cs := by
  constructor
  · intro h
    cases h with
    | control hcontrol hletter hhigh hlow =>
      have hquote : c ≠ '"' := by
        rintro rfl
        exact absurd hcontrol (by decide)
      have hbackslash : c ≠ '\\' := by
        rintro rfl
        exact absurd hcontrol (by decide)
      rw [hexDigits_digitChar _ (by omega), Option.some.injEq] at hhigh hlow
      rw [escapeChar_of_ne hquote hbackslash hletter, if_pos hcontrol, hhigh, hlow]
    | plain hcontrol hquote hbackslash =>
      have hletter : c ∉ ['\x08', '\x0c', '\n', '\r', '\t'] := by
        intro hmem
        simp only [List.mem_cons, List.not_mem_nil, or_false] at hmem
        rcases hmem with rfl | rfl | rfl | rfl | rfl <;> exact absurd hcontrol (by decide)
      rw [escapeChar_of_ne hquote hbackslash hletter, if_neg (by omega)]
    | _ => rfl
  · rintro rfl
    by_cases hquote : c = '"'
    · subst hquote
      exact .quote
    by_cases hbackslash : c = '\\'
    · subst hbackslash
      exact .backslash
    by_cases hletter : c ∈ ['\x08', '\x0c', '\n', '\r', '\t']
    · simp only [List.mem_cons, List.not_mem_nil, or_false] at hletter
      rcases hletter with rfl | rfl | rfl | rfl | rfl
      · exact .backspace
      · exact .formFeed
      · exact .lineFeed
      · exact .carriageReturn
      · exact .tab
    · rw [escapeChar_of_ne hquote hbackslash hletter]
      split
      · rename_i hcontrol
        exact .control hcontrol hletter (hexDigits_digitChar _ (by omega))
          (hexDigits_digitChar _ (by omega))
      · rename_i hcontrol
        exact .plain (Nat.le_of_not_lt hcontrol) hquote hbackslash

/-- Where a relation is a function, lists are related just when one is the image of the other. -/
theorem forall₂_iff_map_eq {α β : Type} {R : α → β → Prop} {f : α → β}
    (h : ∀ a b, R a b ↔ f a = b) {as : List α} {bs : List β} :
    List.Forall₂ R as bs ↔ as.map f = bs := by
  have hR : R = fun a b => f a = b := funext fun a => funext fun b => propext (h a b)
  rw [hR, ← List.forall₂_map_left_iff (R := (· = ·)), List.forall₂_eq_eq_eq]

theorem writesName_iff {name : String} {cs : List Char} :
    WritesName name cs ↔ writeText name = cs := by
  have hchars : ∀ {parts}, List.Forall₂ WritesChar name.toList parts ↔
      name.toList.map escapeChar = parts := forall₂_iff_map_eq @writesChar_iff
  rw [writeText, List.flatMap_def]
  constructor
  · rintro ⟨parts, hparts, rfl⟩
    rw [hchars.1 hparts]
  · rintro rfl
    exact ⟨_, hchars.2 rfl, rfl⟩

theorem writeItems_texts (names : List String) :
    writeItems (names.map .text) = [','].intercalate (names.map writeText) := by
  induction names with
  | nil => rfl
  | cons name names ih =>
    cases names with
    | nil => rw [List.map_singleton, List.map_singleton, List.intercalate_singleton, writeItems, write]
    | cons next names =>
      simp only [List.map_cons] at ih ⊢
      rw [writeItems, ih, write, List.intercalate_cons_cons, List.append_assoc, List.singleton_append]
      exact List.cons_ne_nil _ _

/-- The rules for a list of names are followed by the writer, and leave no choice. -/
theorem writesNames_iff {names : List String} {cs : List Char} :
    WritesNames names cs ↔ write (Document.ofTexts names) = cs := by
  have hitems : ∀ {parts}, List.Forall₂ WritesName names parts ↔ names.map writeText = parts :=
    forall₂_iff_map_eq @writesName_iff
  rw [Document.ofTexts, write, writeItems_texts]
  constructor
  · rintro ⟨parts, hparts, rfl⟩
    rw [hitems.1 hparts]
  · rintro rfl
    exact ⟨_, hitems.2 rfl, rfl⟩

/-! ### What is stored -/

theorem encode_eq_none_iff {names : List String} : encode names = none ↔ names = [] := by
  unfold encode
  split <;> simp [*]

/-- The bytes that are stored of a list that is not empty. -/
theorem encode_eq_some_iff {names : List String} {value : Bytes} :
    encode names = some value ↔
      names ≠ [] ∧ ∃ cs, WritesNames names cs ∧ value = Text.Utf8.encode (.ofList cs) := by
  simp only [writesNames_iff, exists_eq_left']
  unfold encode
  split
  · rename_i hnames
    simp [hnames]
  · rename_i hnames
    rw [Option.some.injEq, and_iff_right hnames, eq_comm]
    rfl

example : encode ["k8s \"a\\b\"", "é\x01"] =
    some (Text.Utf8.encode "[\"k8s \\\"a\\\\b\\\"\",\"é\\u0001\"]") := by decide

/-- No two lists have the same stored form. -/
theorem encode_injective {names other : List String} (h : encode names = encode other) :
    names = other := by
  cases hvalue : encode names with
  | none =>
    rw [hvalue] at h
    rw [encode_eq_none_iff.1 hvalue, encode_eq_none_iff.1 h.symm]
  | some value =>
    -- The bytes are read back as either list.
    rw [hvalue] at h
    have hnames : decode "" value = .ok names := decode_encode hvalue ""
    rw [decode_encode h.symm ""] at hnames
    exact (Except.ok.inj hnames).symm

/-- What is stored of a list. There is nothing to store of an empty one, and only of that; any other
has one stored form, which follows the rules of the writing and is read back as the list, under
whatever key it stands. No other list has the same stored form. -/
theorem stored_form_exact (names : List String) :
    (encode names = none ↔ names = []) ∧
    (∀ value, encode names = some value ↔
      names ≠ [] ∧ ∃ cs, WritesNames names cs ∧ value = Text.Utf8.encode (.ofList cs)) ∧
    (names ≠ [] ↔ ∃ value, encode names = some value ∧ ∀ key, decode key value = .ok names) ∧
    ∀ other, encode other = encode names ↔ other = names := by
  refine ⟨encode_eq_none_iff, fun value => encode_eq_some_iff, ⟨fun hnames => ?_, ?_⟩, fun other => ?_⟩
  · obtain ⟨value, hvalue⟩ := Option.ne_none_iff_exists'.1 (encode_eq_none_iff.not.2 hnames)
    exact ⟨value, hvalue, decode_encode hvalue⟩
  · rintro ⟨value, hvalue, -⟩
    exact ne_nil_of_encode hvalue
  · exact ⟨encode_injective, fun h => h ▸ rfl⟩

end VolumeOverlay.Schedulers
