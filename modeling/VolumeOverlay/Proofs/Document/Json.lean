import Mathlib.Data.List.DropRight
import VolumeOverlay.Proofs.Document.Json.Number
import VolumeOverlay.Proofs.Document.Json.Text

/-!
# Documents are read back from JSON

A text spells a document when it follows the grammar of JSON for it. The reader finds whatever a
text spells: an item or a member spends one unit of fuel, a list or a table another one, and there are
two units for each character. Blanks make no difference, since the reader skips them before a token.

The printer writes nothing but spellings, in its compact and in its pretty form. A document is
therefore read back from both, unless it has a number in it that is no integer of 64 bits.

## Main definitions

* `Spells`, `SpellsItems`, `SpellsMembers`: the grammar of JSON
* `ReadsAs`, `ItemsReadAs`, `MembersReadAs`: what the reader makes of characters, whatever follows
* `Exact d`: nothing of `d` is lost when it is written

## Main results

* `Spells.readsAs`, `read_of_spells`: what a text spells is read from it
* `spells_write`, `spells_writePretty`: what is written for a document spells it
* `ofJson?_compact`, `ofJson?_pretty`: a document is read back from its two forms
-/

namespace VolumeOverlay.Document

/-- Documents of which nothing is lost when they are written: integers have at most 64 bits, and
there are no other numbers. -/
inductive Exact : Document → Prop where
  | null : Exact .null
  | bool (b : Bool) : Exact (.bool b)
  | integer {n : Int} (h : n.natAbs < UInt64.size) : Exact (.integer n)
  | text (s : String) : Exact (.text s)
  | list {items : List Document} (h : ∀ d ∈ items, Exact d) : Exact (.list items)
  | table {members : List (String × Document)} (h : ∀ m ∈ members, Exact m.2) :
      Exact (.table members)

namespace Json

open Text.Decimal (ofInt)

/-! ### Spellings -/

/-- Characters that are all blanks. -/
def Blank (cs : List Char) : Prop :=
  ∀ c ∈ cs, isBlank c = true

mutual

/-- The documents that a text spells. Texts and integers stand in the form in which they are written,
and a colon right behind its name; there may be blanks around every value and before every name. -/
inductive Spells : List Char → Document → Prop where
  | null : Spells ['n', 'u', 'l', 'l'] .null
  | true : Spells ['t', 'r', 'u', 'e'] (.bool true)
  | false : Spells ['f', 'a', 'l', 's', 'e'] (.bool false)
  | integer {n : Int} (h : n.natAbs < UInt64.size) : Spells (ofInt n) (.integer n)
  | text (s : String) : Spells (writeText s) (.text s)
  | noItems {blanks : List Char} (h : Blank blanks) : Spells ('[' :: (blanks ++ [']'])) (.list [])
  | list {cs : List Char} {ds : List Document} (h : SpellsItems cs ds) :
      Spells ('[' :: (cs ++ [']'])) (.list ds)
  | noMembers {blanks : List Char} (h : Blank blanks) :
      Spells ('{' :: (blanks ++ ['}'])) (.table [])
  | table {cs : List Char} {ms : List (String × Document)} (h : SpellsMembers cs ms) :
      Spells ('{' :: (cs ++ ['}'])) (.table ms)
  | blanks {before cs after : List Char} {d : Document} (hbefore : Blank before) (h : Spells cs d)
      (hafter : Blank after) : Spells (before ++ cs ++ after) d

/-- The items that a text spells, at least one, with commas between them. -/
inductive SpellsItems : List Char → List Document → Prop where
  | last {cs : List Char} {d : Document} (h : Spells cs d) : SpellsItems cs [d]
  | cons {cs cs' : List Char} {d : Document} {ds : List Document} (h : Spells cs d)
      (hs : SpellsItems cs' ds) : SpellsItems (cs ++ ',' :: cs') (d :: ds)

/-- The members that a text spells, at least one, with commas between them. -/
inductive SpellsMembers : List Char → List (String × Document) → Prop where
  | last {before cs : List Char} {d : Document} (hbefore : Blank before) (name : String)
      (h : Spells cs d) : SpellsMembers (before ++ writeText name ++ ':' :: cs) [(name, d)]
  | cons {before cs cs' : List Char} {d : Document} {ms : List (String × Document)}
      (hbefore : Blank before) (name : String) (h : Spells cs d) (hs : SpellsMembers cs' ms) :
      SpellsMembers (before ++ writeText name ++ ':' :: cs ++ ',' :: cs') ((name, d) :: ms)

end

/-! ### Blanks -/

theorem skipBlanks_append {blanks : List Char} (h : Blank blanks) (cs : List Char) :
    skipBlanks (blanks ++ cs) = skipBlanks cs :=
  List.dropWhile_append_of_pos h

theorem skipBlanks_skipBlanks (cs : List Char) : skipBlanks (skipBlanks cs) = skipBlanks cs :=
  List.dropWhile_idempotent _ _

/-- A blank belongs to no number. -/
theorem Stops.blanks {blanks rest : List Char} (h : Blank blanks) (hrest : Stops rest) :
    Stops (blanks ++ rest) := by
  cases blanks with
  | nil => exact hrest
  | cons c cs =>
    have hc : isBlank c = true := h c List.mem_cons_self
    simp only [isBlank, Bool.or_eq_true, beq_iff_eq] at hc
    refine .cons ?_ _
    rcases hc with ((rfl | rfl) | rfl) | rfl <;> decide

theorem readValue_skipBlanks (fuel : Nat) (cs : List Char) :
    readValue fuel (skipBlanks cs) = readValue fuel cs := by
  cases fuel with
  | zero => rfl
  | succ fuel => rw [readValue, readValue, skipBlanks_skipBlanks]

theorem readItems_skipBlanks (fuel : Nat) (cs : List Char) :
    readItems fuel (skipBlanks cs) = readItems fuel cs := by
  cases fuel with
  | zero => rfl
  | succ fuel => rw [readItems, readItems, readValue_skipBlanks]

theorem readMembers_skipBlanks (fuel : Nat) (cs : List Char) :
    readMembers fuel (skipBlanks cs) = readMembers fuel cs := by
  cases fuel with
  | zero => rfl
  | succ fuel => rw [readMembers, readMembers, skipBlanks_skipBlanks]

/-! ### Reading one value -/

/-- No item begins with the bracket that ends a list. -/
theorem readItems_bracket (fuel : Nat) (cs : List Char) : readItems fuel (']' :: cs) = none := by
  rcases fuel with _ | _ | fuel
  · rfl
  · rfl
  · rfl

/-- No member begins with the brace that ends a table. -/
theorem readMembers_brace (fuel : Nat) (cs : List Char) : readMembers fuel ('}' :: cs) = none := by
  cases fuel with
  | zero => rfl
  | succ fuel => rfl

/-- A list with items is read item by item. -/
theorem readValue_list {fuel : Nat} {cs rest : List Char} {ds : List Document}
    (h : readItems fuel cs = some (ds, rest)) :
    readValue (fuel + 1) ('[' :: cs) = some (.list ds, rest) := by
  rw [← readItems_skipBlanks] at h
  have hopen : skipBlanks ('[' :: cs) = '[' :: cs := rfl
  rw [readValue]
  simp only [hopen]
  split
  · rename_i heq
    rw [heq, readItems_bracket] at h
    cases h
  · rw [h]
    rfl

/-- A table with members is read member by member. -/
theorem readValue_table {fuel : Nat} {cs rest : List Char}
    {ms : List (Option String × Document)} (h : readMembers fuel cs = some (ms, rest)) :
    readValue (fuel + 1) ('{' :: cs) = some (tableOf ms, rest) := by
  rw [← readMembers_skipBlanks] at h
  have hopen : skipBlanks ('{' :: cs) = '{' :: cs := rfl
  rw [readValue]
  simp only [hopen]
  split
  · rename_i heq
    rw [heq, readMembers_brace] at h
    cases h
  · rw [h]
    rfl

theorem readValue_writeText (fuel : Nat) (s : String) (rest : List Char) :
    readValue (fuel + 1) (writeText s ++ rest) = some (.text s, rest) := by
  have hwrite : writeText s ++ rest = '"' :: (s.toList.flatMap escapeChar ++ '"' :: rest) := by
    simp [writeText]
  rw [hwrite, readValue]
  have hskip : ∀ cs, skipBlanks ('"' :: cs) = '"' :: cs := fun _ => rfl
  simp only [hskip, readText_writeText]
  rfl

/-- A list without items may have blanks in it. -/
theorem readValue_noItems (fuel : Nat) {cs rest : List Char} (h : skipBlanks cs = ']' :: rest) :
    readValue (fuel + 1) ('[' :: cs) = some (.list [], rest) := by
  have hopen : skipBlanks ('[' :: cs) = '[' :: cs := rfl
  rw [readValue]
  simp only [hopen, h]

/-- A table without members may have blanks in it. -/
theorem readValue_noMembers (fuel : Nat) {cs rest : List Char} (h : skipBlanks cs = '}' :: rest) :
    readValue (fuel + 1) ('{' :: cs) = some (.table [], rest) := by
  have hopen : skipBlanks ('{' :: cs) = '{' :: cs := rfl
  rw [readValue]
  simp only [hopen, h]

/-- What begins with a sign or a digit is read as a number. -/
theorem readValue_number (fuel : Nat) {c : Char} (hc : c = '-' ∨ c.isDigit = true)
    (cs : List Char) : readValue (fuel + 1) (c :: cs) = readNumber (c :: cs) := by
  have hblank : ¬ isBlank c = true := by
    intro hblank
    simp only [isBlank, Bool.or_eq_true, beq_iff_eq] at hblank
    rcases hblank with ((rfl | rfl) | rfl) | rfl <;> revert hc <;> decide
  have hopen : skipBlanks (c :: cs) = c :: cs := List.dropWhile_cons_of_neg hblank
  rw [readValue]
  simp only [hopen]
  split
  case h_7 => rfl
  -- No other value begins with a sign or a digit.
  all_goals
    rename_i heq
    cases heq
    exact absurd hc (by decide)

theorem readValue_ofInt (fuel : Nat) {n : Int} (h : n.natAbs < UInt64.size) {rest : List Char}
    (hrest : Stops rest) : readValue (fuel + 1) (ofInt n ++ rest) = some (.integer n, rest) := by
  have hhead : ∃ c cs, ofInt n = c :: cs ∧ (c = '-' ∨ c.isDigit = true) := by
    cases n with
    | ofNat n =>
      have hdigits := Text.Decimal.isDigits_digits n
      obtain ⟨c, cs, hcs⟩ := List.exists_cons_of_ne_nil hdigits.ne_nil
      exact ⟨c, cs, hcs, .inr (hdigits.isDigit c (hcs ▸ List.mem_cons_self))⟩
    | negSucc n => exact ⟨'-', _, rfl, .inl rfl⟩
  obtain ⟨c, cs, hcs, hc⟩ := hhead
  rw [← readNumber_ofInt h hrest, hcs, List.cons_append, readValue_number fuel hc]

/-! ### Reading what is spelled -/

/-- A value is read from these characters, if there are two units of fuel for each, and at most
blanks of them are left. -/
def ReadsAs (cs : List Char) (d : Document) : Prop :=
  ∀ fuel rest, 2 * cs.length ≤ fuel → Stops rest →
    ∃ left, readValue fuel (cs ++ rest) = some (d, left) ∧ skipBlanks left = skipBlanks rest

/-- Items are read from these characters up to the bracket. -/
def ItemsReadAs (cs : List Char) (ds : List Document) : Prop :=
  ∀ fuel rest, 2 * cs.length < fuel → readItems fuel (cs ++ ']' :: rest) = some (ds, rest)

/-- Members are read from these characters up to the brace. -/
def MembersReadAs (cs : List Char) (ms : List (String × Document)) : Prop :=
  ∀ fuel rest, 2 * cs.length < fuel →
    readMembers fuel (cs ++ '}' :: rest) = some (ms.map fun m => (some m.1, m.2), rest)

/-- A value that is read to its end. -/
theorem ReadsAs.of_readValue {cs : List Char} {d : Document} (hcs : cs ≠ [])
    (h : ∀ fuel rest, 2 * cs.length ≤ fuel + 1 → Stops rest →
      readValue (fuel + 1) (cs ++ rest) = some (d, rest)) : ReadsAs cs d := by
  intro fuel rest hfuel hrest
  have hpos : 0 < cs.length := List.length_pos_iff.2 hcs
  obtain ⟨fuel, rfl⟩ := Nat.exists_eq_add_one_of_ne_zero (by omega : fuel ≠ 0)
  exact ⟨rest, h fuel rest hfuel hrest, rfl⟩

theorem ReadsAs.blanks {before cs after : List Char} {d : Document} (hbefore : Blank before)
    (h : ReadsAs cs d) (hafter : Blank after) : ReadsAs (before ++ cs ++ after) d := by
  intro fuel rest hfuel hrest
  simp only [List.length_append] at hfuel
  obtain ⟨left, hread, hleft⟩ := h fuel (after ++ rest) (by omega) (hrest.blanks hafter)
  refine ⟨left, ?_, hleft.trans (skipBlanks_append hafter rest)⟩
  rw [List.append_assoc, List.append_assoc, ← readValue_skipBlanks, skipBlanks_append hbefore,
    readValue_skipBlanks, hread]

theorem ItemsReadAs.last {cs : List Char} {d : Document} (h : ReadsAs cs d) :
    ItemsReadAs cs [d] := by
  intro fuel rest hfuel
  obtain ⟨fuel, rfl⟩ := Nat.exists_eq_add_one_of_ne_zero (by omega : fuel ≠ 0)
  obtain ⟨left, hread, hleft⟩ := h fuel (']' :: rest) (by omega) (.punctuation (by simp) rest)
  have hbracket : skipBlanks left = ']' :: rest := hleft
  rw [readItems, hread]
  simp only [Option.bind_eq_bind, Option.bind_some, hbracket]
  rfl

theorem ItemsReadAs.cons {cs cs' : List Char} {d : Document} {ds : List Document}
    (h : ReadsAs cs d) (hs : ItemsReadAs cs' ds) : ItemsReadAs (cs ++ ',' :: cs') (d :: ds) := by
  intro fuel rest hfuel
  simp only [List.length_append, List.length_cons] at hfuel
  obtain ⟨fuel, rfl⟩ := Nat.exists_eq_add_one_of_ne_zero (by omega : fuel ≠ 0)
  obtain ⟨left, hread, hleft⟩ :=
    h fuel (',' :: (cs' ++ ']' :: rest)) (by omega) (.punctuation (by simp) _)
  have hcomma : skipBlanks left = ',' :: (cs' ++ ']' :: rest) := hleft
  rw [List.append_assoc, List.cons_append, readItems, hread]
  simp only [Option.bind_eq_bind, Option.bind_some, hcomma, hs fuel rest (by omega)]
  rfl

theorem skipBlanks_name {before : List Char} (hbefore : Blank before) (name : String)
    (cs : List Char) :
    skipBlanks (before ++ writeText name ++ ':' :: cs) =
      '"' :: (name.toList.flatMap escapeChar ++ '"' :: ':' :: cs) := by
  rw [List.append_assoc, skipBlanks_append hbefore, writeText, List.cons_append, List.cons_append,
    List.append_assoc, List.singleton_append]
  rfl

theorem MembersReadAs.last {before cs : List Char} {d : Document} (hbefore : Blank before)
    (name : String) (h : ReadsAs cs d) :
    MembersReadAs (before ++ writeText name ++ ':' :: cs) [(name, d)] := by
  intro fuel rest hfuel
  simp only [List.length_append, List.length_cons] at hfuel
  obtain ⟨fuel, rfl⟩ := Nat.exists_eq_add_one_of_ne_zero (by omega : fuel ≠ 0)
  obtain ⟨left, hread, hleft⟩ := h fuel ('}' :: rest) (by omega) (.punctuation (by simp) rest)
  have hcolon : ∀ cs, skipBlanks (':' :: cs) = ':' :: cs := fun _ => rfl
  have hbrace : skipBlanks left = '}' :: rest := hleft
  rw [List.append_assoc, List.cons_append, readMembers]
  simp only [skipBlanks_name hbefore, readText_writeText, hcolon, hread, hbrace,
    Option.bind_eq_bind, Option.bind_some]
  rfl

theorem MembersReadAs.cons {before cs cs' : List Char} {d : Document}
    {ms : List (String × Document)} (hbefore : Blank before) (name : String) (h : ReadsAs cs d)
    (hs : MembersReadAs cs' ms) :
    MembersReadAs (before ++ writeText name ++ ':' :: cs ++ ',' :: cs') ((name, d) :: ms) := by
  intro fuel rest hfuel
  simp only [List.length_append, List.length_cons] at hfuel
  obtain ⟨fuel, rfl⟩ := Nat.exists_eq_add_one_of_ne_zero (by omega : fuel ≠ 0)
  obtain ⟨left, hread, hleft⟩ :=
    h fuel (',' :: (cs' ++ '}' :: rest)) (by omega) (.punctuation (by simp) _)
  have hcolon : ∀ cs, skipBlanks (':' :: cs) = ':' :: cs := fun _ => rfl
  have hcomma : skipBlanks left = ',' :: (cs' ++ '}' :: rest) := hleft
  have hassoc : before ++ writeText name ++ ':' :: cs ++ ',' :: cs' ++ '}' :: rest =
      before ++ writeText name ++ ':' :: (cs ++ ',' :: (cs' ++ '}' :: rest)) := by simp
  rw [hassoc, readMembers]
  simp only [skipBlanks_name hbefore, readText_writeText, hcolon, hread, hcomma,
    hs fuel rest (by omega), Option.bind_eq_bind, Option.bind_some]
  rfl

theorem ReadsAs.list {cs : List Char} {ds : List Document} (h : ItemsReadAs cs ds) :
    ReadsAs ('[' :: (cs ++ [']'])) (.list ds) := by
  refine .of_readValue (List.cons_ne_nil _ _) fun fuel rest hfuel _ => ?_
  simp only [List.length_cons, List.length_append, List.length_nil] at hfuel
  have hassoc : '[' :: (cs ++ [']']) ++ rest = '[' :: (cs ++ ']' :: rest) := by simp
  rw [hassoc, readValue_list (h fuel rest (by omega))]

theorem tableOf_named (ms : List (String × Document)) :
    tableOf (ms.map fun m => (some m.1, m.2)) = .table ms := by
  have hnamed : (ms.map fun m => (some m.1, m.2)).mapM named? = some ms := by
    induction ms with
    | nil => rfl
    | cons m ms ih =>
      rw [List.map_cons, List.mapM_cons, ih]
      rfl
  rw [tableOf, hnamed]

theorem ReadsAs.table {cs : List Char} {ms : List (String × Document)} (h : MembersReadAs cs ms) :
    ReadsAs ('{' :: (cs ++ ['}'])) (.table ms) := by
  refine .of_readValue (List.cons_ne_nil _ _) fun fuel rest hfuel _ => ?_
  simp only [List.length_cons, List.length_append, List.length_nil] at hfuel
  have hassoc : '{' :: (cs ++ ['}']) ++ rest = '{' :: (cs ++ '}' :: rest) := by simp
  rw [hassoc, readValue_table (h fuel rest (by omega)), tableOf_named]

theorem ReadsAs.noItems {blanks : List Char} (h : Blank blanks) :
    ReadsAs ('[' :: (blanks ++ [']'])) (.list []) := by
  refine .of_readValue (List.cons_ne_nil _ _) fun fuel rest _ _ => ?_
  rw [List.cons_append, List.append_assoc]
  exact readValue_noItems fuel (skipBlanks_append h _)

theorem ReadsAs.noMembers {blanks : List Char} (h : Blank blanks) :
    ReadsAs ('{' :: (blanks ++ ['}'])) (.table []) := by
  refine .of_readValue (List.cons_ne_nil _ _) fun fuel rest _ _ => ?_
  rw [List.cons_append, List.append_assoc]
  exact readValue_noMembers fuel (skipBlanks_append h _)

-- By induction on the grammar; each production has its lemma above.
mutual

/-- What spells a value is read as it. -/
theorem Spells.readsAs {cs : List Char} {d : Document} : Spells cs d → ReadsAs cs d
  | .null => .of_readValue (List.cons_ne_nil _ _) fun _ _ _ _ => rfl
  | .true => .of_readValue (List.cons_ne_nil _ _) fun _ _ _ _ => rfl
  | .false => .of_readValue (List.cons_ne_nil _ _) fun _ _ _ _ => rfl
  | .integer h => .of_readValue (ofInt_ne_nil _) fun fuel _ _ hrest => readValue_ofInt fuel h hrest
  | .text s => .of_readValue (List.cons_ne_nil _ _) fun fuel rest _ _ =>
      readValue_writeText fuel s rest
  | .noItems h => .noItems h
  | .list h => .list h.readsAs
  | .noMembers h => .noMembers h
  | .table h => .table h.readsAs
  | .blanks hbefore h hafter => .blanks hbefore h.readsAs hafter

/-- What spells items is read as them. -/
theorem SpellsItems.readsAs {cs : List Char} {ds : List Document} :
    SpellsItems cs ds → ItemsReadAs cs ds
  | .last h => .last h.readsAs
  | .cons h hs => .cons h.readsAs hs.readsAs

/-- What spells members is read as them. -/
theorem SpellsMembers.readsAs {cs : List Char} {ms : List (String × Document)} :
    SpellsMembers cs ms → MembersReadAs cs ms
  | .last hbefore name h => .last hbefore name h.readsAs
  | .cons hbefore name h hs => .cons hbefore name h.readsAs hs.readsAs

end

/-- The reader finds what a text spells. -/
theorem read_of_spells {cs : List Char} {d : Document} (h : Spells cs d) : read cs = some d := by
  obtain ⟨left, hread, hleft⟩ :=
    h.readsAs (2 * cs.length + 2) [] (Nat.le_add_right _ _) (fun _ h => nomatch h)
  rw [List.append_nil] at hread
  rw [read, hread]
  exact if_pos hleft

/-! ### Joining -/

theorem blank_nil : Blank [] := fun _ h => nomatch h

/-- Items are spelled when each is and commas join them. -/
theorem spellsItems_join (item : Document → List Char) {join : List Document → List Char}
    (hone : ∀ d, join [d] = item d)
    (hmore : ∀ d d' ds, join (d :: d' :: ds) = item d ++ ',' :: join (d' :: ds))
    {ds : List Document} (hds : ds ≠ []) (h : ∀ d ∈ ds, Spells (item d) d) :
    SpellsItems (join ds) ds := by
  induction ds with
  | nil => exact absurd rfl hds
  | cons d ds ih =>
    obtain ⟨hd, h⟩ := List.forall_mem_cons.1 h
    cases ds with
    | nil =>
      rw [hone]
      exact .last hd
    | cons d' ds =>
      rw [hmore]
      exact .cons hd (ih (List.cons_ne_nil _ _) h)

/-- Members are spelled when each value is, behind its name, and commas join them. -/
theorem spellsMembers_join {before : List Char} (hbefore : Blank before)
    (value : Document → List Char) {join : List (String × Document) → List Char}
    (hone : ∀ m, join [m] = before ++ writeText m.1 ++ ':' :: value m.2)
    (hmore : ∀ m m' ms, join (m :: m' :: ms) =
      before ++ writeText m.1 ++ ':' :: value m.2 ++ ',' :: join (m' :: ms))
    {ms : List (String × Document)} (hms : ms ≠ []) (h : ∀ m ∈ ms, Spells (value m.2) m.2) :
    SpellsMembers (join ms) ms := by
  induction ms with
  | nil => exact absurd rfl hms
  | cons m ms ih =>
    obtain ⟨hm, h⟩ := List.forall_mem_cons.1 h
    cases ms with
    | nil =>
      rw [hone]
      exact .last hbefore m.1 hm
    | cons m' ms =>
      rw [hmore]
      exact .cons hbefore m.1 hm (ih (List.cons_ne_nil _ _) h)

/-! ### Compact texts -/

/-- The compact form of a document spells it. -/
theorem spells_write {d : Document} (h : d.Exact) : Spells (write d) d := by
  induction h with
  | null => exact .null
  | bool b => cases b with
    | true => exact .true
    | false => exact .false
  | integer h => exact .integer h
  | text s => exact .text s
  | @list items _ ih =>
    by_cases hitems : items = []
    · subst hitems
      exact .noItems blank_nil
    · exact .list (spellsItems_join write (fun _ => rfl) (fun _ _ _ => rfl) hitems ih)
  | @table members _ ih =>
    by_cases hmembers : members = []
    · subst hmembers
      exact .noMembers blank_nil
    · exact .table
        (spellsMembers_join blank_nil write (fun _ => rfl) (fun _ _ _ => rfl) hmembers ih)

/-! ### Pretty texts -/

theorem blank_newline (level : Nat) : Blank (newline level) := by
  intro c hc
  rcases List.mem_cons.1 hc with rfl | hc
  · rfl
  · rw [List.eq_of_mem_replicate hc]
    rfl

theorem Spells.indented {before cs : List Char} {d : Document} (hbefore : Blank before)
    (h : Spells cs d) : Spells (before ++ cs) d := by
  rw [← List.append_nil (before ++ cs)]
  exact .blanks hbefore h blank_nil

theorem SpellsItems.append_blanks {cs after : List Char} {ds : List Document}
    (hafter : Blank after) : SpellsItems cs ds → SpellsItems (cs ++ after) ds
  | .last h => .last (.blanks blank_nil h hafter)
  | .cons h hs => by
    rw [List.append_assoc, List.cons_append]
    exact .cons h (hs.append_blanks hafter)

theorem SpellsMembers.append_blanks {cs after : List Char} {ms : List (String × Document)}
    (hafter : Blank after) : SpellsMembers cs ms → SpellsMembers (cs ++ after) ms
  | .last hbefore name h => by
    rw [List.append_assoc, List.cons_append]
    exact .last hbefore name (.blanks blank_nil h hafter)
  | .cons hbefore name h hs => by
    rw [List.append_assoc, List.cons_append]
    exact .cons hbefore name h (hs.append_blanks hafter)

theorem spellsItems_prettyItems {level : Nat} {ds : List Document} (hds : ds ≠ [])
    (h : ∀ d ∈ ds, Spells (writePretty level d) d) : SpellsItems (prettyItems level ds) ds :=
  spellsItems_join (fun d => newline level ++ writePretty level d) (fun _ => rfl)
    (fun _ _ _ => rfl) hds fun d hd => (h d hd).indented (blank_newline level)

theorem spellsMembers_prettyMembers {level : Nat} {ms : List (String × Document)} (hms : ms ≠ [])
    (h : ∀ m ∈ ms, Spells (writePretty level m.2) m.2) :
    SpellsMembers (prettyMembers level ms) ms := by
  have hblank : Blank [' '] := fun c hc => by
    obtain rfl := List.mem_singleton.1 hc
    rfl
  -- The blank behind a colon belongs to the value.
  have hline : ∀ m : String × Document,
      newline level ++ writeText m.1 ++ [':', ' '] ++ writePretty level m.2 =
        newline level ++ writeText m.1 ++ ':' :: ([' '] ++ writePretty level m.2) :=
    fun _ => List.append_assoc ..
  refine spellsMembers_join (blank_newline level) (fun d => [' '] ++ writePretty level d) hline
    (fun m m' ms => ?_) hms fun m hm => (h m hm).indented hblank
  rw [← hline]
  rfl

/-- The pretty form of a document spells it, at every level. -/
theorem spells_writePretty {d : Document} (h : d.Exact) (level : Nat) :
    Spells (writePretty level d) d := by
  induction h generalizing level with
  | null => exact .null
  | bool b => exact spells_write (.bool b)
  | integer h => exact .integer h
  | text s => exact .text s
  | @list items _ ih =>
    cases items with
    | nil => exact .noItems blank_nil
    | cons d ds =>
      have hitems : SpellsItems (prettyItems (level + 1) (d :: ds)) (d :: ds) :=
        spellsItems_prettyItems (List.cons_ne_nil _ _) fun x hx => ih x hx (level + 1)
      -- The line of the bracket is blank before it.
      exact .list (hitems.append_blanks (blank_newline level))
  | @table members _ ih =>
    cases members with
    | nil => exact .noMembers blank_nil
    | cons m ms =>
      have hmembers : SpellsMembers (prettyMembers (level + 1) (m :: ms)) (m :: ms) :=
        spellsMembers_prettyMembers (List.cons_ne_nil _ _) fun x hx => ih x hx (level + 1)
      exact .table (hmembers.append_blanks (blank_newline level))

end Json

/-- A text of JSON that spells a document denotes it. -/
theorem ofJson?_of_spells {s : String} {d : Document} (h : Json.Spells s.toList d) :
    ofJson? s = some d :=
  Json.read_of_spells h

theorem spells_compact {d : Document} (h : d.Exact) : Json.Spells d.compact.toList d := by
  rw [compact, String.toList_ofList]
  exact Json.spells_write h

theorem spells_pretty {d : Document} (h : d.Exact) : Json.Spells d.pretty.toList d := by
  rw [pretty, String.toList_ofList]
  exact Json.spells_writePretty h 0

/-- A document is read back from its compact form. -/
theorem ofJson?_compact {d : Document} (h : d.Exact) : ofJson? d.compact = some d :=
  ofJson?_of_spells (spells_compact h)

/-- A document is read back from its pretty form. -/
theorem ofJson?_pretty {d : Document} (h : d.Exact) : ofJson? d.pretty = some d :=
  ofJson?_of_spells (spells_pretty h)

/-! ### Lists of texts -/

theorem exact_ofTexts (ss : List String) : (ofTexts ss).Exact := by
  refine .list fun d hd => ?_
  obtain ⟨s, -, rfl⟩ := List.mem_map.1 hd
  exact .text s

theorem texts?_ofTexts (ss : List String) : texts? (ofTexts ss) = some ss := by
  show (ss.map Document.text).mapM text? = some ss
  induction ss with
  | nil => rfl
  | cons s ss ih =>
    rw [List.map_cons, List.mapM_cons, ih]
    rfl

end VolumeOverlay.Document
