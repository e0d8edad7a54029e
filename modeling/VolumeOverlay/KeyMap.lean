import VolumeOverlay.Text.Cut

/-!
# Maps in key order

A finite map from texts, held as its entries in strictly ascending key order. Two maps with the same
lookups are therefore equal. Stored keys, label maps and inventories are such maps.

The keys that begin with a given text form a contiguous run, which starts at that text; listing a
prefix walks the run and stops at the first key outside it.

## Main definitions

* `KeyMap β`: entries in strictly ascending key order
* `KeyMap.find?`, `insert`, `erase`, `contains`: one key
* `KeyMap.ofList`: the entries of a list, of which a later one wins
* `KeyMap.startingWith p`, `eraseStartingWith p`: the keys that begin with `p`

## Main results

* `find?_insert`, `find?_erase`: what an operation does to a lookup
* `ext_find?`: a map is its lookups
-/

namespace VolumeOverlay

/-- A finite map from texts, as its entries in strictly ascending key order. -/
structure KeyMap (β : Type) where
  entries : List (String × β)
  ascending : entries.Pairwise fun a b => a.1 < b.1
  deriving DecidableEq

namespace KeyMap

variable {β γ : Type}

/-- The map without entries. -/
def empty : KeyMap β := ⟨[], .nil⟩

instance : EmptyCollection (KeyMap β) := ⟨empty⟩
instance : Inhabited (KeyMap β) := ⟨empty⟩

/-- The entries with `k ↦ v` put in its place. -/
def insertEntry (k : String) (v : β) : List (String × β) → List (String × β)
  | [] => [(k, v)]
  | e :: es =>
    if k < e.1 then (k, v) :: e :: es
    else if k = e.1 then (k, v) :: es
    else e :: insertEntry k v es

theorem mem_insertEntry {k : String} {v : β} {es : List (String × β)} {x : String × β}
    (h : x ∈ insertEntry k v es) : x = (k, v) ∨ x ∈ es := by
  induction es with
  | nil => simpa [insertEntry] using h
  | cons e es ih =>
    unfold insertEntry at h
    split at h
    · simpa using h
    · split at h
      · rcases List.mem_cons.1 h with h | h
        · exact .inl h
        · exact .inr (List.mem_cons_of_mem _ h)
      · rcases List.mem_cons.1 h with h | h
        · exact .inr (h ▸ List.mem_cons_self)
        · exact (ih h).imp_right (List.mem_cons_of_mem _)

theorem ascending_insertEntry {k : String} {v : β} {es : List (String × β)}
    (h : es.Pairwise fun a b => a.1 < b.1) :
    (insertEntry k v es).Pairwise fun a b => a.1 < b.1 := by
  induction es with
  | nil => simp [insertEntry]
  | cons e es ih =>
    obtain ⟨he, hes⟩ := List.pairwise_cons.1 h
    unfold insertEntry
    split
    · rename_i hk
      refine List.pairwise_cons.2 ⟨fun x hx => ?_, h⟩
      rcases List.mem_cons.1 hx with rfl | hx
      · exact hk
      · exact String.lt_trans hk (he x hx)
    · split
      · rename_i hk
        subst hk
        exact List.pairwise_cons.2 ⟨he, hes⟩
      · rename_i hn hk
        refine List.pairwise_cons.2 ⟨fun x hx => ?_, ih hes⟩
        rcases mem_insertEntry hx with rfl | hx
        · exact Decidable.byContradiction fun hlt =>
            hk (String.le_antisymm (String.not_lt.1 hlt) (String.not_lt.1 hn))
        · exact he x hx

/-- The map with `v` at `k`. -/
def insert (m : KeyMap β) (k : String) (v : β) : KeyMap β :=
  ⟨insertEntry k v m.entries, ascending_insertEntry m.ascending⟩

/-- The value at a key. -/
def find? (m : KeyMap β) (k : String) : Option β :=
  (m.entries.find? fun e => e.1 == k).map (·.2)

/-- The entries that pass a test. -/
def filter (p : String × β → Bool) (m : KeyMap β) : KeyMap β :=
  ⟨m.entries.filter p, m.ascending.filter p⟩

/-- The map without `k`. -/
def erase (m : KeyMap β) (k : String) : KeyMap β :=
  m.filter fun e => e.1 != k

/-- Whether a key has a value. -/
def contains (m : KeyMap β) (k : String) : Bool :=
  (m.find? k).isSome

/-- The entries in ascending key order. -/
def toList (m : KeyMap β) : List (String × β) := m.entries

/-- The keys in ascending order. -/
def keys (m : KeyMap β) : List String := m.entries.map (·.1)

/-- The values in ascending order of their keys. -/
def values (m : KeyMap β) : List β := m.entries.map (·.2)

/-- The number of keys. -/
def size (m : KeyMap β) : Nat := m.entries.length

/-- Whether there is no key. -/
def isEmpty (m : KeyMap β) : Bool := m.entries.isEmpty

/-- The map with `v` at `k`, unless there is a value already. -/
def insertNew (m : KeyMap β) (k : String) (v : β) : KeyMap β :=
  if m.contains k then m else m.insert k v

/-- `m` with further entries, which win over those it has; of two with one key the later wins. -/
def insertMany (m : KeyMap β) (es : List (String × β)) : KeyMap β :=
  es.foldl (fun m e => m.insert e.1 e.2) m

/-- The entries of a list; of two with one key the later wins. -/
def ofList (es : List (String × β)) : KeyMap β :=
  empty.insertMany es

/-- The map without the keys of a list. -/
def eraseMany (m : KeyMap β) (ks : List String) : KeyMap β :=
  ks.foldl erase m

/-- The entries of `m`, and those of `other` under the keys that `m` lacks. -/
def orElse (m other : KeyMap β) : KeyMap β :=
  other.insertMany m.entries

/-- The entries whose key begins with `p`: the walk starts at `p` and ends at the first key that
does not begin with it. -/
def startingWith (m : KeyMap β) (p : String) : List (String × β) :=
  (m.entries.dropWhile fun e => e.1 < p).takeWhile fun e => Text.hasPrefix p e.1

/-- The map without the keys that begin with `p`. -/
def eraseStartingWith (m : KeyMap β) (p : String) : KeyMap β :=
  m.eraseMany ((m.startingWith p).map (·.1))

/-! ### Lookups -/

@[simp] theorem find?_empty (k : String) : (empty : KeyMap β).find? k = none := rfl

theorem find?_eq_some_iff {m : KeyMap β} {k : String} {v : β} :
    m.find? k = some v ↔ (k, v) ∈ m.entries := by
  obtain ⟨es, hs⟩ := m
  simp only [find?, Option.map_eq_some_iff]
  induction es with
  | nil => simp
  | cons e es ih =>
    obtain ⟨he, hes⟩ := List.pairwise_cons.1 hs
    by_cases hk : e.1 = k
    · subst hk
      simp only [List.find?_cons, beq_self_eq_true, Option.some.injEq, exists_eq_left',
        List.mem_cons]
      constructor
      · rintro rfl; exact .inl rfl
      · rintro (h | h)
        · rw [← h]
        · exact absurd (he _ h) (String.lt_irrefl _)
    · have hb : (e.1 == k) = false := by simpa using hk
      simp only [List.find?_cons, hb, List.mem_cons]
      rw [ih hes]
      constructor
      · exact .inr
      · rintro (h | h)
        · exact absurd (congrArg Prod.fst h).symm hk
        · exact h

theorem find?_insert (m : KeyMap β) (k : String) (v : β) (k' : String) :
    (m.insert k v).find? k' = if k' = k then some v else m.find? k' := by
  obtain ⟨es, hs⟩ := m
  simp only [find?, insert]
  induction es with
  | nil =>
    by_cases h : k' = k
    · simp [insertEntry, h]
    · simp [insertEntry, h, eq_comm (a := k)]
  | cons e es ih =>
    obtain ⟨he, hes⟩ := List.pairwise_cons.1 hs
    unfold insertEntry
    by_cases h : k' = k
    · subst h
      split
      · simp
      · split
        · simp
        · rename_i h1 h2
          have hb : (e.1 == k') = false := by simpa using fun h => h2 h.symm
          simpa [List.find?_cons, hb] using ih hes
    · have hb : (k == k') = false := by simpa using fun e => h e.symm
      split
      · simp [List.find?_cons, hb]
      · split
        · rename_i h1 h2
          have hb' : (e.1 == k') = false := by simpa [← h2] using fun e => h e.symm
          simp [hb, hb']
        · simp only [List.find?_cons]
          split
          · simp
          · simpa [h] using ih hes

theorem find?_filter (m : KeyMap β) (p : String → Bool) (k : String) :
    (m.filter fun e => p e.1).find? k = if p k then m.find? k else none := by
  apply Option.ext
  intro v
  rw [find?_eq_some_iff]
  by_cases h : p k
  · simp [filter, h, find?_eq_some_iff]
  · simp [filter, h]

theorem find?_erase (m : KeyMap β) (k k' : String) :
    (m.erase k).find? k' = if k' = k then none else m.find? k' := by
  rw [erase, find?_filter m (· != k)]
  by_cases h : k' = k <;> simp [h]

/-- A map is its lookups. -/
theorem ext_find? {m n : KeyMap β} (h : ∀ k, m.find? k = n.find? k) : m = n := by
  obtain ⟨es, hs⟩ := m
  obtain ⟨fs, ht⟩ := n
  have hm : ∀ x, x ∈ es ↔ x ∈ fs := fun x => by
    rw [← Prod.eta x, ← find?_eq_some_iff (m := ⟨es, hs⟩), ← find?_eq_some_iff (m := ⟨fs, ht⟩), h]
  congr
  clear h
  induction es generalizing fs with
  | nil =>
    cases fs with
    | nil => rfl
    | cons f fs => exact absurd ((hm f).2 List.mem_cons_self) List.not_mem_nil
  | cons e es ih =>
    cases fs with
    | nil => exact absurd ((hm e).1 List.mem_cons_self) List.not_mem_nil
    | cons f fs =>
      obtain ⟨he, hes⟩ := List.pairwise_cons.1 hs
      obtain ⟨hf, hfs⟩ := List.pairwise_cons.1 ht
      have hef : e = f := by
        rcases List.mem_cons.1 ((hm e).1 List.mem_cons_self) with h | h
        · exact h
        · rcases List.mem_cons.1 ((hm f).2 List.mem_cons_self) with h' | h'
          · exact h'.symm
          · exact absurd (String.lt_trans (hf e h) (he f h')) (String.lt_irrefl _)
      subst hef
      congr 1
      refine ih hes fs hfs fun x => ?_
      have hx := hm x
      simp only [List.mem_cons] at hx
      constructor
      · intro h
        rcases hx.1 (.inr h) with rfl | h'
        · exact absurd (he _ h) (String.lt_irrefl _)
        · exact h'
      · intro h
        rcases hx.2 (.inr h) with rfl | h'
        · exact absurd (hf _ h) (String.lt_irrefl _)
        · exact h'

end KeyMap

end VolumeOverlay
