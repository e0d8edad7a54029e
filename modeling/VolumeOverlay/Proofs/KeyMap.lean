import VolumeOverlay.KeyMap
import VolumeOverlay.Proofs.Text.Prefix

/-!
# Lookups in maps in key order

What the operations on several keys at once do to a lookup. Inserting or erasing a list of keys is
read off the list; listing a prefix finds every key that begins with it, because such keys form one
run of the order, which begins at the prefix itself.

## Main results

* `lookup_eq_some_iff_mem`, `lookup_eq_of_perm`: lookups in a list of entries with different keys
* `find?_insertMany_of_nodup`, `find?_eraseMany`, `find?_orElse`: lookups after a list of changes
* `foldl_insertNew_of_perm`: missing entries may be added one by one
* `ofList_toList`, `ofList_eq_of_mem_iff`: a map is rebuilt from its entries
* `startingWith_eq_filter`: the walk over a prefix meets exactly the keys that begin with it
* `filterMap_startingWith_congr`: a listing of which some keys count is decided by their lookups
* `find?_eraseStartingWith`: erasing a prefix removes these keys and no others
-/

namespace VolumeOverlay.KeyMap

open Text (hasPrefix)

variable {α β : Type}

/-! ### Lists of entries -/

/-- In a list of entries with different keys, the entry with a key is the one that is found. -/
theorem lookup_eq_some_iff_mem {es : List (String × β)} (hes : (es.map (·.1)).Nodup) {k : String}
    {v : β} : es.lookup k = some v ↔ (k, v) ∈ es := by
  induction es with
  | nil => simp
  | cons e es ih =>
    obtain ⟨hnew, hes⟩ := List.nodup_cons.1 hes
    rw [List.lookup_cons, List.mem_cons]
    by_cases hk : k = e.1
    · subst hk
      -- The key does not come again.
      have hrest : (e.1, v) ∉ es := fun hmem => hnew (List.mem_map.2 ⟨_, hmem, rfl⟩)
      rw [beq_self_eq_true]
      simp [hrest, Prod.ext_iff, eq_comm (a := v)]
    · have hbeq : (k == e.1) = false := by simpa using hk
      rw [hbeq]
      simp [ih hes, Prod.ext_iff, hk]

/-- The order of entries with different keys does not matter. -/
theorem lookup_eq_of_perm {es fs : List (String × β)} (h : es.Perm fs)
    (hfs : (fs.map (·.1)).Nodup) (k : String) : es.lookup k = fs.lookup k := by
  refine Option.ext fun v => ?_
  rw [lookup_eq_some_iff_mem hfs, lookup_eq_some_iff_mem ((h.map _).nodup_iff.2 hfs), h.mem_iff]

/-- What is left by a test on keys has the same lookups under the keys that pass it. -/
theorem lookup_filter_of_pos {p : String → Bool} {k : String} (hk : p k = true)
    (es : List (String × β)) : (es.filter fun e => p e.1).lookup k = es.lookup k := by
  induction es with
  | nil => rfl
  | cons e es ih =>
    rw [List.filter_cons]
    by_cases he : p e.1 = true
    · rw [if_pos he, List.lookup_cons, List.lookup_cons, ih]
    · have hne : (k == e.1) = false := by
        rw [beq_eq_false_iff_ne]
        rintro rfl
        exact he hk
      rw [if_neg he, List.lookup_cons, hne, ih]

/-! ### Single keys -/

theorem contains_iff {m : KeyMap β} {k : String} : m.contains k ↔ ∃ v, m.find? k = some v := by
  simp only [contains, Option.isSome_iff_exists]

theorem contains_eq_of_find?_eq {m n : KeyMap β} {k : String} (h : m.find? k = n.find? k) :
    m.contains k = n.contains k := by
  simp only [contains, h]

theorem mem_keys {m : KeyMap β} {k : String} : k ∈ m.keys ↔ ∃ v, m.find? k = some v := by
  simp only [keys, List.mem_map, find?_eq_some_iff, Prod.exists, exists_and_right, exists_eq_right]

theorem nodup_keys (m : KeyMap β) : (m.entries.map (·.1)).Nodup := by
  rw [List.Nodup, List.pairwise_map]
  refine m.ascending.imp fun {a b} h e => ?_
  rw [e] at h
  exact String.lt_irrefl _ h

@[simp] theorem find?_insert_self (m : KeyMap β) (k : String) (v : β) :
    (m.insert k v).find? k = some v := by
  rw [find?_insert, if_pos rfl]

theorem find?_insert_of_ne (m : KeyMap β) {k k' : String} (v : β) (h : k' ≠ k) :
    (m.insert k v).find? k' = m.find? k' := by
  rw [find?_insert, if_neg h]

theorem find?_erase_of_ne (m : KeyMap β) {k k' : String} (h : k' ≠ k) :
    (m.erase k).find? k' = m.find? k' := by
  rw [find?_erase, if_neg h]

theorem insert_of_find? {m : KeyMap β} {k : String} {v : β} (h : m.find? k = some v) :
    m.insert k v = m :=
  ext_find? fun k' => by
    rw [find?_insert]
    split
    · rename_i hk
      rw [hk, h]
    · rfl

theorem insert_insert (m : KeyMap β) (k : String) (v w : β) :
    (m.insert k v).insert k w = m.insert k w :=
  ext_find? fun k' => by
    rw [find?_insert, find?_insert, find?_insert]
    split <;> rfl

/-! ### Lists of keys -/

theorem insertMany_cons (m : KeyMap β) (e : String × β) (es : List (String × β)) :
    m.insertMany (e :: es) = (m.insert e.1 e.2).insertMany es := rfl

theorem find?_insertMany_of_notMem (m : KeyMap β) {es : List (String × β)} {k : String}
    (h : k ∉ es.map (·.1)) : (m.insertMany es).find? k = m.find? k := by
  induction es generalizing m with
  | nil => rfl
  | cons e es ih =>
    rw [List.map_cons, List.mem_cons, not_or] at h
    rw [insertMany_cons, ih _ h.2, find?_insert_of_ne _ _ h.1]

theorem find?_insertMany_of_mem (m : KeyMap β) {es : List (String × β)}
    (hes : (es.map (·.1)).Nodup) {k : String} {v : β} (h : (k, v) ∈ es) :
    (m.insertMany es).find? k = some v := by
  induction es generalizing m with
  | nil => exact absurd h List.not_mem_nil
  | cons e es ih =>
    rw [List.map_cons, List.nodup_cons] at hes
    rw [insertMany_cons]
    rcases List.mem_cons.1 h with rfl | h
    · -- The key does not come again, so the first entry is not overwritten.
      rw [find?_insertMany_of_notMem _ hes.1, find?_insert_self]
    · exact ih _ hes.2 h

/-- Of entries with different keys, a lookup finds the one with its key. -/
theorem find?_insertMany_of_nodup (m : KeyMap β) {es : List (String × β)}
    (hes : (es.map (·.1)).Nodup) (k : String) :
    (m.insertMany es).find? k = ((es.find? fun e => e.1 == k).map (·.2)).or (m.find? k) := by
  cases h : es.find? fun e => e.1 == k with
  | none =>
    rw [find?_insertMany_of_notMem]
    · rfl
    · simp only [List.find?_eq_none, beq_iff_eq] at h
      simpa using fun v hv => h (k, v) hv rfl
  | some e =>
    have hk : e.1 = k := by simpa using List.find?_some h
    subst hk
    rw [find?_insertMany_of_mem _ hes (List.mem_of_find?_eq_some h)]
    rfl

theorem find?_insertMany_entries (m n : KeyMap β) (k : String) :
    (m.insertMany n.entries).find? k = (n.find? k).or (m.find? k) :=
  find?_insertMany_of_nodup m n.nodup_keys k

theorem find?_ofList_of_nodup {es : List (String × β)} (hes : (es.map (·.1)).Nodup) (k : String) :
    (ofList es).find? k = (es.find? fun e => e.1 == k).map (·.2) := by
  rw [ofList, find?_insertMany_of_nodup _ hes, find?_empty, Option.or_none]

/-- A map is rebuilt from its entries. -/
theorem ofList_toList (m : KeyMap β) : ofList m.toList = m :=
  ext_find? fun k => find?_ofList_of_nodup m.nodup_keys k

theorem contains_insertMany_iff {m : KeyMap β} {es : List (String × β)} {k : String} :
    (m.insertMany es).contains k ↔ k ∈ es.map (·.1) ∨ m.contains k := by
  induction es generalizing m with
  | nil => simp [insertMany]
  | cons e es ih =>
    rw [insertMany_cons, ih, List.map_cons, List.mem_cons, contains_iff (m := m.insert e.1 e.2),
      find?_insert]
    by_cases h : k = e.1
    · simp [h]
    · simp [h, contains_iff]

theorem contains_ofList_iff {es : List (String × β)} {k : String} :
    (ofList es).contains k ↔ k ∈ es.map (·.1) := by
  rw [ofList, contains_insertMany_iff]
  exact or_iff_left (by simp [contains])

theorem mem_or_find?_of_insertMany {m : KeyMap β} {es : List (String × β)} {k : String} {v : β}
    (h : (m.insertMany es).find? k = some v) : (k, v) ∈ es ∨ m.find? k = some v := by
  induction es generalizing m with
  | nil => exact .inr h
  | cons e es ih =>
    rw [insertMany_cons] at h
    rcases ih h with h | h
    · exact .inl (List.mem_cons_of_mem _ h)
    · rw [find?_insert] at h
      split at h
      · rename_i hk
        cases h
        exact .inl (hk ▸ List.mem_cons_self)
      · exact .inr h

/-- A list that has the entries of a map, in any order and as often as it likes, makes that map. -/
theorem ofList_eq_of_mem_iff {m : KeyMap β} {es : List (String × β)}
    (h : ∀ k v, (k, v) ∈ es ↔ m.find? k = some v) : ofList es = m := by
  -- A key may be listed often, but each time with the value that the map has for it.
  have hfound : ∀ k v, (ofList es).find? k = some v → m.find? k = some v := fun k v hv =>
    (mem_or_find?_of_insertMany hv).elim (h k v).1 fun hempty => nomatch hempty
  refine ext_find? fun k => Option.ext fun v => ⟨hfound k v, fun hv => ?_⟩
  have hmem : k ∈ es.map (·.1) := List.mem_map.2 ⟨(k, v), (h k v).2 hv, rfl⟩
  obtain ⟨w, hw⟩ := contains_iff.1 (contains_ofList_iff.2 hmem)
  rw [hw, ← hv, hfound k w hw]

theorem find?_eraseMany (m : KeyMap β) (ks : List String) (k : String) :
    (m.eraseMany ks).find? k = if k ∈ ks then none else m.find? k := by
  induction ks generalizing m with
  | nil => simp [eraseMany]
  | cons k' ks ih =>
    have hstep : m.eraseMany (k' :: ks) = (m.erase k').eraseMany ks := rfl
    rw [hstep, ih, find?_erase]
    by_cases h : k = k' <;> simp [h]

theorem eraseMany_eq_filter (m : KeyMap β) (ks : List String) :
    m.eraseMany ks = m.filter fun e => e.1 ∉ ks :=
  ext_find? fun k => by
    rw [find?_eraseMany, find?_filter m fun k => k ∉ ks]
    by_cases h : k ∈ ks <;> simp [h]

theorem find?_orElse (m other : KeyMap β) (k : String) :
    (m.orElse other).find? k = (m.find? k).or (other.find? k) :=
  find?_insertMany_entries other m k

@[simp] theorem orElse_empty (m : KeyMap β) : m.orElse ∅ = m :=
  ext_find? fun k => by
    rw [find?_orElse]
    exact Option.or_none

/-- A map that has no further keys adds nothing. -/
theorem orElse_eq_self {m other : KeyMap β} (h : ∀ k, other.contains k → m.contains k) :
    m.orElse other = m := by
  apply ext_find?
  intro k
  rw [find?_orElse]
  cases hother : other.find? k with
  | none => exact Option.or_none
  | some w =>
    obtain ⟨v, hv⟩ := contains_iff.1 (h k (contains_iff.2 ⟨w, hother⟩))
    rw [hv]
    rfl

theorem contains_orElse_iff {m other : KeyMap β} {k : String} :
    (m.orElse other).contains k ↔ m.contains k ∨ other.contains k := by
  simp only [contains, find?_orElse]
  cases m.find? k <;> simp

theorem mem_keys_of_mem_filter {m : KeyMap β} {p : String → Bool} {k : String}
    (h : k ∈ (m.filter fun e => p e.1).keys) : k ∈ m.keys := by
  obtain ⟨v, hv⟩ := mem_keys.1 h
  rw [find?_filter m p] at hv
  split at hv
  · exact mem_keys.2 ⟨v, hv⟩
  · cases hv

theorem mem_keys_orElse_iff {m other : KeyMap β} {k : String} :
    k ∈ (m.orElse other).keys ↔ k ∈ m.keys ∨ k ∈ other.keys := by
  simp only [mem_keys, find?_orElse]
  cases m.find? k <;> simp

theorem find?_insertNew (m : KeyMap β) (k : String) (v : β) (k' : String) :
    (m.insertNew k v).find? k' = (m.find? k').or (if k' = k then some v else none) := by
  unfold insertNew
  by_cases hk : k' = k
  · subst hk
    cases hfind : m.find? k' <;> simp [contains, hfind]
  · rw [if_neg hk, Option.or_none]
    split
    · rfl
    · exact find?_insert_of_ne _ _ hk

theorem find?_foldl_insertNew (m : KeyMap β) (es : List (String × β)) (k : String) :
    (es.foldl (fun m e => m.insertNew e.1 e.2) m).find? k =
      (m.find? k).or ((es.find? fun e => e.1 == k).map (·.2)) := by
  induction es generalizing m with
  | nil => simp
  | cons e es ih =>
    rw [List.foldl_cons, ih, find?_insertNew, Option.or_assoc]
    by_cases hk : k = e.1
    · simp [hk]
    · simp [hk, Ne.symm hk]

/-- Missing entries may be added one by one, in any order. -/
theorem foldl_insertNew_of_perm (m : KeyMap β) {other : KeyMap β} {es : List (String × β)}
    (h : es.Perm other.toList) : es.foldl (fun m e => m.insertNew e.1 e.2) m = m.orElse other := by
  have hnodup : (es.map (·.1)).Nodup := (h.map _).nodup_iff.2 other.nodup_keys
  have hother : ofList es = other := ofList_eq_of_mem_iff fun k v => by
    rw [h.mem_iff, find?_eq_some_iff]
    rfl
  apply ext_find?
  intro k
  rw [find?_foldl_insertNew, find?_orElse, ← find?_ofList_of_nodup hnodup, hother]

/-! ### Prefixes -/

/-- In ascending entries that reach `p`, the keys that begin with it come first. -/
theorem takeWhile_hasPrefix {p : String} {es : List (String × β)}
    (hes : es.Pairwise fun a b => a.1 < b.1) (hp : ∀ e ∈ es, ¬ e.1 < p) :
    (es.takeWhile fun e => hasPrefix p e.1) = es.filter fun e => hasPrefix p e.1 := by
  induction es with
  | nil => rfl
  | cons e es ih =>
    obtain ⟨he, hes⟩ := List.pairwise_cons.1 hes
    by_cases h : hasPrefix p e.1
    · simp only [List.takeWhile_cons, List.filter_cons, h, if_true]
      rw [ih hes fun x hx => hp x (List.mem_cons_of_mem _ hx)]
    · -- The walk stops here, and no later key begins with the prefix either.
      simp only [List.takeWhile_cons, List.filter_cons, h]
      rw [if_neg Bool.false_ne_true, if_neg Bool.false_ne_true, eq_comm, List.filter_eq_nil_iff]
      intro x hx hpx
      exact Text.not_prefix_of_lt (hp e List.mem_cons_self) (fun hpe => h (Text.hasPrefix_iff.2 hpe))
        (he x hx) (Text.hasPrefix_iff.1 hpx)

/-- The walk over a prefix meets exactly the keys that begin with it. -/
theorem startingWith_eq_filter (m : KeyMap β) (p : String) :
    m.startingWith p = m.entries.filter fun e => hasPrefix p e.1 := by
  obtain ⟨es, hes⟩ := m
  simp only [startingWith]
  induction es with
  | nil => rfl
  | cons e es ih =>
    obtain ⟨he, hes'⟩ := List.pairwise_cons.1 hes
    by_cases h : e.1 < p
    · -- The walk skips what stands before the prefix, and that does not begin with it.
      have hpe : ¬ hasPrefix p e.1 := fun hpe => Text.not_lt_of_hasPrefix hpe h
      rw [List.dropWhile_cons_of_pos (by simpa using h), ih hes']
      simp only [List.filter_cons, hpe]
      rfl
    · -- From here on no key stands before the prefix.
      rw [List.dropWhile_cons_of_neg (by simpa using h)]
      refine takeWhile_hasPrefix hes fun x hx => ?_
      rcases List.mem_cons.1 hx with rfl | hx
      · exact h
      · exact fun hxp => h (String.lt_trans (he x hx) hxp)

theorem mem_startingWith {m : KeyMap β} {p k : String} {v : β} :
    (k, v) ∈ m.startingWith p ↔ m.find? k = some v ∧ hasPrefix p k := by
  rw [startingWith_eq_filter, List.mem_filter, find?_eq_some_iff]

/-- The keys that a walk over a prefix meets. -/
theorem mem_map_startingWith {m : KeyMap β} {p k : String} :
    k ∈ (m.startingWith p).map (·.1) ↔ m.contains k ∧ hasPrefix p k := by
  simp only [List.mem_map, Prod.exists, mem_startingWith, contains_iff, exists_and_right,
    exists_eq_right]

/-- A listing is decided by the lookups under its prefix. -/
theorem startingWith_congr {m n : KeyMap β} {p : String}
    (h : ∀ k, hasPrefix p k → m.find? k = n.find? k) : m.startingWith p = n.startingWith p := by
  have hmap : m.filter (fun e => hasPrefix p e.1) = n.filter fun e => hasPrefix p e.1 :=
    ext_find? fun k => by
      rw [find?_filter _ (hasPrefix p), find?_filter _ (hasPrefix p)]
      split
      · exact h k ‹_›
      · rfl
  rw [startingWith_eq_filter, startingWith_eq_filter]
  exact congrArg entries hmap

/-- What is picked from a listing by its keys is decided by the lookups of the keys that are picked. -/
theorem filterMap_startingWith_congr {m n : KeyMap β} {p : String} {pick : String → Option α}
    (h : ∀ k, hasPrefix p k → (pick k).isSome → m.find? k = n.find? k) :
    (m.startingWith p).filterMap (fun e => pick e.1) =
      (n.startingWith p).filterMap fun e => pick e.1 := by
  -- Both sides are read off the entries whose keys are picked, and these entries are the same.
  have hmap : m.filter (fun e => hasPrefix p e.1 && (pick e.1).isSome) =
      n.filter fun e => hasPrefix p e.1 && (pick e.1).isSome :=
    ext_find? fun k => by
      rw [find?_filter _ fun k => hasPrefix p k && (pick k).isSome,
        find?_filter _ fun k => hasPrefix p k && (pick k).isSome]
      split
      · rename_i hk
        obtain ⟨hp, hpick⟩ := Bool.and_eq_true_iff.1 hk
        exact h k hp hpick
      · rfl
  have hpicked : ∀ m : KeyMap β, (m.startingWith p).filterMap (fun e => pick e.1) =
      (m.filter fun e => hasPrefix p e.1 && (pick e.1).isSome).entries.filterMap
        fun e => pick e.1 := by
    intro m
    rw [startingWith_eq_filter, filter, List.filterMap_filter, List.filterMap_filter]
    congr 1
    funext e
    cases hasPrefix p e.1 <;> cases pick e.1 <;> rfl
  rw [hpicked m, hpicked n, hmap]

/-- Erasing a prefix removes the keys that begin with it and no others. -/
theorem find?_eraseStartingWith (m : KeyMap β) (p k : String) :
    (m.eraseStartingWith p).find? k = if hasPrefix p k then none else m.find? k := by
  rw [eraseStartingWith, find?_eraseMany]
  by_cases hk : hasPrefix p k
  · rw [if_pos hk]
    split
    · rfl
    · rename_i hmem
      -- A key that begins with the prefix and is not met is not there at all.
      cases hv : m.find? k with
      | none => rfl
      | some v => exact absurd (mem_map_startingWith.2 ⟨contains_iff.2 ⟨v, hv⟩, hk⟩) hmem
  · rw [if_neg hk, if_neg fun hmem => hk (mem_map_startingWith.1 hmem).2]

/-- Erasing several prefixes removes the keys that begin with one of them. -/
theorem find?_foldl_eraseStartingWith (prefixOf : α → String) (as : List α)
    (m : KeyMap β) (k : String) :
    (as.foldl (fun m a => m.eraseStartingWith (prefixOf a)) m).find? k =
      if ∃ a ∈ as, hasPrefix (prefixOf a) k then none else m.find? k := by
  induction as generalizing m with
  | nil => simp
  | cons a as ih =>
    rw [List.foldl_cons, ih, find?_eraseStartingWith]
    by_cases ha : hasPrefix (prefixOf a) k <;> simp [ha]

end VolumeOverlay.KeyMap
