import VolumeOverlay.Proofs.KeyMap
import VolumeOverlay.Proofs.Store.Schedulers
import VolumeOverlay.Store.Record

/-!
# Index entries

The index part of a record is listed and then read entry by entry. Of all that lies under the key of
the object, two leaves count, and since keys are listed once each, what is read does not depend on
the order: it is the scheduler list under the one and the text under the other.

## Main definitions

* `Store.schedulersAt key value`: the scheduler list that is stored, or none

## Main results

* `Store.schedulersAt_encode`: a scheduler list is found as it was stored
* `Store.foldlM_add`: what entries with different keys say
* `Store.ofEntries_startingWith`: what the index says about an object
-/

namespace VolumeOverlay.Store

open Text (hasPrefix)

/-- The value of the first entry with a key. -/
def valueAt (k : String) (es : List (String × Bytes)) : Option Bytes :=
  (es.find? fun e => e.1 == k).map (·.2)

theorem valueAt_cons_self {k : String} {v : Bytes} {es : List (String × Bytes)} :
    valueAt k ((k, v) :: es) = some v := by
  simp [valueAt]

theorem valueAt_cons_of_ne {k : String} {e : String × Bytes} {es : List (String × Bytes)}
    (h : e.1 ≠ k) : valueAt k (e :: es) = valueAt k es := by
  rw [valueAt, List.find?_cons_of_neg (by simpa using h)]
  rfl

theorem valueAt_of_notMem {k : String} {es : List (String × Bytes)} (h : k ∉ es.map (·.1)) :
    valueAt k es = none := by
  rw [valueAt, Option.map_eq_none_iff, List.find?_eq_none]
  exact fun e he hk => h (List.mem_map.2 ⟨e, he, by simpa using hk⟩)

/-- The scheduler list stored under the key of an object; an absent one is empty. -/
def schedulersAt (key : String) : Option Bytes → Except StoreError (List String)
  | some value => Schedulers.decode (key ++ schedulersLeaf) value
  | none => .ok []

/-- A scheduler list is found as it was stored, also when it is empty and nothing was. -/
theorem schedulersAt_encode (key : String) (names : List String) :
    schedulersAt key (Schedulers.encode names) = .ok names := by
  cases h : Schedulers.encode names with
  | some value => exact Schedulers.decode_encode h _
  | none =>
    unfold Schedulers.encode at h
    split at h
    · rename_i hempty
      rw [hempty]
      rfl
    · cases h

theorem add_schedulers (key : String) (entry : IndexEntry) (value : Bytes) :
    IndexEntry.add key entry (key ++ schedulersLeaf, value) =
      (Schedulers.decode (key ++ schedulersLeaf) value).map fun names =>
        { entry with schedulers := names } := by
  have hdrop : Text.dropPrefix? key (key ++ schedulersLeaf) = some schedulersLeaf :=
    Text.dropPrefix?_eq_some_iff.2 rfl
  simp only [IndexEntry.add, hdrop, if_true]
  cases Schedulers.decode (key ++ schedulersLeaf) value <;> rfl

theorem add_serviceName (key : String) (entry : IndexEntry) (value : Bytes) :
    IndexEntry.add key entry (key ++ serviceNameLeaf, value) =
      .ok { entry with serviceName := some (Text.Utf8.decodeLossy value) } := by
  have hdrop : Text.dropPrefix? key (key ++ serviceNameLeaf) = some serviceNameLeaf :=
    Text.dropPrefix?_eq_some_iff.2 rfl
  have hne : serviceNameLeaf ≠ schedulersLeaf := by decide
  simp only [IndexEntry.add, hdrop, if_neg hne, if_true]

theorem add_of_ne {key : String} (entry : IndexEntry) {e : String × Bytes}
    (hs : e.1 ≠ key ++ schedulersLeaf) (hn : e.1 ≠ key ++ serviceNameLeaf) :
    IndexEntry.add key entry e = .ok entry := by
  unfold IndexEntry.add
  cases hdrop : Text.dropPrefix? key e.1 with
  | none => rfl
  | some leaf =>
    have he := Text.dropPrefix?_eq_some_iff.1 hdrop
    have h₁ : leaf ≠ schedulersLeaf := fun h => hs (h ▸ he)
    have h₂ : leaf ≠ serviceNameLeaf := fun h => hn (h ▸ he)
    simp only [if_neg h₁, if_neg h₂]

/-- Of entries with different keys, two decide what an index entry says. -/
theorem foldlM_add (key : String) {es : List (String × Bytes)} (hes : (es.map (·.1)).Nodup)
    (entry : IndexEntry) :
    es.foldlM (IndexEntry.add key) entry =
      (match valueAt (key ++ schedulersLeaf) es with
        | some value => Schedulers.decode (key ++ schedulersLeaf) value
        | none => .ok entry.schedulers).map fun names =>
          ⟨names, ((valueAt (key ++ serviceNameLeaf) es).map Text.Utf8.decodeLossy).or
            entry.serviceName⟩ := by
  have hkeys : key ++ schedulersLeaf ≠ key ++ serviceNameLeaf := by
    intro h
    rw [← String.toList_inj, String.toList_append, String.toList_append] at h
    exact absurd (List.append_cancel_left h) (by decide)
  induction es generalizing entry with
  | nil => rfl
  | cons e es ih =>
    rw [List.map_cons, List.nodup_cons] at hes
    rw [List.foldlM_cons]
    by_cases hs : e.1 = key ++ schedulersLeaf
    · obtain ⟨k, value⟩ := e
      obtain rfl : k = key ++ schedulersLeaf := hs
      rw [add_schedulers, valueAt_cons_self, valueAt_cons_of_ne hkeys]
      dsimp only
      cases hd : Schedulers.decode (key ++ schedulersLeaf) value with
      | error err => rfl
      | ok names =>
        -- The list is read; no entry behind it has its key, so it is not read again.
        show es.foldlM (IndexEntry.add key) _ = _
        rw [ih hes.2, valueAt_of_notMem hes.1]
    · by_cases hn : e.1 = key ++ serviceNameLeaf
      · obtain ⟨k, value⟩ := e
        obtain rfl : k = key ++ serviceNameLeaf := hn
        rw [add_serviceName, valueAt_cons_self, valueAt_cons_of_ne hs]
        show es.foldlM (IndexEntry.add key) _ = _
        rw [ih hes.2, valueAt_of_notMem hes.1]
        rfl
      · -- Any other key is passed over.
        rw [add_of_ne entry hs hn, valueAt_cons_of_ne hs, valueAt_cons_of_ne hn]
        exact ih hes.2 entry

theorem valueAt_startingWith {es : Entries} {key : String} (leaf : String) :
    valueAt (key ++ leaf) (es.startingWith key) = es.find? (key ++ leaf) := by
  have hfilter : es.startingWith key = (es.filter fun e => hasPrefix key e.1).entries :=
    KeyMap.startingWith_eq_filter es key
  rw [hfilter]
  show (es.filter fun e => hasPrefix key e.1).find? (key ++ leaf) = _
  rw [KeyMap.find?_filter es (hasPrefix key), if_pos (Text.hasPrefix_append _ _)]

/-- What the index says about an object is found under two of its keys. -/
theorem ofEntries_startingWith (es : Entries) (key : String) :
    IndexEntry.ofEntries key (es.startingWith key) =
      (schedulersAt key (es.find? (key ++ schedulersLeaf))).map fun names =>
        ⟨names, (es.find? (key ++ serviceNameLeaf)).map Text.Utf8.decodeLossy⟩ := by
  have hnodup : ((es.startingWith key).map (·.1)).Nodup := by
    rw [KeyMap.startingWith_eq_filter]
    exact (es.filter fun e => hasPrefix key e.1).nodup_keys
  rw [IndexEntry.ofEntries, foldlM_add key hnodup, valueAt_startingWith, valueAt_startingWith]
  simp only [Option.or_none]
  cases es.find? (key ++ schedulersLeaf) <;> rfl

end VolumeOverlay.Store
