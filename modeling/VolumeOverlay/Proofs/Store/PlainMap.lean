import Mathlib.Data.List.Nodup
import VolumeOverlay.Proofs.Store.Call
import VolumeOverlay.Proofs.Store.Noninterference
import VolumeOverlay.Proofs.Text.ByteOrder
import VolumeOverlay.Store.RawBackend

/-!
# Backends are plain finite maps

A backend answers every sequence of requests as a plain finite map would: a list of entries in no
order, which is searched through for every request. The plain map knows nothing of a walk that begins
at a prefix and stops at the first key without it; it compares the bytes of the prefix with those of
every key, and sorts by bytes what it has found. The two hold the same entries after every request,
and what the plain map has found is, once it is sorted, a map in key order with the lookups of the
walk.

## Main definitions

* `PlainMap`: a finite map in no order
* `PlainMap.answer`: what it answers to a request, and the map after it
* `PlainMap.Holds m es`: a plain map and the entries of a backend are the same finite map

## Main results

* `PlainMap.mem_under`, `pairwise_under`: what a plain map lists, and in which order
* `PlainMap.startingWith_eq_filter_beginsWith`: the walk misses nothing and adds nothing
* `PlainMap.Holds.step`: a request keeps the two the same, and is answered alike
* `RawBackend.transcript_eq_plainMap`: so is every sequence of requests
-/

namespace VolumeOverlay

open Actions
open Text (hasPrefix)
open Text.Utf8 (encode)

/-! ### Plain maps -/

/-- A finite map: entries in no order, and no two of them with one key. -/
structure PlainMap where
  entries : List (String × Bytes)
  nodup : (entries.map (·.1)).Nodup

namespace PlainMap

/-- The entries of a map in key order, the order being forgotten. -/
def ofEntries (es : Entries) : PlainMap :=
  ⟨es.entries, es.nodup_keys⟩

/-- The value at a key. -/
def find? (m : PlainMap) (k : String) : Option Bytes :=
  (m.entries.find? fun e => e.1 == k).map (·.2)

/-- The map without the keys that pass a test. -/
def without (m : PlainMap) (p : String → Bool) : PlainMap :=
  ⟨m.entries.filter fun e => !p e.1, m.nodup.sublist (List.filter_sublist.map _)⟩

/-- The map with a value at a key. -/
def put (m : PlainMap) (k : String) (v : Bytes) : PlainMap :=
  ⟨(k, v) :: (m.without (· == k)).entries, by
    refine List.nodup_cons.2 ⟨fun hmem => ?_, (m.without (· == k)).nodup⟩
    obtain ⟨e, he, hk⟩ := List.mem_map.1 hmem
    simpa [hk] using (List.mem_filter.1 he).2⟩

/-- Whether the bytes of a key begin with those of a prefix. -/
def beginsWith (p k : String) : Bool :=
  (encode p).isPrefixOf (encode k)

/-- Whether the bytes of a key do not stand after those of another. -/
def notAfter (e f : String × Bytes) : Bool :=
  decide (encode e.1 ≤ encode f.1)

/-- The entries under a prefix, in the order of the bytes of their keys. -/
def under (m : PlainMap) (p : String) : List (String × Bytes) :=
  (m.entries.filter fun e => beginsWith p e.1).mergeSort notAfter

/-- What a request answers, and the map after it. -/
def answer (request : Request) (m : PlainMap) : Except BackendError Reply × PlainMap :=
  match request with
  | .put k v => (.ok .done, m.put k v)
  | .get k =>
    (match m.find? k with
      | some v => .ok (.bytes v)
      | none => .error (.keyNotFound k), m)
  | .list p => (if m.under p = [] then .error (.keyNotFound p) else .ok (.pairs (m.under p)), m)
  | .delete k => (.ok .done, m.without (· == k))
  | .deleteTree p => (.ok .done, m.without (beginsWith p))
  | .exists k => (.ok (.truth (m.find? k).isSome), m)

end PlainMap

/-! ### Requests to a backend without faults -/

namespace Request

variable (es : Entries) (k p : String) (v : Bytes)

theorem performOn_put : (put k v).performOn es = (.ok .done, es.insert k v) := rfl

theorem performOn_delete : (delete k).performOn es = (.ok .done, es.erase k) := rfl

theorem performOn_deleteTree :
    (deleteTree p).performOn es = (.ok .done, es.eraseStartingWith p) := rfl

theorem performOn_exists :
    (Request.exists k).performOn es = (.ok (.truth (es.contains k)), es) := rfl

/-- Without faults a request is an action on entries. -/
theorem performOn_eq (request : Request) :
    request.performOn es =
      ((exec (request.perform : BackendM Reliable Reply) ⟨es, {}⟩).1,
        (exec (request.perform : BackendM Reliable Reply) ⟨es, {}⟩).2.entries) := rfl

theorem performOn_get :
    (get k).performOn es =
      (match es.find? k with
        | some v => .ok (.bytes v)
        | none => .error (.keyNotFound k), es) := by
  have hget : exec (BackendM.get k : BackendM Reliable Bytes) ⟨es, {}⟩ =
      (match es.find? k with
        | some v => .ok v
        | none => .error (.keyNotFound k), ⟨es, {}⟩) := by
    rw [BackendM.get, BackendM.exec_consult_bind]
    show exec (BackendM.entries >>= _) _ = _
    rw [exec_bind_of_ok (BackendM.exec_entries _)]
    cases es.find? k <;> rfl
  rw [performOn_eq, perform, exec_bind, hget]
  cases es.find? k <;> rfl

theorem performOn_list :
    (list p).performOn es =
      (if es.startingWith p = [] then .error (.keyNotFound p) else .ok (.pairs (es.startingWith p)),
        es) := by
  have hlist : exec (BackendM.list p : BackendM Reliable _) ⟨es, {}⟩ =
      (if es.startingWith p = [] then .error (.keyNotFound p) else .ok (es.startingWith p),
        ⟨es, {}⟩) := by
    rw [BackendM.list, BackendM.exec_consult_bind]
    show exec (BackendM.entries >>= _) _ = _
    rw [exec_bind_of_ok (BackendM.exec_entries _)]
    cases es.startingWith p <;> rfl
  rw [performOn_eq, perform, exec_bind, hlist]
  cases es.startingWith p <;> rfl

end Request

/-! ### The two hold the same -/

namespace PlainMap

variable {m : PlainMap} {es : Entries}

theorem find?_eq_some_iff {k : String} {v : Bytes} : m.find? k = some v ↔ (k, v) ∈ m.entries := by
  rw [find?, Option.map_eq_some_iff]
  constructor
  · rintro ⟨e, he, rfl⟩
    have hk : (e.1 == k) = true := List.find?_some (p := fun e : String × Bytes => e.1 == k) he
    obtain rfl := eq_of_beq hk
    exact List.mem_of_find?_eq_some he
  · intro hmem
    have hsome : (m.entries.find? fun e => e.1 == k).isSome :=
      List.find?_isSome.2 ⟨(k, v), hmem, beq_self_eq_true k⟩
    obtain ⟨e, he⟩ := Option.isSome_iff_exists.1 hsome
    have hk : (e.1 == k) = true := List.find?_some (p := fun e : String × Bytes => e.1 == k) he
    -- No other entry has this key.
    have heq : e = (k, v) :=
      List.inj_on_of_nodup_map m.nodup (List.mem_of_find?_eq_some he) hmem (eq_of_beq hk)
    exact ⟨e, he, by rw [heq]⟩

theorem find?_without (m : PlainMap) (p : String → Bool) (k : String) :
    (m.without p).find? k = if p k then none else m.find? k := by
  refine Option.ext fun v => ?_
  rw [find?_eq_some_iff, without, List.mem_filter, ← find?_eq_some_iff]
  cases p k <;> simp

theorem find?_put (m : PlainMap) (k : String) (v : Bytes) (k' : String) :
    (m.put k v).find? k' = if k' = k then some v else m.find? k' := by
  refine Option.ext fun w => ?_
  rw [find?_eq_some_iff, put, List.mem_cons, ← find?_eq_some_iff (m := m.without _), find?_without]
  by_cases hk : k' = k
  · simp [hk, eq_comm (a := w)]
  · simp [hk]

/-- A plain map and the entries of a backend are the same finite map. -/
def Holds (m : PlainMap) (es : Entries) : Prop :=
  ∀ k, m.find? k = es.find? k

theorem holds_ofEntries (es : Entries) : (ofEntries es).Holds es := fun k => by
  refine Option.ext fun v => ?_
  rw [find?_eq_some_iff, KeyMap.find?_eq_some_iff]
  rfl

/-- A key begins with a prefix when its bytes begin with those of the prefix. -/
theorem beginsWith_eq_hasPrefix (p k : String) : beginsWith p k = hasPrefix p k := by
  rw [Bool.eq_iff_iff, beginsWith, List.isPrefixOf_iff_prefix, Text.Utf8.encode_prefix_encode_iff]

/-- The entries of a backend stand in the order of the bytes of their keys. -/
theorem pairwise_entries (es : Entries) :
    es.entries.Pairwise fun e f => encode e.1 < encode f.1 :=
  es.ascending.imp Text.Utf8.encode_lt_encode_iff.2

/-- The walk over a prefix meets the keys whose bytes begin with those of the prefix, and no others. -/
theorem startingWith_eq_filter_beginsWith (es : Entries) (p : String) :
    es.startingWith p = es.entries.filter fun e => beginsWith p e.1 := by
  simp only [KeyMap.startingWith_eq_filter, beginsWith_eq_hasPrefix]

/-- The walk begins at a key that is the prefix itself, and goes on through characters of several
bytes. -/
example :
    (KeyMap.ofList [("a", []), ("a/", [1]), ("a/é", [2]), ("a0", [])] : Entries).startingWith "a/" =
      [("a/", [1]), ("a/é", [2])] := by decide +kernel

/-- Listed are the entries under the prefix. -/
theorem mem_under {p k : String} {v : Bytes} :
    (k, v) ∈ m.under p ↔ m.find? k = some v ∧ beginsWith p k := by
  rw [under, List.mem_mergeSort, List.mem_filter, find?_eq_some_iff]

/-- They are listed in the order of the bytes of their keys, and no key twice. -/
theorem pairwise_under (m : PlainMap) (p : String) :
    (m.under p).Pairwise fun e f => encode e.1 < encode f.1 := by
  -- Sorting puts no key behind a greater one; that none is there twice makes the order strict.
  have hsorted : (m.under p).Pairwise fun e f => notAfter e f = true := by
    refine List.pairwise_mergeSort (fun e f g hef hfg => ?_) (fun e f => ?_) _
    · exact decide_eq_true (List.le_trans (of_decide_eq_true hef) (of_decide_eq_true hfg))
    · rw [Bool.or_eq_true, notAfter, notAfter, decide_eq_true_iff, decide_eq_true_iff]
      exact List.le_total _ _
  have hkeys : ((m.under p).map (·.1)).Nodup :=
    ((List.mergeSort_perm _ _).map _).nodup_iff.2 (m.nodup.sublist (List.filter_sublist.map _))
  refine hsorted.imp₂ (fun e f hle hne => ?_) (List.pairwise_map.1 hkeys)
  rw [Text.Utf8.encode_lt_encode_iff]
  refine Decidable.byContradiction fun hlt => hne ?_
  have hge : ¬ f.1 < e.1 := fun hgt =>
    of_decide_eq_true hle (Text.Utf8.encode_lt_encode_iff.2 hgt)
  exact String.le_antisymm (String.not_lt.1 hge) (String.not_lt.1 hlt)

/-- What is picked out and sorted by bytes is what the walk meets. -/
theorem Holds.under_eq (h : m.Holds es) (p : String) : m.under p = es.startingWith p := by
  -- In ascending order the two lists are maps with the same lookups.
  let found : Entries := ⟨m.under p, (m.pairwise_under p).imp Text.Utf8.encode_lt_encode_iff.1⟩
  have hfound : found = es.filter fun e => hasPrefix p e.1 := by
    refine KeyMap.ext_find? fun k => Option.ext fun v => ?_
    rw [KeyMap.find?_eq_some_iff, KeyMap.find?_filter _ (hasPrefix p), mem_under, h,
      beginsWith_eq_hasPrefix]
    cases hasPrefix p k <;> simp
  rw [KeyMap.startingWith_eq_filter]
  exact congrArg KeyMap.entries hfound

/-! ### Requests -/

/-- A request keeps the two the same, and both answer it alike. -/
theorem Holds.step (h : m.Holds es) (request : Request) :
    (PlainMap.answer request m).1 = (request.performOn es).1 ∧
      (PlainMap.answer request m).2.Holds (request.performOn es).2 := by
  cases request with
  -- Requests that change something are compared by the lookups they leave behind, the others by what
  -- they find.
  | put k v =>
    refine ⟨rfl, fun k' => ?_⟩
    rw [Request.performOn_put, KeyMap.find?_insert, ← h]
    exact find?_put m k v k'
  | get k =>
    rw [Request.performOn_get, ← h]
    exact ⟨rfl, h⟩
  | list p =>
    rw [Request.performOn_list, ← h.under_eq]
    exact ⟨rfl, h⟩
  | delete k =>
    refine ⟨rfl, fun k' => ?_⟩
    rw [Request.performOn_delete, KeyMap.find?_erase, ← h]
    have hwithout := find?_without m (· == k) k'
    simp only [beq_iff_eq] at hwithout
    exact hwithout
  | deleteTree p =>
    refine ⟨rfl, fun k' => ?_⟩
    rw [Request.performOn_deleteTree, KeyMap.find?_eraseStartingWith, ← beginsWith_eq_hasPrefix, ← h]
    exact find?_without m (beginsWith p) k'
  | «exists» k =>
    rw [Request.performOn_exists, KeyMap.contains, ← h]
    exact ⟨rfl, h⟩

end PlainMap

/-! ### Sequences of requests -/

/-- Related states answer every sequence of requests alike, when each request keeps them related and
is answered alike. -/
theorem transcript_eq_of_related {ρ α S T : Type} {step : ρ → S → α × S} {step' : ρ → T → α × T}
    {R : S → T → Prop}
    (hstep : ∀ r s t, R s t → (step r s).1 = (step' r t).1 ∧ R (step r s).2 (step' r t).2)
    (rs : List ρ) {s : S} {t : T} (h : R s t) : transcript step rs s = transcript step' rs t := by
  induction rs generalizing s t with
  | nil => rfl
  | cons r rs ih =>
    obtain ⟨hanswer, hrelated⟩ := hstep r s t h
    rw [transcript_cons, transcript_cons, hanswer, ih hrelated]

namespace RawBackend

/-- A backend answers one request as the plain map with its entries does, and they stay the same. -/
theorem perform_holds {b : RawBackend} {m : PlainMap} (h : m.Holds b.entries) (request : Request) :
    (b.perform request).1 = (PlainMap.answer request m).1 ∧
      (PlainMap.answer request m).2.Holds (b.perform request).2.entries := by
  obtain ⟨hanswer, hholds⟩ := h.step request
  refine ⟨hanswer.symm, ?_⟩
  -- The entries are put back into the bucket that they were taken from.
  have hentries : (b.perform request).2.entries = (request.performOn b.entries).2 := by
    rw [perform, entries, KeyMap.find?_insert_self]
    rfl
  rw [hentries]
  exact hholds

/-- A backend of either kind, whatever it holds, answers every sequence of requests as the plain map
with its entries does. Entries stand in the order of the bytes of their keys, and the walk over a
prefix neither misses nor adds one. -/
theorem transcript_eq_plainMap (b : RawBackend) (requests : List Request) :
    transcript (fun request b => b.perform request) requests b =
        transcript PlainMap.answer requests (.ofEntries b.entries) ∧
      ∀ es : Entries, (es.entries.Pairwise fun e f => encode e.1 < encode f.1) ∧
        ∀ p, es.startingWith p = es.entries.filter fun e => PlainMap.beginsWith p e.1 :=
  ⟨transcript_eq_of_related (R := fun b m => m.Holds b.entries)
      (fun request _ _ h => perform_holds h request) requests (PlainMap.holds_ofEntries b.entries),
    fun es => ⟨PlainMap.pairwise_entries es, PlainMap.startingWith_eq_filter_beginsWith es⟩⟩

end RawBackend

end VolumeOverlay
