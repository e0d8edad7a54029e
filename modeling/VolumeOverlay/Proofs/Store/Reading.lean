import VolumeOverlay.Proofs.Store.Record

/-!
# Reading under faults

Reading a record changes no entry. Whatever a run answers was therefore found in the entries that it
started from, whichever calls failed on the way, with one exception: a listing that fails as if there
were nothing to list is taken for an empty one. A source of faults that never does this leaves a run
only two outcomes, the true answer and a failure.

## Main definitions

* `HasEntries es m`: a medium with given entries
* `IoFaults σ`: no call fails as if its key held nothing
* `Outages`: failures of the medium at any of the calls to come
* `Store.FoundIn es T v w`: a volume with the overlay that entries hold

## Main results

* `Store.ensures_loadTexts`: texts that are loaded are those that are stored
* `Store.ensures_loadVolume`: a volume that is loaded is found in the entries
-/

namespace VolumeOverlay

open Actions

/-- A source whose faults are failures of the medium: no call fails as if its key held nothing. -/
class IoFaults (σ : Type) [FaultSource σ] : Prop where
  ne_notFound : ∀ (s : σ) call, (FaultSource.next s call).1 ≠ some .notFound

instance : IoFaults Reliable where
  ne_notFound _ _ := nofun

/-- Outages of the medium: which of the calls to come fail, counted from the next one. -/
structure Outages where
  fails : Nat → Bool

instance : FaultSource Outages where
  next s _ := (if s.fails 0 then some .io else none, ⟨fun n => s.fails (n + 1)⟩)

instance : IoFaults Outages where
  ne_notFound s call := by
    show (if s.fails 0 then some Fault.io else none) ≠ _
    split <;> exact nofun

variable {σ : Type}

/-- A medium with given entries. -/
def HasEntries (es : Entries) (m : Medium σ) : Prop :=
  m.entries = es

/-- What a reading action ensures of given entries, it ensures of all entries with a property. -/
theorem Actions.Ensures.of_entries {ε α : Type} {x : ExceptT ε (StateM (Medium σ)) α}
    {I : Entries → Prop} {Q : α → Prop} (h : ∀ es, I es → Ensures (HasEntries es) Q x) :
    Ensures (fun m => I m.entries) Q x := by
  intro m hm
  obtain ⟨hkept, hanswer⟩ := h m.entries hm m rfl
  refine ⟨?_, hanswer⟩
  show I (exec x m).2.entries
  rw [hkept]
  exact hm

variable [FaultSource σ] {es : Entries}

namespace StoreM

theorem ensures_list (key : String) :
    Ensures (HasEntries es) (fun pairs => pairs = es.startingWith key)
      (list key : StoreM σ _) := by
  rintro m rfl
  rw [exec_list_eq]
  refine ⟨rfl, fun pairs hpairs => ?_⟩
  dsimp only at hpairs
  split at hpairs
  · cases hpairs
  · split at hpairs
    · cases hpairs
    · exact (Except.ok.inj hpairs).symm

/-- Where no call fails as if its key held nothing, a listing that finds nothing has nothing to
find. -/
theorem ensures_listOrNone [IoFaults σ] (key : String) :
    Ensures (HasEntries es) (fun pairs => pairs = es.startingWith key)
      (listOrNone key : StoreM σ _) := by
  rintro m rfl
  rw [listOrNone, exec_tryCatch, exec_list_eq]
  have hio := IoFaults.ne_notFound m.faults ⟨.list, key⟩
  cases hfault : (FaultSource.next m.faults ⟨.list, key⟩).1 with
  | some fault =>
    cases fault with
    | io =>
      refine ⟨rfl, fun pairs hpairs => ?_⟩
      cases hpairs
    | notFound => exact absurd hfault hio
  | none =>
    by_cases hempty : m.entries.startingWith key = []
    · simp only [if_pos hempty]
      refine ⟨rfl, fun pairs hpairs => ?_⟩
      exact (Except.ok.inj hpairs).symm.trans hempty.symm
    · simp only [if_neg hempty]
      refine ⟨rfl, fun pairs hpairs => ?_⟩
      exact (Except.ok.inj hpairs).symm

end StoreM

namespace Store

variable {store : Store}

/-- A volume that is found in entries: it is registered there, and has the overlay that is stored
there, with labels of which a predicate holds. -/
def FoundIn (store : Store) (es : Entries) (T : LabelMap → Prop) (v w : Volume) : Prop :=
  es.contains (store.markerKey v.overlayId.text) = true ∧
    ∃ entry labels fields,
      IndexEntry.ofEntries (store.layout.subtree .index v.overlayId.text)
          (es.startingWith (store.layout.subtree .index v.overlayId.text)) = .ok entry ∧
        T labels ∧ w = merge v entry labels fields

/-- Loading texts changes no entry, whatever it answers. -/
theorem ensures_loadTexts_any (category : Category) (id : String) :
    Ensures (HasEntries es) (fun _ => True)
      (store.loadTexts category id : StoreM σ LabelMap) := by
  refine Ensures.of_moves (ρ := OnEntries σ Eq) moves_loadTexts ?_
  rintro m m' heq rfl
  exact heq.symm

/-- Texts that are loaded are those that are stored. -/
theorem ensures_loadTexts [IoFaults σ] (category : Category) (id : String) :
    Ensures (HasEntries es) (fun texts => texts = es.texts (store.layout.subtree category id))
      (store.loadTexts category id : StoreM σ LabelMap) := by
  refine (Ensures.liftExcept _).bind fun key hkey => ?_
  obtain rfl := (KeyLayout.objectKey_eq_ok_iff.1 hkey).2
  refine (StoreM.ensures_listOrNone _).bind fun pairs hpairs => Ensures.pure ?_
  rw [hpairs, Entries.texts]

/-- A volume is taken for registered only if its marker is there. -/
theorem ensures_probe {id : OverlayId} (hid : sanitize id.text ≠ "") :
    Ensures (HasEntries es) (fun registered => registered = true →
        es.contains (store.markerKey id.text) = true)
      (tryCatch (store.isRegistered id) fun _ => pure false : StoreM σ Bool) := by
  rintro m rfl
  rw [exec_probe hid]
  refine ⟨rfl, fun registered hanswer hregistered => ?_⟩
  obtain rfl := Except.ok.inj hanswer
  exact (Bool.and_eq_true_iff.1 hregistered).2

/-- A volume that is loaded is found in the entries, its labels with what loading them ensures. -/
theorem ensures_loadVolume (v : Volume) {T : LabelMap → Prop}
    (htexts : Ensures (HasEntries es) T
      (store.loadTexts .adminLabels v.overlayId.text : StoreM σ LabelMap)) :
    Ensures (HasEntries es) (fun answer => ∀ w, answer = some w → store.FoundIn es T v w)
      (store.loadVolume v : StoreM σ (Option Volume)) := by
  rw [(inPlace_loadInto store v).loadVolume_eq]
  refine (Ensures.liftExcept _).bind fun key hkey => ?_
  obtain ⟨hid, rfl⟩ := KeyLayout.objectKey_eq_ok_iff.1 hkey
  refine (ensures_probe hid).bind fun registered hregistered => ?_
  cases registered with
  | false => exact Ensures.pure fun w hw => nomatch hw
  | true =>
    refine (StoreM.ensures_list _).bind fun pairs hpairs => ?_
    refine (Ensures.liftExcept _).bind fun entry hentry => htexts.bind fun labels hlabels => ?_
    have hfound : ∀ fields w, some (merge v entry labels fields) = some w →
        store.FoundIn es T v w := by
      rintro fields w ⟨⟩
      exact ⟨hregistered rfl, entry, labels, fields, hpairs ▸ hentry, hlabels, rfl⟩
    -- The mirrored fields are read last, and may be anything.
    by_cases hp : store.persistFields = true
    · rw [if_pos hp]
      exact (ensures_loadTexts_any _ _).bind fun fields _ => Ensures.pure (hfound fields)
    · rw [if_neg hp]
      exact (Ensures.pure trivial).bind fun fields (_ : True) => Ensures.pure (hfound fields)

end Store

end VolumeOverlay
