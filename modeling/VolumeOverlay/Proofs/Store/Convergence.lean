import VolumeOverlay.Proofs.Store.Record

/-!
# Saving again after a failure

Nothing is rolled back when a call fails while a record is written. Whatever was written until then is
what the record sets its keys to, so an attempt brings the entries closer to the record and never
further away from it. Any number of such attempts is therefore forgotten by the next one that comes to
its end: the entries are then those that a single write leaves, whatever the orders in which labels
and fields were written in the attempts.

## Main definitions

* `WriteOrder v`: an order of the labels and one of the fields of a volume
* `Toward P es es'`: every key is as it was, or as `P` says
* `Store.attempt store es a`: what an attempt to write a record leaves behind

## Main results

* `Store.toward_attempt`, `toward_attempts`: attempts bring the entries closer to the record
* `Store.recorded_eq_of_toward`: from there, writing the record leads where it would have led before
* `Store.saveIn_after_attempts`: a write that does not fail makes up for those that did
-/

namespace VolumeOverlay

open Actions

/-- An order of the labels and one of the fields of a volume, as a record may be written in. -/
structure WriteOrder (v : Volume) where
  labels : List (String × String)
  fields : List (String × String)
  perm_labels : labels.Perm v.labels.toList
  perm_fields : fields.Perm v.external.fields.toList

/-- Labels and fields as an order of texts has them. -/
def WriteOrder.of (order : TextOrder) (v : Volume) : WriteOrder v :=
  ⟨order.list v.labels, order.list v.external.fields, order.perm _, order.perm _⟩

/-! ### Coming closer -/

/-- Entries that have come closer to what a predicate says of keys: every key is as it was, or as the
predicate says. -/
def Toward (P : String → Option Bytes → Prop) (es es' : Entries) : Prop :=
  ∀ k, es'.find? k = es.find? k ∨ P k (es'.find? k)

namespace Toward

variable {P : String → Option Bytes → Prop} {es es' : Entries}

theorem refl (P : String → Option Bytes → Prop) (es : Entries) : Toward P es es :=
  fun _ => .inl rfl

theorem trans {es'' : Entries} (h : Toward P es es') (h' : Toward P es' es'') :
    Toward P es es'' := by
  -- What the later step did to a key counts, and if it did nothing, what the earlier one did.
  intro k
  rcases h' k with hkept | hset
  · rw [hkept]
    exact h k
  · exact .inr hset

instance : Std.Refl (Toward P) where
  refl := refl P

instance : IsTrans Entries (Toward P) where
  trans _ _ _ := trans

theorem admits {σ : Type} : Admits (OnEntries σ (Toward P)) P where
  insert m k value hk k' := by
    by_cases hne : k' = k
    · subst hne
      right
      rwa [KeyMap.find?_insert_self]
    · exact .inl (KeyMap.find?_insert_of_ne _ _ hne)
  erase m k hk k' := by
    by_cases hne : k' = k
    · subst hne
      right
      rwa [KeyMap.find?_erase, if_pos rfl]
    · exact .inl (KeyMap.find?_erase_of_ne _ hne)

/-- Of a key that nothing is said about, nothing is changed. -/
theorem find?_eq (h : Toward P es es') {k : String} (hk : ∀ a, ¬ P k a) :
    es'.find? k = es.find? k := by
  rcases h k with hkept | hset
  · exact hkept
  · exact absurd hset (hk _)

/-- Entries that are as the predicate says already cannot come closer. -/
theorem eq_of_holds (h : Toward P es es') (hes : ∀ k a, P k a → es.find? k = a) : es' = es := by
  apply KeyMap.ext_find?
  intro k
  rcases h k with hkept | hset
  · exact hkept
  · exact (hes k _ hset).symm

end Toward

namespace Store

variable {σ : Type} [FaultSource σ] {store : Store} {v : Volume}

/-! ### Attempts -/

/-- Writes the record of a volume in an order of its labels and fields. -/
def saveIn (store : Store) (o : WriteOrder v) : StoreM σ Unit :=
  store.saveVolumeInOrder v o.labels o.fields

/-- What an attempt to write a record leaves behind, whichever of its calls fails. -/
def attempt (store : Store) (es : Entries) (a : WriteOrder v × σ) : Entries :=
  (exec (store.saveIn a.1 : StoreM σ Unit) ⟨es, a.2⟩).2.entries

/-- A store writes in one of the orders. -/
theorem saveVolume_eq_saveIn :
    (store.saveVolume v : StoreM σ Unit) = store.saveIn (.of store.order v) := rfl

/-- Whichever calls fail, writing a record brings the entries closer to it. -/
theorem moves_saveIn (o : WriteOrder v) :
    Moves (OnEntries σ (Toward (store.Sets v))) (store.saveIn o : StoreM σ Unit) :=
  moves_saveVolumeInOrder o.perm_labels o.perm_fields Toward.admits

theorem toward_attempt (es : Entries) (a : WriteOrder v × σ) :
    Toward (store.Sets v) es (store.attempt es a) := by
  have hmoves : Moves (OnEntries σ (Toward (store.Sets v))) (store.saveIn a.1 : StoreM σ Unit) :=
    moves_saveIn a.1
  exact hmoves ⟨es, a.2⟩

/-- One attempt after the other comes closer to the record. -/
theorem toward_attempts (es : Entries) (attempts : List (WriteOrder v × σ)) :
    Toward (store.Sets v) es (attempts.foldl store.attempt es) := by
  induction attempts generalizing es with
  | nil => exact Toward.refl _ es
  | cons a attempts ih =>
    rw [List.foldl_cons]
    exact (toward_attempt es a).trans (ih _)

/-- Entries that have come closer to a record are led to the same ones when it is written. -/
theorem recorded_eq_of_toward {es es' : Entries} (h : Toward (store.Sets v) es es')
    (hlabels : checkLeaves v.labels.keys = .ok ()) (hmirrored : store.checkMirrored v = .ok ()) :
    store.recorded v es' = store.recorded v es := by
  apply KeyMap.ext_find?
  intro k
  -- A key that the record sets is set to the same, and of any other the attempts changed nothing.
  by_cases hset : ∃ a, store.Sets v k a
  · obtain ⟨a, ha⟩ := hset
    rw [find?_recorded_of_sets hlabels hmirrored ha, find?_recorded_of_sets hlabels hmirrored ha]
  · have hnone := not_exists.1 hset
    rw [find?_recorded_of_not_sets hnone, find?_recorded_of_not_sets hnone, h.find?_eq hnone]

/-- A write without faults leaves the record, if the id and the names of labels and mirrored fields are
fit for keys. -/
theorem exec_saveIn (o : WriteOrder v) (es : Entries) (s : Reliable)
    (hid : sanitize v.overlayId.text ≠ "") (hlabels : checkLeaves v.labels.keys = .ok ())
    (hmirrored : store.checkMirrored v = .ok ()) :
    exec (store.saveIn o : StoreM Reliable Unit) ⟨es, s⟩ = (.ok (), ⟨store.recorded v es, s⟩) := by
  unfold saveIn
  rw [exec_saveVolumeInOrder es s hid,
    (writtenInOrder_eq_ok_iff o.perm_labels o.perm_fields).2 ⟨hlabels, hmirrored, rfl⟩]

/-- A write without faults that comes to its end has passed every check. -/
theorem checks_of_exec_saveIn {o : WriteOrder v} {es : Entries} {s : Reliable}
    (h : (exec (store.saveIn o : StoreM Reliable Unit) ⟨es, s⟩).1 = .ok ()) :
    sanitize v.overlayId.text ≠ "" ∧ checkLeaves v.labels.keys = .ok () ∧
      store.checkMirrored v = .ok () := by
  unfold saveIn at h
  by_cases hid : sanitize v.overlayId.text = ""
  · rw [exec_saveVolumeInOrder_of_blank hid] at h
    cases h
  · rw [exec_saveVolumeInOrder es s hid] at h
    have hwritten := (writtenInOrder_eq_ok_iff o.perm_labels o.perm_fields).1 (Prod.ext h rfl)
    exact ⟨hid, hwritten.1, hwritten.2.1⟩

/-- A write that does not fail makes up for any attempts that did: however many there were, wherever
each of them was cut short, and in whatever order each wrote labels and fields, it answers and leaves
behind what a single write does on the entries as they were at first. Every key of the record is then
as the volume says. -/
theorem saveIn_after_attempts (store : Store) (v : Volume) (es : Entries) (first last : WriteOrder v)
    (attempts : List (WriteOrder v × σ))
    (h : (exec (store.saveIn first : StoreM Reliable Unit) ⟨es, {}⟩).1 = .ok ()) :
    exec (store.saveIn last : StoreM Reliable Unit) ⟨attempts.foldl store.attempt es, {}⟩ =
        exec (store.saveIn first : StoreM Reliable Unit) ⟨es, {}⟩ ∧
      ∀ k a, store.Sets v k a →
        (exec (store.saveIn first : StoreM Reliable Unit) ⟨es, {}⟩).2.entries.find? k = a := by
  obtain ⟨hid, hlabels, hmirrored⟩ := checks_of_exec_saveIn h
  rw [exec_saveIn last _ _ hid hlabels hmirrored, exec_saveIn first _ _ hid hlabels hmirrored]
  constructor
  · rw [recorded_eq_of_toward (toward_attempts es attempts) hlabels hmirrored]
  · intro k a hset
    exact find?_recorded_of_sets hlabels hmirrored hset es

/-! ### A record that is written at the fourth attempt -/

/-- A store that mirrors fields. -/
def mirroringStore : Store where
  layout := .ofRoot "polly"
  persistFields := true

/-- A volume with two labels and two fields. -/
def richVolume : Volume where
  external := { id := "v", fields := .ofList [("rack", "r1"), ("tier", "gold")] }
  overlayId := ⟨"mock-v"⟩
  serviceName := "mock"
  schedulers := ["mesos", "nomad"]
  labels := .ofList [("app", "web"), ("owner", "ops")]

/-- Labels and fields from last to first. -/
def backwards : WriteOrder richVolume where
  labels := [("owner", "ops"), ("app", "web")]
  fields := [("tier", "gold"), ("rack", "r1")]
  perm_labels := .swap _ _ _
  perm_fields := .swap _ _ _

/-- An older record of the same volume, with a label, a field and a nested key that are stale. -/
def olderEntries : Entries :=
  .ofList [("polly/volumeinternallabels/mock-v/Schedulers", [0]),
    ("polly/volumeadmin/mock-v/team", [0]), ("polly/volumeadmin/mock-v/x/team", [0]),
    ("polly/volumelibstorage/mock-v/zone", [0])]

/-- Attempts that fail at a write, at a listing that finds nothing, and at the second deletion. -/
def failedAttempts : List (WriteOrder richVolume × ArmedFaults) :=
  [(.of .ascending _, [{ kind := .put, suffix := "ServiceName" }]),
    (backwards, [{ kind := .list, fault := .notFound, after := 1 }]),
    (backwards, [{ kind := .delete, after := 1 }])]

/-- The fourth attempt leaves what a single write leaves. -/
theorem saveIn_after_attempts_rich :
    (exec (mirroringStore.saveIn (.of .ascending richVolume) : StoreM Reliable Unit)
        ⟨olderEntries, {}⟩).1 = .ok () ∧
      exec (mirroringStore.saveIn backwards : StoreM Reliable Unit)
          ⟨failedAttempts.foldl mirroringStore.attempt olderEntries, {}⟩ =
        exec (mirroringStore.saveIn (.of .ascending richVolume) : StoreM Reliable Unit)
          ⟨olderEntries, {}⟩ := by
  have hfirst : (exec (mirroringStore.saveIn (.of .ascending richVolume) : StoreM Reliable Unit)
      ⟨olderEntries, {}⟩).1 = .ok () := by
    rw [exec_saveIn _ _ _ (by decide) rfl rfl]
  refine ⟨hfirst, ?_⟩
  exact (saveIn_after_attempts mirroringStore richVolume olderEntries (.of .ascending _) backwards
    failedAttempts hfirst).1

end Store

end VolumeOverlay
