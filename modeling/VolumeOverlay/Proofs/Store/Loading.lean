import VolumeOverlay.Proofs.Store.Convergence
import VolumeOverlay.Proofs.Store.FaultLog
import VolumeOverlay.Proofs.Store.Footprint
import VolumeOverlay.Proofs.Store.Reading

/-!
# Loading under faults

Whatever a load reads it finds in the entries, or it fails: as long as no call fails as if its key held
nothing, loading never takes a part of a record for all of it. A volume is therefore left as it was, or
as a load without faults leaves it.

## Main definitions

* `Store.Keeps v w`: a volume that differs from another one in what may be loaded
* `AsWithoutFaults es faults x y`: an action fails or answers as without faults, and changes nothing

## Main results

* `Store.ensures_loadVolume_effect`: what is loaded under faults
* `Store.loading_all_or_nothing`: a load that does not come to its end has not begun
-/

namespace VolumeOverlay

open Actions

namespace Store

variable {σ : Type} [FaultSource σ] {store : Store} {v : Volume}

/-- A volume that differs from another one in what may be loaded: schedulers, service, labels and, where
they are mirrored, fields that it did not have. -/
structure Keeps (store : Store) (v w : Volume) : Prop where
  overlayId : w.overlayId = v.overlayId
  attributes : { w.external with fields := v.external.fields } = v.external
  fields : ∀ name value, v.external.fields.find? name = some value →
    w.external.fields.find? name = some value
  unmirrored : store.persistFields = false → w.external.fields = v.external.fields

omit [FaultSource σ] in
/-- A merged volume differs in what may be loaded only, if fields are merged where they are mirrored. -/
theorem keeps_merge (entry : IndexEntry) (labels : LabelMap) {fields : LabelMap}
    (hfields : store.persistFields = false → fields = ∅) :
    store.Keeps v (merge v entry labels fields) where
  overlayId := rfl
  attributes := rfl
  fields := by
    intro name value hvalue
    dsimp only [merge]
    rw [KeyMap.find?_orElse, hvalue, Option.some_or]
  unmirrored := by
    intro hp
    dsimp only [merge]
    rw [hfields hp, KeyMap.orElse_empty]

/-- An action that changes no entry and, whatever its source of faults does, fails or answers as it does
without faults. -/
def AsWithoutFaults {α : Type} (es : Entries) (faults : σ) (x : StoreM σ α)
    (y : StoreM Reliable α) : Prop :=
  (exec x ⟨es, faults⟩).2.entries = es ∧
    ∀ a, (exec x ⟨es, faults⟩).1 = .ok a → effect y es = (.ok a, es)

variable {es : Entries} [IoFaults σ]

omit [FaultSource σ] [IoFaults σ] in
/-- What an action ensures of the entries, it does under any source of faults. -/
theorem AsWithoutFaults.of_ensures {α : Type} {x : StoreM σ α} {y : StoreM Reliable α}
    (h : Ensures (HasEntries es) (fun a => effect y es = (.ok a, es)) x) (faults : σ) :
    AsWithoutFaults es faults x y :=
  h ⟨es, faults⟩ rfl

theorem ensures_loadTexts_effect (category : Category) (id : String) :
    Ensures (HasEntries es) (fun texts => effect (store.loadTexts category id) es = (.ok texts, es))
      (store.loadTexts category id : StoreM σ LabelMap) := by
  refine (Ensures.liftExcept _).bind fun key hkey => ?_
  obtain ⟨hid, rfl⟩ := KeyLayout.objectKey_eq_ok_iff.1 hkey
  refine (StoreM.ensures_listOrNone _).bind fun pairs hpairs => Ensures.pure ?_
  rw [effect, exec_loadTexts es _ hid, hpairs, Entries.texts]

theorem ensures_loadSnapshot_effect (s : SnapshotOverlay) :
    Ensures (HasEntries es) (fun found => effect (store.loadSnapshot s) es = (.ok found, es))
      (store.loadSnapshot s : StoreM σ SnapshotOverlay) := by
  refine (ensures_loadTexts_effect _ _).bind fun texts htexts => Ensures.pure ?_
  exact effect_bind_of_ok htexts

theorem ensures_volumeIds_effect :
    Ensures (HasEntries es) (fun ids => effect store.volumeIds es = (.ok ids, es))
      (store.volumeIds : StoreM σ (List OverlayId)) := by
  refine (StoreM.ensures_listOrNone _).bind fun pairs hpairs => Ensures.pure ?_
  rw [effect, exec_volumeIds, hpairs]

/-- A volume that is loaded under faults is the one that is loaded without, and differs from what it was
before only in what may be loaded. -/
theorem ensures_loadVolume_effect (v : Volume) :
    Ensures (HasEntries es)
      (fun answer => ∀ w, answer = some w →
        effect (store.loadVolume v) es = (.ok (some w), es) ∧ store.Keeps v w)
      (store.loadVolume v : StoreM σ (Option Volume)) := by
  rw [(inPlace_loadInto (σ := σ) store v).loadVolume_eq]
  refine (Ensures.liftExcept _).bind fun key hkey => ?_
  obtain ⟨hid, rfl⟩ := KeyLayout.objectKey_eq_ok_iff.1 hkey
  refine (ensures_probe hid).bind fun registered hregistered => ?_
  cases registered with
  | false => exact Ensures.pure fun w hw => nomatch hw
  | true =>
    refine (StoreM.ensures_list _).bind fun pairs hpairs => ?_
    refine (Ensures.liftExcept _).bind fun entry hentry => ?_
    refine (ensures_loadTexts _ _).bind fun labels hlabels => ?_
    rw [hpairs] at hentry
    have hloaded : effect (store.loadVolume v) es = (.ok (some (merge v entry labels
        (if store.persistFields then
          es.texts (store.layout.subtree .externalFields v.overlayId.text) else ∅))), es) := by
      rw [effect, exec_loadVolume es _ hid, loaded]
      dsimp only
      rw [if_pos (hregistered rfl), hentry, hlabels]
      rfl
    by_cases hp : store.persistFields = true
    · rw [if_pos hp] at hloaded ⊢
      refine (ensures_loadTexts _ _).bind fun fields hfields => Ensures.pure ?_
      rintro w ⟨⟩
      rw [hfields]
      exact ⟨hloaded, keeps_merge entry labels fun hnot => absurd hp (Bool.eq_false_iff.1 hnot)⟩
    · rw [if_neg hp] at hloaded ⊢
      refine Ensures.pure ?_
      rintro w ⟨⟩
      exact ⟨hloaded, keeps_merge entry labels fun _ => rfl⟩

/-- Loading is all or nothing, whatever is stored and whichever calls fail, as long as none fails as if
its key held nothing. No entry is changed. A load that fails, or finds the volume not registered,
leaves it as it was; one that succeeds leaves the volume that a load without faults leaves, which
differs from what it was in schedulers, service, labels and missing fields only. A volume is found not
registered only if its marker is not there or was probed in vain. Texts, snapshots and ids are read in
full or not at all. -/
theorem loading_all_or_nothing (store : Store) (es : Entries) (faults : σ) (v : Volume) :
    let run := exec (store.loadInto : LoadM σ Bool) (⟨es, faults⟩, v)
    (run.2.1.entries = es ∧
      (run.1 ≠ .ok true → run.2.2 = v) ∧
      (run.1 = .ok true →
        exec (store.loadInto : LoadM Reliable Bool) (⟨es, {}⟩, v) =
          (.ok true, (⟨es, {}⟩, run.2.2)) ∧ store.Keeps v run.2.2) ∧
      (run.1 = .ok false → es.contains (store.markerKey v.overlayId.text) = false ∨
        (FaultSource.next faults (store.probe v.overlayId.text)).1.isSome)) ∧
    (∀ category id, AsWithoutFaults es faults (store.loadTexts category id)
      (store.loadTexts category id)) ∧
    (∀ s, AsWithoutFaults es faults (store.loadSnapshot s) (store.loadSnapshot s)) ∧
    AsWithoutFaults es faults store.volumeIds store.volumeIds := by
  intro run
  refine ⟨?_, fun category id => .of_ensures (ensures_loadTexts_effect category id) faults,
    fun s => .of_ensures (ensures_loadSnapshot_effect s) faults,
    .of_ensures ensures_volumeIds_effect faults⟩
  have hensures : Ensures (HasEntries es) _ (store.loadVolume v : StoreM σ _) :=
    ensures_loadVolume_effect v
  obtain ⟨hentries, hfound⟩ := hensures ⟨es, faults⟩ rfl
  have hrun : run = placed v (exec (store.loadVolume v) ⟨es, faults⟩) := exec_loadInto _ v
  rw [hrun]
  cases hload : exec (store.loadVolume v : StoreM σ _) ⟨es, faults⟩ with
  | mk answer m =>
    rw [hload] at hentries hfound
    match answer with
    | .error e => exact ⟨hentries, fun _ => rfl, nofun, nofun⟩
    | .ok none =>
      refine ⟨hentries, fun _ => rfl, nofun, fun _ => ?_⟩
      exact (eq_of_exec_loadVolume_none hload).2.symm
    | .ok (some w) =>
      obtain ⟨heffect, hkeeps⟩ := hfound _ rfl w rfl
      refine ⟨hentries, fun hnot => absurd rfl hnot, fun _ => ⟨?_, hkeeps⟩, nofun⟩
      rw [exec_loadInto, exec_of_effect heffect]
      rfl

/-! ### A load that is cut short -/

/-- The entries of a volume that is registered, and of which nothing else is stored. -/
def markedEntries : Entries :=
  (∅ : Entries).insert (mirroringStore.markerKey "mock-v") []

/-- An outage at the third call. -/
def thirdCall : Outages where
  fails n := n == 2

/-- Texts from last to first. -/
def fromLast : TextOrder where
  list texts := texts.toList.reverse
  perm _ := List.reverse_perm _

/-- A volume whose labels cannot be listed is left as it was. -/
theorem loading_all_or_nothing_outage :
    IoFaults Outages ∧
      ∃ run, exec (mirroringStore.inOrder fromLast).loadInto
          (⟨markedEntries, thirdCall⟩, richVolume) = run ∧
        run.1.toOption = none ∧ run.2.1.entries = markedEntries ∧ run.2.2 = richVolume := by
  have hfails : (exec (mirroringStore.inOrder fromLast).loadInto
      (⟨markedEntries, thirdCall⟩, richVolume)).1.toOption = none := by decide +kernel
  have hload := (loading_all_or_nothing (mirroringStore.inOrder fromLast) markedEntries thirdCall
    richVolume).1
  refine ⟨inferInstance, _, rfl, hfails, hload.1, hload.2.1 fun hok => ?_⟩
  rw [hok] at hfails
  cases hfails

end Store

end VolumeOverlay
