import VolumeOverlay.Proofs.Reconciler.Run
import VolumeOverlay.Proofs.Store.FaultLog
import VolumeOverlay.Proofs.Store.Footprint
import VolumeOverlay.Provider.Inventory

/-!
# Reads under faults

Inspecting a volume and listing all volumes register what they find without a record, so they write.
Whichever calls fail on the way, they set only what writing those volumes sets. A volume with an
existence marker is found without a record only if its existence probe fails. As long as that does not
happen to a registered volume, a read keeps its scheduler list, keeps its labels too if nothing is
registered in whose record they lie, and keeps the whole record if everything that is registered is
apart from it. The conditions are needed. A record whose probe fails is made anew, and a volume that is
registered drops what it takes for stale labels in its subtree, those of an id inside it too.

## Main definitions

* `Reconciler.joinAll store vs`: volumes are joined with their records, and registered if need be
* `Reconciler.Registers store vs w v`: a volume is found without a record on the way, and registered
* `Reconciler.Read`: inspecting a volume or listing all of them
* `Read.live p`, `Read.Registers store w v`, `Read.after store w`: the volumes that a read joins, those
  that it registers, and what it leaves behind
* `OverlayId.Encloses a b`: the record of one id lies inside that of another

## Main results

* `Reconciler.moves_joinAll`: what joining volumes keeps comes from those that are registered
* `Reconciler.Registers.mem_failed`: a volume with a marker is registered only if its probe fails
* `Reconciler.agreeOff_after`: the keys that a read may change
* `Reconciler.reads_keep_record`: reads under faults keep a registered record
-/

namespace VolumeOverlay

open Actions
open Text (hasPrefix)

/-- The record of `b` lies inside that of `a`: with a slash behind it, the one sanitized id begins the
other. -/
def OverlayId.Encloses (a b : OverlayId) : Prop :=
  hasPrefix (sanitize a.text ++ "/") (sanitize b.text ++ "/")

/-- The key of the scheduler list of an id. -/
def Store.schedulersKey (store : Store) (id : String) : String :=
  store.layout.subtree .index id ++ schedulersLeaf

namespace Reconciler

open ReconcilerM

variable {π σ : Type}

/-! ### What store actions keep -/

/-- A relation between media as one between worlds. -/
def OnMedium (π : Type) (ρ : Medium σ → Medium σ → Prop) (w w' : World π σ) : Prop :=
  ρ w.medium w'.medium

instance (ρ : Medium σ → Medium σ → Prop) [Std.Refl ρ] : Std.Refl (OnMedium π ρ) where
  refl w := Std.Refl.refl w.medium

instance (ρ : Medium σ → Medium σ → Prop) [IsTrans _ ρ] : IsTrans _ (OnMedium π ρ) where
  trans w₁ w₂ w₃ := IsTrans.trans w₁.medium w₂.medium w₃.medium

theorem moves_onStore {ρ : Medium σ → Medium σ → Prop} {α : Type} {x : StoreM σ α}
    (h : Moves ρ x) : Moves (OnMedium π ρ) (onStore x : ReconcilerM π σ α) := fun w => by
  rw [exec_onStore]
  exact h w.medium

/-! ### Volumes that are registered -/

variable [FaultSource σ]

/-- Joins volumes with their records, one after the other; those without one are registered. -/
def joinAll (store : Store) (vs : List Volume) : ReconcilerM π σ (List (Option Volume)) :=
  vs.mapM fun v => reconcile store v .establish

/-- A volume of a list is found without a record when its turn comes, and is registered. -/
inductive Registers (store : Store) : List Volume → World π σ → Volume → Prop
  | head {v : Volume} {vs : List Volume} {w w' : World π σ}
      (h : exec (onStore (store.loadVolume v)) w = (.ok none, w')) : Registers store (v :: vs) w v
  | tail {v u : Volume} {vs : List Volume} {w w' : World π σ} {answer : Option Volume}
      (h : exec (reconcile store v .establish) w = (.ok answer, w'))
      (hrest : Registers store vs w' u) : Registers store (v :: vs) w u

variable {store : Store} {v : Volume} {vs : List Volume} {w w' : World π σ}
  {ρ : Medium σ → Medium σ → Prop}

theorem Registers.mem {u : Volume} (h : Registers store vs w u) : u ∈ vs := by
  induction h with
  | head h => exact List.mem_cons_self
  | tail h hrest ih => exact List.mem_cons_of_mem _ ih

/-- A volume that is found without a record is written. -/
theorem exec_establish_of_none (h : exec (onStore (store.loadVolume v)) w = (.ok none, w')) :
    exec (reconcile store v .establish) w =
      exec (onStore (store.saveVolume v) >>= fun _ => pure (some v)) w' := by
  rw [reconcile, exec_bind_of_ok h]

theorem moves_save [MediumOrder ρ] (h : Admits ρ (store.Sets v)) :
    Moves (OnMedium π ρ)
      (onStore (store.saveVolume v) >>= fun _ => pure (some v) : ReconcilerM π σ (Option Volume)) := by
  refine Moves.map (moves_onStore ?_) _
  exact Store.moves_saveVolumeInOrder (store.order.perm _) (store.order.perm _) h

/-- Joining a volume with its record keeps what writing the record keeps, and whatever there is to keep
if the record is found. -/
theorem moves_establish [MediumOrder ρ]
    (h : ∀ w', exec (onStore (store.loadVolume v)) w = (.ok none, w') → Admits ρ (store.Sets v)) :
    OnMedium π ρ w (exec (reconcile store v .establish) w).2 := by
  have hload : Moves (OnMedium π ρ) (onStore (store.loadVolume v) : ReconcilerM π σ _) :=
    moves_onStore (Store.moves_loadVolume v)
  cases hrun : exec (onStore (store.loadVolume v) : ReconcilerM π σ _) w with
  | mk answer w' =>
    have hloaded := hload.run hrun
    match answer with
    | .error e =>
      rw [reconcile, exec_bind_of_error hrun]
      exact hloaded
    | .ok (some loaded) =>
      rw [reconcile, exec_bind_of_ok hrun]
      exact hloaded
    | .ok none =>
      rw [exec_establish_of_none hrun]
      exact IsTrans.trans _ _ _ hloaded (moves_save (h w' hrun) w')

/-- Behind a volume that is joined with its record, the others are, unless it failed. -/
theorem exec_joinAll_cons_snd {answer : Option Volume}
    (h : exec (reconcile store v .establish) w = (.ok answer, w')) :
    (exec (joinAll store (v :: vs)) w).2 = (exec (joinAll store vs) w').2 := by
  rw [joinAll, List.mapM_cons, exec_bind_of_ok h]
  exact exec_bind_pure_snd _ _ w'

theorem moves_joinAll_cons [MediumOrder ρ]
    (h : ∀ answer w', exec (reconcile store v .establish) w = (.ok answer, w') →
      OnMedium π ρ w' (exec (joinAll store vs) w').2) :
    OnMedium π ρ (exec (reconcile store v .establish) w).2 (exec (joinAll store (v :: vs)) w).2 := by
  cases hrun : exec (reconcile store v .establish : ReconcilerM π σ _) w with
  | mk answer w' =>
    cases answer with
    | error e =>
      rw [joinAll, List.mapM_cons, exec_bind_of_error hrun]
      exact Std.Refl.refl w'
    | ok answer =>
      rw [exec_joinAll_cons_snd hrun]
      exact h answer w' hrun

/-- Joining volumes with their records keeps what writing those keeps that are registered. -/
theorem moves_joinAll [MediumOrder ρ]
    (h : ∀ v, Registers store vs w v → Admits ρ (store.Sets v)) :
    OnMedium π ρ w (exec (joinAll store vs) w).2 := by
  induction vs generalizing w with
  | nil => exact Std.Refl.refl w
  | cons v vs ih =>
    have hfirst : OnMedium π ρ w (exec (reconcile store v .establish) w).2 :=
      moves_establish fun w' hrun => h v (.head hrun)
    refine IsTrans.trans _ _ _ hfirst (moves_joinAll_cons fun answer w' hrun => ?_)
    exact ih fun u hu => h u (.tail hrun hu)

omit [FaultSource σ] in
/-- An existence marker is never taken away by a write. -/
theorem admits_marker (id : String) :
    Admits (OnEntries σ (Stays fun es => es.contains (store.markerKey id) = true)) (store.Sets v) where
  insert m k value hset hmarker := by
    show (m.entries.insert k value).contains (store.markerKey id) = true
    have hthere := KeyMap.contains_iff.1 hmarker
    rw [KeyMap.contains_iff, KeyMap.find?_insert]
    split
    · exact ⟨value, rfl⟩
    · exact hthere
  erase m k hset hmarker := by
    have hne : store.markerKey id ≠ k := by
      rintro rfl
      exact hset.ne_none_of_marker rfl
    exact (KeyMap.contains_eq_of_find?_eq (KeyMap.find?_erase_of_ne _ hne)).trans hmarker

/-- A volume with an existence marker is registered only if its probe fails on the way. -/
theorem Registers.mem_failed {w : World π (Logged σ)} (h : Registers store vs w v)
    (hmarker : w.medium.entries.contains (store.markerKey v.overlayId.text) = true) :
    store.probe v.overlayId.text ∈ (exec (joinAll store vs) w).2.medium.faults.failed := by
  induction h with
  | @head v vs w w' h =>
    -- The failed probe is in the log, and the log only grows from there.
    have hfailed := Store.exec_loadVolume_none (exec_of_onStore_ok h) hmarker
    have hadmits : ∀ u : Volume, Admits (LogGrows (σ := σ)) (store.Sets u) := fun u =>
      (allows_logGrows fun _ => True).admits fun _ _ _ => trivial
    have hsaved := moves_save (π := π) (hadmits v) w'
    rw [← exec_establish_of_none h] at hsaved
    have hrest : OnMedium π LogGrows _ (exec (joinAll store (v :: vs)) w).2 :=
      moves_joinAll_cons fun _ _ _ => moves_joinAll fun u _ => hadmits u
    have hgrows := LogGrows.trans hsaved hrest
    exact hgrows.mem hfailed
  | @tail v u vs w w' answer h hrest ih =>
    rw [exec_joinAll_cons_snd h]
    have hstays : OnMedium π _ w (exec (reconcile store v .establish) w).2 :=
      moves_establish fun _ _ => admits_marker u.overlayId.text
    rw [h] at hstays
    exact ih (hstays hmarker)

/-! ### Reads -/

variable [VolumeProvider π]

/-- The operations that look at volumes, and register them on the way. -/
inductive Read where
  | inspect (text : String)
  | listAll (filter : Filter)

namespace Read

/-- A read as a command. -/
def command : Read → Command
  | .inspect text => .inspect text
  | .listAll filter => .listAll filter

/-- The live volumes that a read joins with their records: the one that is asked for, or all. -/
def live (p : π) : Read → List Volume
  | .inspect text => Option.toList do
    let id ← (OverlayId.parse text).toOption
    let (service, volumeId) ← id.split
    let external ← (VolumeProvider.inspect p service volumeId).toOption
    return .ofExternal service external
  | .listAll _ => (VolumeProvider.volumes p).toOption.getD []

/-- What a read leaves behind, whether it answers or fails. -/
def after (store : Store) (read : Read) (w : World π σ) : World π σ :=
  (exec (read.command.run store : ReconcilerM π σ _) w).2

/-- A read registers a volume: it finds the volume live and without a record. -/
def Registers (store : Store) (read : Read) (w : World π σ) (v : Volume) : Prop :=
  Reconciler.Registers store (read.live w.provider) w v

/-- A read leaves behind what joining its live volumes with their records leaves behind. -/
theorem after_eq (store : Store) (read : Read) (w : World π σ) :
    read.after store w = (exec (joinAll store (read.live w.provider)) w).2 := by
  cases read with
  | listAll filter =>
    unfold after command Command.run Reconciler.listAll
    rw [exec_bind_pure_snd, exec_bind, exec_ask, live]
    cases VolumeProvider.volumes w.provider with
    | error e => rfl
    | ok vs => exact exec_bind_pure_snd _ _ w
  | inspect text =>
    unfold after command Command.run Reconciler.inspect parseId
    rw [exec_bind_pure_snd, exec_bind, exec_ofResult, live]
    cases hparse : OverlayId.parse text with
    | error e => rfl
    | ok id =>
      obtain ⟨service, volumeId, hsplit⟩ := exists_split hparse
      show (exec (lookUp store id) w).2 = (exec (joinAll store (Option.toList (id.split.bind _))) w).2
      unfold lookUp
      rw [exec_bind_of_ok (exec_splitId hsplit w), hsplit]
      dsimp only [Option.bind_some]
      rw [exec_bind, exec_askVolume]
      cases VolumeProvider.inspect w.provider service volumeId with
      | error e => cases e <;> rfl
      | ok external =>
        show (exec (reconcile store (.ofExternal service external) .establish >>= _) w).2 =
          (exec (joinAll store [.ofExternal service external]) w).2
        rw [joinAll, List.mapM_cons, List.mapM_nil, exec_bind, exec_bind]
        -- Neither the answer to an inspection nor that to a listing changes the world any more.
        cases hrun : exec (reconcile store (.ofExternal service external) .establish) w with
        | mk answer w' =>
          rcases answer with _ | _ | _ <;> rfl

end Read

/-- A read changes only keys that writing the volumes sets which it registers. -/
theorem agreeOff_after (store : Store) (read : Read) (w : World π σ) :
    Store.AgreeOff (fun k => ∃ v a, read.Registers store w v ∧ store.Sets v k a)
      w.medium.entries (read.after store w).medium.entries := by
  rw [read.after_eq store w]
  refine moves_joinAll (ρ := OnEntries σ (Store.AgreeOff _)) fun v hv => ?_
  exact (Store.allows_agreeOff _).admits fun k a hset => ⟨v, a, hv, hset⟩

/-- A read leaves the record of a registered volume as it is, whatever calls fail, as long as the
existence probe of that record is not among them. The scheduler list stays in any case, each label
unless the read registers a volume whose record encloses this one, and every key if all that the read
registers is apart from it. What a read registers is live and has no existence marker, or its probe
has failed. -/
theorem reads_keep_record (store : Store) (read : Read) (r : OverlayId) (w : World π (Logged σ))
    (hr : w.medium.entries.contains (store.markerKey r.text) = true)
    (hprobe : store.probe r.text ∉ (read.after store w).medium.faults.failed) :
    let es := w.medium.entries
    let es' := (read.after store w).medium.entries
    es'.find? (store.schedulersKey r.text) = es.find? (store.schedulersKey r.text) ∧
    ((∀ v, read.Registers store w v → ¬ v.overlayId.Encloses r) →
      ∀ k, store.layout.Direct .adminLabels r.text k → es'.find? k = es.find? k) ∧
    ((∀ v, read.Registers store w v → v.overlayId.Apart r) →
      ∀ k, store.InRecord r.text k → es'.find? k = es.find? k) ∧
    ∀ v, read.Registers store w v → v ∈ read.live w.provider ∧
      (es.contains (store.markerKey v.overlayId.text) = false ∨
        store.probe v.overlayId.text ∈ (read.after store w).medium.faults.failed) := by
  intro es es'
  have hregistered : ∀ v, read.Registers store w v →
      es.contains (store.markerKey v.overlayId.text) = true →
        store.probe v.overlayId.text ∈ (read.after store w).medium.faults.failed := by
    intro v hv hmarker
    rw [read.after_eq store w]
    exact hv.mem_failed hmarker
  have hkept : ∀ k, (∀ v a, read.Registers store w v → ¬ store.Sets v k a) →
      es'.find? k = es.find? k := by
    intro k hk
    refine (agreeOff_after store read w k ?_).symm
    rintro ⟨v, a, hv, hset⟩
    exact hk v a hv hset
  refine ⟨hkept _ fun v a hv hset => ?_, fun houtside k hk => hkept k fun v a hv hset => ?_,
    fun hapart k hk => hkept k fun v a hv hset => ?_, fun v hv => ⟨hv.mem, ?_⟩⟩
  · -- The list is written for a volume with the same marker only, whose probe is the same then.
    have hmarkers : store.markerKey v.overlayId.text = store.markerKey r.text :=
      congrArg (· ++ Store.idLeaf) (hset.subtree_index_eq (by decide))
    apply hprobe
    rw [Store.probe, ← hmarkers]
    exact hregistered v hv (by rw [hmarkers]; exact hr)
  · obtain ⟨leaf, hleaf, rfl⟩ := hk
    exact houtside v hv (KeyLayout.hasPrefix_subtree_iff.1 (hset.hasPrefix_subtree hleaf))
  · exact hset.inRecord.not_of_apart (hapart v hv) hk
  · cases hmarker : es.contains (store.markerKey v.overlayId.text) with
    | false => exact .inl rfl
    | true => exact .inr (hregistered v hv hmarker)

/-! ### Runs that need the conditions -/

/-- A store whose root is `polly`. -/
def pollyStore : Store where
  layout := .ofRoot "polly"

/-- An inventory whose only volume is `mock-v`. -/
def oneVolume : Inventory where
  volumes := .ofList [("mock", .ofList [("v", { id := "v" })])]
  nextNumber := 1

/-- The record of `mock-v`, offered to one scheduler. -/
def offeredEntries : Entries :=
  .ofList [("polly/volumeinternallabels/mock-v/ID", Text.Utf8.encode "mock-v"),
    ("polly/volumeinternallabels/mock-v/Schedulers", Text.Utf8.encode "[\"mesos\"]")]

/-- The record of `mock-v/x`, with one label. -/
def nestedEntries : Entries :=
  .ofList [("polly/volumeinternallabels/mock-v/x/ID", Text.Utf8.encode "mock-v/x"),
    ("polly/volumeadmin/mock-v/x/color", Text.Utf8.encode "red")]

/-- An inventory with the volumes `mock-v` and `mock-v/x`. -/
def twoVolumes : Inventory where
  volumes := .ofList [("mock", .ofList [("v", { id := "v" }), ("v/x", { id := "v/x" })])]
  nextNumber := 2

/-- The live volume `mock-v` and its record, on a medium with faults. -/
def offeredWorld (faults : ArmedFaults) : World Inventory (Logged ArmedFaults) :=
  ⟨oneVolume, offeredEntries, ⟨faults, []⟩⟩

/-- The live volume `mock-v` and the record of `mock-v/x`, on a medium without faults. -/
def nestedWorld : World Inventory (Logged Reliable) :=
  ⟨oneVolume, nestedEntries, ⟨{}, []⟩⟩

/-- The live volumes `mock-v` and `mock-v/x` and their records, on a medium that fails to list. -/
def registeredWorld : World Inventory (Logged ArmedFaults) :=
  ⟨twoVolumes, offeredEntries.insertMany nestedEntries.toList, ⟨[{ kind := .list }], []⟩⟩

/-- Listing all volumes leaves the record of `mock-v/x` as it is beside that of `mock-v`, which encloses
it but is registered too, also when a listing of the backend fails. -/
theorem reads_keep_record_list_fault :
    registeredWorld.medium.entries.contains (pollyStore.markerKey "mock-v/x") = true ∧
      pollyStore.probe "mock-v/x" ∉
        ((Read.listAll .all).after pollyStore registeredWorld).medium.faults.failed ∧
      ∀ k, pollyStore.InRecord "mock-v/x" k →
        ((Read.listAll .all).after pollyStore registeredWorld).medium.entries.find? k =
          registeredWorld.medium.entries.find? k := by
  have hmarker : registeredWorld.medium.entries.contains (pollyStore.markerKey "mock-v/x") = true := by
    decide +kernel
  have hlog : ((Read.listAll .all).after pollyStore registeredWorld).medium.faults.failed =
      [⟨.list, "polly/volumeinternallabels/mock-v/"⟩] := by
    decide +kernel
  have hprobe : pollyStore.probe "mock-v/x" ∉
      ((Read.listAll .all).after pollyStore registeredWorld).medium.faults.failed := by
    rw [hlog]
    decide +kernel
  -- Both volumes have their markers, and no probe fails, so nothing is registered.
  have hall : ∀ v ∈ (Read.listAll .all).live twoVolumes,
      registeredWorld.medium.entries.contains (pollyStore.markerKey v.overlayId.text) = true ∧
        pollyStore.probe v.overlayId.text ∉
          ((Read.listAll .all).after pollyStore registeredWorld).medium.faults.failed := by
    rw [hlog]
    decide +kernel
  obtain ⟨-, -, hkept, hregisters⟩ :=
    reads_keep_record pollyStore (.listAll .all) ⟨"mock-v/x"⟩ registeredWorld hmarker hprobe
  refine ⟨hmarker, hprobe, hkept fun v hv => ?_⟩
  obtain ⟨hlive, habsent | hfailed⟩ := hregisters v hv
  · rw [(hall v hlive).1] at habsent
    cases habsent
  · exact absurd hfailed (hall v hlive).2

/-- The scheduler list of a registered volume is lost when its existence probe fails, and a label is
lost without any fault when a live volume is registered whose record encloses the one it belongs to. -/
theorem not_reads_keep_record :
    (¬ ∀ (store : Store) (read : Read) (r : OverlayId) (w : World Inventory (Logged ArmedFaults)),
      w.medium.entries.contains (store.markerKey r.text) = true →
        (read.after store w).medium.entries.find? (store.schedulersKey r.text) =
          w.medium.entries.find? (store.schedulersKey r.text)) ∧
    ¬ ∀ (store : Store) (read : Read) (r : OverlayId) (w : World Inventory (Logged Reliable)),
      w.medium.entries.contains (store.markerKey r.text) = true →
        ∀ k, store.layout.Direct .adminLabels r.text k →
          (read.after store w).medium.entries.find? k = w.medium.entries.find? k := by
  constructor
  · intro h
    have hkept := h pollyStore (.inspect "mock-v") ⟨"mock-v"⟩ (offeredWorld [{ kind := .exists }]) rfl
    have hlost : (((Read.inspect "mock-v").after pollyStore
        (offeredWorld [{ kind := .exists }])).medium.entries.find?
          (pollyStore.schedulersKey "mock-v")).isSome = false := by decide +kernel
    rw [hkept] at hlost
    exact absurd hlost (by decide +kernel)
  · intro h
    have hkept := h pollyStore (.listAll .all) ⟨"mock-v/x"⟩ nestedWorld rfl
      "polly/volumeadmin/mock-v/x/color" ⟨"color", by decide, by decide⟩
    have hlost : (((Read.listAll .all).after pollyStore nestedWorld).medium.entries.find?
        "polly/volumeadmin/mock-v/x/color").isSome = false := by decide +kernel
    rw [hkept] at hlost
    exact absurd hlost (by decide +kernel)

end Reconciler

end VolumeOverlay
