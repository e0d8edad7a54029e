import VolumeOverlay.Proofs.Reconciler.ReadSafety
import VolumeOverlay.Proofs.Store.NestedLeaves

/-!
# Registration starts clean

A volume without an existence marker is registered when it is looked up, whatever else is left under
its id: the scheduler list and the labels of a former record, deeper keys, or what some other writer
put there. The record that is written removes or overwrites all of it that a load would pick up. The
scheduler list is dropped, the service name is written, and since no label is wanted, every key of the
label subtree that has a last segment is deleted as stale, however deep it lies. What stays under the
id is seen by no load.

## Main results

* `Store.loaded_recorded_ofExternal`: a record written without schedulers and labels is loaded without
  them, whatever there was before
* `Reconciler.joined_of_registered`, `joined_of_unregistered`: the join of a volume that has a record,
  and of one that gets one
* `Reconciler.inspect_registers_clean`: looking up a volume without a marker, and all reads after it
-/

namespace VolumeOverlay

open Actions

/-! ### The record of a volume as its provider reports it -/

namespace Store

variable {store : Store} {w : Volume} {es : Entries} (service : String) (external : ExternalVolume)

/-- A volume without labels is written in full where fields are not mirrored. -/
theorem written_ofExternal (hp : store.persistFields = false) (es : Entries) :
    store.written (.ofExternal service external) es =
      (.ok (), store.recorded (.ofExternal service external) es) := by
  apply written_of_ok
  · rfl
  · rw [checkMirrored, hp]
    rfl

/-- Where no label is wanted, no key is left that would be loaded as one. -/
theorem texts_recorded_ofExternal (es : Entries) :
    (store.recorded (.ofExternal service external) es).texts
      (store.layout.subtree .adminLabels (OverlayId.of service external.id).text) = ∅ := by
  have hnone : ∀ leaf ∈ (∅ : LabelMap).keys, isLeaf leaf = true := fun leaf hleaf =>
    absurd hleaf List.not_mem_nil
  -- A deeper key can only stand for a label that was wanted, and there is none.
  exact (Entries.texts_withTexts_eq_iff hnone).2 fun name text htext => nomatch htext

/-- The record of a volume without schedulers and labels is loaded without them, whatever stood under
its id before. -/
theorem loaded_recorded_ofExternal (hp : store.persistFields = false)
    (hw : w.overlayId = .of service external.id) (es : Entries) :
    store.loaded w (store.recorded (.ofExternal service external) es) =
      .ok (some { w with schedulers := [], labels := ∅, serviceName := service }) := by
  obtain ⟨hlabels, hmirrored, -⟩ := written_eq_ok_iff.1 (written_ofExternal service external hp es)
  have htexts : (store.recorded (.ofExternal service external) es).texts
      (store.layout.subtree .adminLabels (Volume.ofExternal service external).overlayId.text) = ∅ :=
    texts_recorded_ofExternal service external es
  rw [loaded_recorded hlabels hmirrored hw, htexts, hp, if_neg Bool.false_ne_true, merge,
    KeyMap.orElse_empty]
  rfl

end Store

/-! ### Looking up -/

namespace Reconciler

variable {store : Store} {v w : Volume} {es : Entries}

/-- The join of a volume that has a record reads the record. -/
theorem joined_of_registered (h : store.loaded v es = .ok (some w)) :
    joined store v es = (.ok w, es) := by
  rw [joined, h]

/-- The join of a volume that has none writes one, which says what the provider reports. -/
theorem joined_of_unregistered {service : String} {external : ExternalVolume}
    (hp : store.persistFields = false)
    (hmarker : es.contains (store.markerKey (OverlayId.of service external.id).text) = false) :
    joined store (.ofExternal service external) es =
      (.ok (.ofExternal service external), store.recorded (.ofExternal service external) es) := by
  have hloaded : store.loaded (.ofExternal service external) es = .ok none :=
    Store.loaded_of_not_contains hmarker
  rw [joined, hloaded]
  dsimp only
  rw [Store.written_ofExternal service external hp es]
  rfl

variable {π : Type} [VolumeProvider π]

/-- A live volume that has no existence marker is registered clean when it is looked up, whatever else
is stored under its id: the volume comes with no schedulers, no labels and the name of its service, and
so does every volume that is loaded or looked up under this id afterwards, as long as nothing is
written under it. These reads leave all entries as they are. -/
theorem inspect_registers_clean {text service volumeId : String} {id : OverlayId}
    (hp : store.persistFields = false) (hparse : OverlayId.parse text = .ok id)
    (hsplit : id.split = some (service, volumeId)) {p : π} {external : ExternalVolume}
    (hlive : VolumeProvider.inspect p service volumeId = .ok external)
    (hmarker : es.contains (store.markerKey (OverlayId.of service external.id).text) = false)
    (s : Reliable) :
    ∃ es', exec (inspect store text : ReconcilerM π Reliable Volume) ⟨p, es, s⟩ =
        (.ok { external, overlayId := .of service external.id, serviceName := service,
               schedulers := [], labels := ∅ }, ⟨p, es', s⟩) ∧
      ∀ later, Store.AgreeOn (store.InRecord (OverlayId.of service external.id).text) es' later →
        (∀ v : Volume, v.overlayId = .of service external.id →
          exec (store.loadVolume v : StoreM Reliable (Option Volume)) ⟨later, s⟩ =
            (.ok (some { v with schedulers := [], labels := ∅, serviceName := service }),
              ⟨later, s⟩)) ∧
        ∀ (p' : π) (external' : ExternalVolume),
          VolumeProvider.inspect p' service volumeId = .ok external' → external'.id = external.id →
            exec (inspect store text : ReconcilerM π Reliable Volume) ⟨p', later, s⟩ =
              (.ok { external := external', overlayId := .of service external.id,
                     serviceName := service, schedulers := [], labels := ∅ }, ⟨p', later, s⟩) := by
  refine ⟨store.recorded (.ofExternal service external) es, ?_, fun later hagree => ?_⟩
  · -- Without a marker the record is written afresh.
    rw [exec_inspect p es s hparse hsplit, hlive]
    dsimp only [asked]
    rw [joined_of_unregistered hp hmarker]
    rfl
  · -- From then on the record is there, and its keys decide what is loaded.
    have hload : ∀ v : Volume, v.overlayId = .of service external.id → store.loaded v later =
        .ok (some { v with schedulers := [], labels := ∅, serviceName := service }) := by
      intro v hv
      rw [← Store.loaded_recorded_ofExternal service external hp hv es]
      refine (Store.loaded_congr fun k hk => hagree k ?_).symm
      rwa [← hv]
    constructor
    · intro v hv
      have hid : sanitize v.overlayId.text ≠ "" := by
        rw [hv]
        exact sanitize_ofExternal service external
      rw [Store.exec_loadVolume later s hid, hload v hv]
    · intro p' external' hlive' hid
      have hv : (Volume.ofExternal service external').overlayId = .of service external.id := by
        rw [← hid]
        rfl
      rw [exec_inspect p' later s hparse hsplit, hlive']
      dsimp only [asked]
      rw [joined_of_registered (hload _ hv), hv]
      rfl

/-- What is left of a record whose marker was erased: its schedulers and a label, and a deeper key that
ends like the label. -/
def debrisEntries : Entries :=
  .ofList [("polly/volumeadmin/mock-v/color", Text.Utf8.encode "red"),
    ("polly/volumeadmin/mock-v/x/color", Text.Utf8.encode "blue"),
    ("polly/volumeinternallabels/mock-v/Schedulers", Text.Utf8.encode "[\"mesos\"]")]

/-- The volume `mock-v` as one who still knows its scheduler would have it loaded. -/
def offeredVolume : Volume where
  external := { id := "v" }
  overlayId := ⟨"mock-v"⟩
  serviceName := ""
  schedulers := ["mesos"]

/-- Neither the scheduler nor the labels come back, when the volume is looked up and when it is loaded
thereafter. -/
theorem inspect_registers_clean_debris :
    debrisEntries.contains (pollyStore.markerKey "mock-v") = false ∧
      ∃ es', exec (inspect pollyStore "mock-v" : ReconcilerM Inventory Reliable Volume)
          ⟨oneVolume, debrisEntries, {}⟩ =
            (.ok (.ofExternal "mock" { id := "v" }), ⟨oneVolume, es', {}⟩) ∧
        exec (pollyStore.loadVolume offeredVolume : StoreM Reliable (Option Volume)) ⟨es', {}⟩ =
          (.ok (some (.ofExternal "mock" { id := "v" })), ⟨es', {}⟩) := by
  have hparse : OverlayId.parse "mock-v" = .ok ⟨"mock-v"⟩ := by decide
  have hsplit : OverlayId.split ⟨"mock-v"⟩ = some ("mock", "v") := by decide
  have hlive : VolumeProvider.inspect oneVolume "mock" "v" = .ok { id := "v" } := by decide
  have hmarker : debrisEntries.contains (pollyStore.markerKey "mock-v") = false := by decide +kernel
  obtain ⟨es', hinspect, hlater⟩ :=
    inspect_registers_clean (by rfl) hparse hsplit hlive hmarker {}
  exact ⟨hmarker, es', hinspect, (hlater es' fun _ _ => rfl).1 offeredVolume rfl⟩

end Reconciler

end VolumeOverlay
