import VolumeOverlay.Proofs.Store.Convergence
import VolumeOverlay.Proofs.Store.History

/-!
# Round trip of records

A record that was saved is loaded again as it was, whatever was stored under its id before. It is
scattered over three subtrees, and in each of them keys of earlier records may be left. What makes the
round trip exact is that such keys are leaves: as long as every id is one segment, no command stores
anything deeper, so a leaf that is not wanted any more is found stale by its name and goes.

## Main definitions

* `Store.Command.IsFlat c`: a command that stores nothing deeper than the leaves of an object
* `Store.Restores store v w u`: a volume after the record of another one with its id was loaded

## Main results

* `Store.ReachedBy.direct`: after such commands, every key of an object is its own key or a leaf
* `Store.exists_loaded_recorded`: what is loaded after a record is written
* `Store.loadVolume_saveIn`: a record is saved just when it is fit for keys, and is then loaded as it
  was saved
-/

namespace VolumeOverlay

open Actions
open Text (hasPrefix)

namespace Store

variable {store : Store} {es : Entries} {v w : Volume}

/-! ### Flat contents -/

/-- A command that stores nothing deeper than the leaves of an object: the id of what it saves is one
segment once it is sanitized, and it is no plain call that stores bytes. -/
def Command.IsFlat : Command → Prop
  | .put .. => False
  | .saveVolume v => '/' ∉ (sanitize v.overlayId.text).toList
  | .saveLabels _ id _ => '/' ∉ (sanitize id).toList
  | .saveSnapshot s => '/' ∉ (sanitize s.snapshotId.text).toList
  | _ => True

/-- Directly in the subtree of an id that is one segment, keys have as many segments as a leaf. -/
theorem segmentCount_of_direct {c : Category} {id k : String} (hid : '/' ∉ (sanitize id).toList)
    (h : store.layout.Direct c id k) : segmentCount k = store.layout.leafDepth := by
  obtain ⟨leaf, hleaf, rfl⟩ := h
  rw [KeyLayout.subtree, KeyLayout.segmentCount_append_leaf, Text.countChar, Text.countChar,
    List.count_eq_zero.2 hid, List.count_eq_zero.2 hleaf, Nat.add_zero]

/-- No flat command stores a key with more segments than a leaf. -/
theorem Command.IsFlat.segmentCount_le {c : Command} (h : c.IsFlat) {k : String}
    (hk : c.Puts store k) : segmentCount k ≤ store.layout.leafDepth := by
  have hroot : ∀ d, segmentCount (store.layout.categoryRoot d) ≤ store.layout.leafDepth := fun d =>
    Nat.le_of_lt <|
      KeyLayout.segmentCount_lt_of_mem_fixedKeys (KeyLayout.categoryRoot_mem_fixedKeys d)
  cases c with
  | put => exact h.elim
  | eraseCategory d =>
    rw [show k = _ from hk]
    exact hroot d
  | eraseAll =>
    obtain ⟨d, rfl⟩ := hk
    exact hroot d
  | saveVolume v =>
    obtain ⟨d, -, hdirect⟩ := hk
    exact Nat.le_of_eq (segmentCount_of_direct h hdirect)
  | saveLabels d id => exact Nat.le_of_eq (segmentCount_of_direct h hk)
  | saveSnapshot s => exact Nat.le_of_eq (segmentCount_of_direct h hk)
  | _ => exact hk.elim

/-- After flat commands, every stored key of an object is its own key or a leaf. -/
theorem ReachedBy.direct (h : store.ReachedBy Command.IsFlat es) {c : Category} {id k : String}
    (hk : es.contains k) (hp : hasPrefix (store.layout.subtree c id) k) :
    store.layout.Direct c id k := by
  have hcount : segmentCount k ≤ store.layout.leafDepth := by
    rcases h.exists_puts hk with hfixed | ⟨d, hd, hputs⟩
    · exact Nat.le_of_lt (KeyLayout.segmentCount_lt_of_mem_fixedKeys hfixed)
    · exact hd.segmentCount_le hputs
  obtain ⟨leaf, rfl⟩ := Text.hasPrefix_iff_exists.1 hp
  refine ⟨leaf, fun hslash => ?_, rfl⟩
  have hpos := List.count_pos_iff.2 hslash
  rw [KeyLayout.subtree, KeyLayout.segmentCount_append_leaf] at hcount
  unfold Text.countChar at hcount
  omega

/-! ### What is loaded -/

/-- A volume after the record of another one with its id was loaded: the overlay is that of the other
volume, what the provider says of it stays, and stored fields are added where they are mirrored and
the volume has none of that name. -/
structure Restores (store : Store) (v w u : Volume) : Prop where
  overlayId : u.overlayId = w.overlayId
  attributes : { u.external with fields := w.external.fields } = w.external
  schedulers : u.schedulers = v.schedulers
  serviceName : u.serviceName = v.serviceName
  labels : u.labels = v.labels
  fields : ∀ name, u.external.fields.find? name =
    if store.persistFields then
      (w.external.fields.find? name).or (v.external.fields.find? name)
    else w.external.fields.find? name

/-- A subtree in which texts were saved, and which has no deeper keys, is read as those texts. -/
theorem texts_of_set {category : Category} {id : String} {labels : LabelMap}
    (hleaf : ∀ leaf ∈ labels.keys, isLeaf leaf = true)
    (hdirect : ∀ k, es.contains k → hasPrefix (store.layout.subtree category id) k →
      store.layout.Direct category id k)
    (hset : ∀ k a, Entries.SetByTexts (store.layout.subtree category id) labels.toList k a →
      es.find? k = a) :
    es.texts (store.layout.subtree category id) = labels := by
  refine Entries.texts_eq_of_find? hleaf (Entries.find?_of_set (fun leaf hmem => ?_) hset)
  obtain ⟨leaf', hslash, heq⟩ := hdirect _ hmem (Text.hasPrefix_append _ _)
  rwa [(String.append_right_inj _).1 heq]

/-- A record that is written where no deeper keys are left is loaded as it was written. -/
theorem exists_loaded_recorded (hlabels : checkLeaves v.labels.keys = .ok ())
    (hmirrored : store.checkMirrored v = .ok ()) (hw : w.overlayId = v.overlayId)
    (hdirect : ∀ c k, (store.recorded v es).contains k →
      hasPrefix (store.layout.subtree c v.overlayId.text) k →
        store.layout.Direct c v.overlayId.text k) :
    ∃ u, store.loaded w (store.recorded v es) = .ok (some u) ∧ store.Restores v w u := by
  have hset : ∀ {k a}, store.Sets v k a → (store.recorded v es).find? k = a := fun h =>
    find?_recorded_of_sets hlabels hmirrored h es
  have htexts : (store.recorded v es).texts (store.layout.subtree .adminLabels v.overlayId.text) =
      v.labels :=
    texts_of_set (checkLeaves_eq_ok_iff.1 hlabels) (hdirect .adminLabels) fun _ _ h => hset (.label h)
  rw [loaded_recorded hlabels hmirrored hw, htexts]
  refine ⟨_, rfl, rfl, rfl, rfl, rfl, rfl, fun name => ?_⟩
  dsimp only [merge]
  rw [KeyMap.find?_orElse]
  by_cases hp : store.persistFields = true
  · rw [checkMirrored_eq_ok_iff hp] at hmirrored
    rw [if_pos hp, if_pos hp, texts_of_set (checkLeaves_eq_ok_iff.1 hmirrored)
      (hdirect .externalFields) fun _ _ h => hset (.field hp h)]
  · rw [if_neg hp, if_neg hp]
    exact Option.or_none

/-! ### The round trip -/

/-- A record is saved just when its id and the names of its labels and mirrored fields are fit for
keys. -/
theorem effect_saveIn_eq_ok_iff (o : WriteOrder v) :
    (effect (store.saveIn o) es).1 = .ok () ↔
      sanitize v.overlayId.text ≠ "" ∧ checkLeaves v.labels.keys = .ok () ∧
        store.checkMirrored v = .ok () := by
  constructor
  · intro h
    dsimp only [effect] at h
    exact checks_of_exec_saveIn h
  · rintro ⟨hid, hlabels, hmirrored⟩
    rw [effect, exec_saveIn o es _ hid hlabels hmirrored]

/-- Saving a volume whose id is one segment leaves no deeper keys where there were none. -/
theorem direct_recorded (hes : store.ReachedBy Command.IsFlat es)
    (hv : '/' ∉ (sanitize v.overlayId.text).toList) (hid : sanitize v.overlayId.text ≠ "")
    (hlabels : checkLeaves v.labels.keys = .ok ()) (hmirrored : store.checkMirrored v = .ok ())
    {c : Category} {k : String} (hk : (store.recorded v es).contains k)
    (hp : hasPrefix (store.layout.subtree c v.overlayId.text) k) :
    store.layout.Direct c v.overlayId.text k := by
  have hsaved : (effect ((Command.saveVolume v).run store) es).2 = store.recorded v es := by
    rw [Command.effect_saveVolume, effect, exec_saveVolume (v := v) es _ hid,
      written_of_ok hlabels hmirrored]
  rw [← hsaved] at hk
  exact (ReachedBy.step (c := .saveVolume v) store.order hes hv).direct hk hp

/-- After any flat history, a volume whose id is one segment is saved just when its id and the names
of its labels and mirrored fields are fit for keys, in whatever order labels and fields are written.
It is then found by loading any volume with its id, with the schedulers, service and labels that were
saved, and with the saved fields that the other volume has none of its own for. -/
theorem loadVolume_saveIn (store : Store) {es : Entries} (hes : store.ReachedBy Command.IsFlat es)
    (v : Volume) (hv : '/' ∉ (sanitize v.overlayId.text).toList) (o : WriteOrder v) :
    let saved := effect (store.saveIn o) es
    (saved.1 = .ok () ↔
      sanitize v.overlayId.text ≠ "" ∧ checkLeaves v.labels.keys = .ok () ∧
        store.checkMirrored v = .ok ()) ∧
    (saved.1 = .ok () → ∀ w : Volume, w.overlayId = v.overlayId →
      ∃ u, effect (store.loadVolume w) saved.2 = (.ok (some u), saved.2) ∧
        store.Restores v w u) := by
  intro saved
  refine ⟨effect_saveIn_eq_ok_iff o, fun hok w hw => ?_⟩
  obtain ⟨hid, hlabels, hmirrored⟩ := (effect_saveIn_eq_ok_iff o).1 hok
  have hrecorded : saved.2 = store.recorded v es := by
    show (effect _ _).2 = _
    rw [effect, exec_saveIn o es _ hid hlabels hmirrored]
  obtain ⟨u, hu, hrestores⟩ := exists_loaded_recorded hlabels hmirrored hw
    fun c k => direct_recorded (c := c) hes hv hid hlabels hmirrored
  refine ⟨u, ?_, hrestores⟩
  rw [hrecorded, effect, exec_loadVolume (v := w) _ _ (hw ▸ hid), hu]

/-- The rich volume as it was once: with other schedulers, labels and fields. -/
def formerVolume : Volume :=
  { richVolume with
    external := { id := "v", fields := .ofList [("zone", "z")] }
    schedulers := ["nomad", "nomad"]
    labels := .ofList [("app", "db"), ("team", "x")] }

/-- The rich volume as the provider knows it, with a rack of its own. -/
def liveVolume : Volume where
  external := { id := "v", fields := .ofList [("rack", "r9")] }
  overlayId := ⟨"mock-v"⟩
  serviceName := ""
  schedulers := []
  labels := ∅

/-- Nothing of the former record is loaded, and the rack is the one that the provider tells. -/
theorem loadVolume_saveIn_rich :
    let former := mirroringStore.savedFresh formerVolume
    let saved := effect (mirroringStore.saveIn (.of .ascending richVolume)) former
    mirroringStore.ReachedBy Command.IsFlat former ∧ saved.1 = .ok () ∧
      ∃ u, effect (mirroringStore.loadVolume liveVolume) saved.2 = (.ok (some u), saved.2) ∧
        u.labels = richVolume.labels ∧ u.external.fields.find? "rack" = some "r9" ∧
          u.external.fields.find? "tier" = some "gold" ∧ u.external.fields.find? "zone" = none := by
  intro former saved
  have hformer : '/' ∉ (sanitize formerVolume.overlayId.text).toList := by decide
  have hreached : mirroringStore.ReachedBy Command.IsFlat former := reachedBy_savedFresh hformer
  obtain ⟨hfit, hload⟩ := loadVolume_saveIn mirroringStore hreached richVolume (by decide) (.of .ascending _)
  have hsaved : saved.1 = .ok () := hfit.2 ⟨by decide, rfl, rfl⟩
  obtain ⟨u, hu, hrestores⟩ := hload hsaved liveVolume rfl
  refine ⟨hreached, hsaved, u, hu, hrestores.labels, ?_, ?_, ?_⟩
  · exact (hrestores.fields _).trans (by decide)
  · exact (hrestores.fields _).trans (by decide)
  · exact (hrestores.fields _).trans (by decide)

end Store

end VolumeOverlay
