import VolumeOverlay.Proofs.Store.History
import VolumeOverlay.Proofs.Store.Listing

/-!
# Enumeration and probing

Whether a volume is registered can be told in two ways: its marker is probed under the key of its
sanitized id, or its id is among those that are listed. On a store that was used for saving and
removing records, the two agree about an id just when the id is plain. Of any other id the marker lies
deeper than listing looks, or what is listed is the sanitized form, which is another id. Every listed
id is the sanitized form of one whose record is there, and none is listed twice.

## Main definitions

* `OverlayId.Accepted id`: an id that parses
* `Store.Command.OnRecords A c`: a command that saves or removes the record of an id of a class
* `Store.Enumerates A es ids`: what listed ids say about the registered ones of a class

## Main results

* `Store.exists_of_contains_markerAt`: a marker is that of an id whose record was saved
* `Store.enumerates_listed`: what is listed, after any history
* `Store.agreement_iff_isPlain`: listing and probing agree about plain ids, and about no others
-/

namespace VolumeOverlay

open Actions
open Text (hasPrefix)

/-! ### Accepted ids -/

/-- An id that is accepted as it stands. -/
def OverlayId.Accepted (id : OverlayId) : Prop :=
  parse id.text = .ok id

theorem OverlayId.Accepted.sanitize_ne_empty {id : OverlayId} (h : id.Accepted) :
    sanitize id.text ≠ "" := by
  obtain ⟨-, service, external, hsplit, -, -⟩ := parse_eq_ok_iff.1 h
  exact sanitize_ne_empty_of_mem (separator_mem_of_split hsplit)

namespace Store

variable {store : Store} {A : OverlayId → Prop} {es : Entries} {id : OverlayId}

/-! ### Where markers come from -/

/-- A command that saves or removes the record of an id of a class. -/
def Command.OnRecords (A : OverlayId → Prop) : Command → Prop
  | .saveVolume v => A v.overlayId
  | .removeVolume id => A id
  | _ => False

/-- Of the keys that lie directly in the subtrees of an id, only its own marker is a marker. -/
theorem eq_sanitize_of_direct {c : Category} {id x : String}
    (h : store.layout.Direct c id (store.layout.markerAt x)) : x = sanitize id := by
  obtain ⟨leaf, hslash, hk⟩ := h
  have hc : c = .index := by
    refine Decidable.byContradiction fun hne => ?_
    have hp : hasPrefix (store.layout.categoryRoot c) (store.layout.markerAt x) := by
      rw [hk]
      exact KeyLayout.hasPrefix_subtree_append
    exact (KeyLayout.categoryRoot_diverge hne).not_hasPrefix hp KeyLayout.hasPrefix_markerAt
  have hleaf : leaf = idLeaf := by
    have hlast := congrArg leafOf hk
    rw [leafOf_subtree hslash, KeyLayout.markerAt, leafOf_append (by decide)] at hlast
    exact (Except.ok.inj hlast).symm
  rw [hc, hleaf] at hk
  exact KeyLayout.markerAt_inj.1 hk

/-- A marker is that of an id whose record was saved. -/
theorem exists_of_contains_markerAt (h : store.ReachedBy (Command.OnRecords A) es) {x : String}
    (hx : es.contains (store.layout.markerAt x)) : ∃ id, A id ∧ x = sanitize id.text := by
  rcases h.exists_puts hx with hfixed | ⟨c, hc, hputs⟩
  · -- A fixed key has too few segments for a marker.
    have hcount := KeyLayout.segmentCount_lt_of_mem_fixedKeys hfixed
    rw [KeyLayout.segmentCount_markerAt] at hcount
    exact absurd hcount (Nat.not_lt_of_le (Nat.le_add_right _ _))
  · cases c <;> try exact hc.elim
    case saveVolume v =>
      obtain ⟨c, -, hdirect⟩ := hputs
      exact ⟨v.overlayId, hc, eq_sanitize_of_direct hdirect⟩
    case removeVolume => exact hputs.elim

/-! ### Listed and registered -/

theorem effect_isRegistered (hid : sanitize id.text ≠ "") :
    effect (store.isRegistered id) es = (.ok (es.contains (store.markerKey id.text)), es) := by
  rw [effect, exec_isRegistered es _ hid]

theorem effect_isRegistered_eq_true_iff (hid : sanitize id.text ≠ "") :
    effect (store.isRegistered id) es = (.ok true, es) ↔ es.contains (store.markerKey id.text) := by
  rw [effect_isRegistered hid]
  simp

/-- What listed ids say about the registered ones of a class: there are no repetitions, each is the
sanitized form of a registered id and is registered itself unless sanitizing it changes it, and a
plain id of the class is among them just when it is registered. -/
structure Enumerates (store : Store) (A : OverlayId → Prop) (es : Entries) (ids : List OverlayId) :
    Prop where
  nodup : ids.Nodup
  exists_of_mem : ∀ x ∈ ids, ∃ id, A id ∧ x.text = sanitize id.text ∧
    effect (store.isRegistered id) es = (.ok true, es)
  registered_of_mem : ∀ x ∈ ids, sanitize x.text = x.text →
    effect (store.isRegistered x) es = (.ok true, es)
  mem_iff : ∀ id, A id → id.IsPlain →
    (id ∈ ids ↔ effect (store.isRegistered id) es = (.ok true, es))

/-- After any history of records saved and removed, what is listed is what is registered. -/
theorem enumerates_listed (hA : ∀ id, A id → sanitize id.text ≠ "")
    (h : store.ReachedBy (Command.OnRecords A) es) : store.Enumerates A es (store.listed es) where
  nodup := nodup_listed store es
  exists_of_mem := by
    intro x hx
    obtain ⟨-, -, hmarker⟩ := mem_listed_iff.1 hx
    obtain ⟨id, hid, htext⟩ := exists_of_contains_markerAt h hmarker
    refine ⟨id, hid, htext, (effect_isRegistered_eq_true_iff (hA id hid)).2 ?_⟩
    rwa [markerKey_eq_markerAt, ← htext]
  registered_of_mem := by
    intro x hx hsanitize
    obtain ⟨hne, -, hmarker⟩ := mem_listed_iff.1 hx
    have hid : sanitize x.text ≠ "" := by rwa [hsanitize]
    refine (effect_isRegistered_eq_true_iff hid).2 ?_
    rwa [markerKey_eq_markerAt, hsanitize]
  mem_iff := by
    intro id hid hplain
    rw [effect_isRegistered_eq_true_iff (hA id hid)]
    exact mem_listed_iff_of_isPlain hplain

/-- A volume of which nothing is known but its id. -/
def bareVolume (id : OverlayId) : Volume where
  external := { id := "" }
  overlayId := id
  serviceName := ""
  schedulers := []
  labels := ∅

theorem checkMirrored_bareVolume (id : OverlayId) : store.checkMirrored (bareVolume id) = .ok () := by
  unfold checkMirrored
  split
  · exact checkLeaves_names.2 rfl
  · rfl

/-- A bare volume is saved whatever the store holds. -/
theorem effect_saveVolume_bareVolume (hid : sanitize id.text ≠ "") (es : Entries) :
    (effect ((Command.saveVolume (bareVolume id)).run store) es).2 =
      store.recorded (bareVolume id) es := by
  have hwritten : store.written (bareVolume id) es = (.ok (), store.recorded (bareVolume id) es) :=
    written_of_ok rfl (checkMirrored_bareVolume id)
  rw [Command.effect_saveVolume, effect, exec_saveVolume (v := bareVolume id) es _ hid, hwritten]

theorem reachedBy_bareVolume (hid : A id) :
    store.ReachedBy (Command.OnRecords A) (store.savedFresh (bareVolume id)) :=
  reachedBy_savedFresh hid

/-- The volume that was saved is registered. -/
theorem isRegistered_savedFresh (hid : sanitize id.text ≠ "") :
    effect (store.isRegistered id) (store.savedFresh (bareVolume id)) =
      (.ok true, store.savedFresh (bareVolume id)) := by
  rw [effect_isRegistered_eq_true_iff hid, savedFresh, effect_saveVolume_bareVolume hid,
    KeyMap.contains_iff]
  exact ⟨_, find?_recorded_of_sets rfl (checkMirrored_bareVolume id) .marker _⟩

/-- An id that is listed after it was saved by itself is plain. -/
theorem isPlain_of_mem_listed_savedFresh (h : id ∈ store.listed (store.savedFresh (bareVolume id))) :
    id.IsPlain := by
  obtain ⟨hne, hslash, hmarker⟩ := mem_listed_iff.1 h
  obtain ⟨_, rfl, htext⟩ :=
    exists_of_contains_markerAt (A := (· = id)) (reachedBy_bareVolume rfl) hmarker
  exact ⟨htext.symm, hne, hslash⟩

/-- After any history of saved and removed records of accepted ids, listing succeeds, repeats nothing,
and lists a plain id just when it is registered; what is listed is the sanitized form of a registered
id, and registered itself unless sanitizing changes it. The accepted ids about which listing and
probing agree after every such history are the plain ones. -/
theorem agreement_iff_isPlain (store : Store) :
    (∀ es, store.ReachedBy (Command.OnRecords OverlayId.Accepted) es →
      ∃ ids, effect store.volumeIds es = (.ok ids, es) ∧
        store.Enumerates OverlayId.Accepted es ids) ∧
    ∀ id : OverlayId, id.Accepted →
      ((∀ es, store.ReachedBy (Command.OnRecords OverlayId.Accepted) es →
          ∀ ids, effect store.volumeIds es = (.ok ids, es) →
            (id ∈ ids ↔ effect (store.isRegistered id) es = (.ok true, es))) ↔ id.IsPlain) := by
  have henumerates : ∀ {es}, store.ReachedBy (Command.OnRecords OverlayId.Accepted) es →
      store.Enumerates OverlayId.Accepted es (store.listed es) :=
    enumerates_listed fun _ hid => hid.sanitize_ne_empty
  refine ⟨fun es h => ⟨_, effect_volumeIds store es, henumerates h⟩, fun id hid => ⟨?_, ?_⟩⟩
  · intro hagree
    have hmem := hagree _ (reachedBy_bareVolume hid) _ (effect_volumeIds store _)
    exact isPlain_of_mem_listed_savedFresh (hmem.2 (isRegistered_savedFresh hid.sanitize_ne_empty))
  · intro hplain es h ids hids
    rw [effect_volumeIds] at hids
    obtain rfl := Except.ok.inj (Prod.mk.inj hids).1
    exact (henumerates h).mem_iff id hid hplain

/-- Under a root of two segments, a plain id that was saved is listed. -/
theorem agreement_iff_isPlain_saved :
    let store : Store := { layout := .ofRoot "a//b", persistFields := true }
    let id : OverlayId := ⟨"mock-vol-000"⟩
    let es := store.savedFresh (bareVolume id)
    id.Accepted ∧ id.IsPlain ∧ store.ReachedBy (Command.OnRecords OverlayId.Accepted) es ∧
      ∃ ids, effect store.volumeIds es = (.ok ids, es) ∧ id ∈ ids := by
  intro store id es
  have haccepted : OverlayId.Accepted ⟨"mock-vol-000"⟩ := rfl
  have hplain : id.IsPlain := ⟨by decide, by decide, by decide⟩
  have hreached : store.ReachedBy (Command.OnRecords OverlayId.Accepted) es :=
    reachedBy_bareVolume haccepted
  obtain ⟨ids, hids, -⟩ := (agreement_iff_isPlain store).1 _ hreached
  refine ⟨haccepted, hplain, hreached, ids, hids, ?_⟩
  refine (((agreement_iff_isPlain store).2 id haccepted).2 hplain _ hreached ids hids).2 ?_
  exact isRegistered_savedFresh haccepted.sanitize_ne_empty

/-- A registered id with a slash in it is not listed, and a blank that comes to light between slashes
makes a listed id that is not registered. -/
theorem not_agreement_nested_blank :
    (¬ ∀ (store : Store) (es : Entries),
      store.ReachedBy (Command.OnRecords OverlayId.Accepted) es →
        ∀ ids, effect store.volumeIds es = (.ok ids, es) →
          ∀ id : OverlayId, id.Accepted →
            (id ∈ ids ↔ effect (store.isRegistered id) es = (.ok true, es))) ∧
    ¬ ∀ (store : Store) (es : Entries),
      store.ReachedBy (Command.OnRecords OverlayId.Accepted) es →
        ∀ ids, effect store.volumeIds es = (.ok ids, es) →
          ∀ id ∈ ids, effect (store.isRegistered id) es = (.ok true, es) := by
  let store : Store := { layout := .ofRoot "polly" }
  constructor
  · intro h
    have hnested : OverlayId.Accepted ⟨"mock-a/b"⟩ := rfl
    have hmem := (h store _ (reachedBy_bareVolume hnested) _ (effect_volumeIds _ _) _ hnested).2
      (isRegistered_savedFresh hnested.sanitize_ne_empty)
    exact (mem_listed_iff.1 hmem).2.1 (by decide)
  · intro h
    have hblank : OverlayId.Accepted ⟨"/ mock-a/"⟩ := rfl
    have hmarker := (effect_isRegistered_eq_true_iff hblank.sanitize_ne_empty).1
      (isRegistered_savedFresh hblank.sanitize_ne_empty : effect (store.isRegistered _) _ = _)
    have hregistered := h store _ (reachedBy_bareVolume hblank) _ (effect_volumeIds _ _) ⟨" mock-a"⟩
      (mem_listed_iff.2 ⟨by decide, by decide, hmarker⟩)
    rw [effect_isRegistered_eq_true_iff (by decide)] at hregistered
    -- The only marker is the one that was saved, and that is no marker of the listed id.
    obtain ⟨_, rfl, htext⟩ := exists_of_contains_markerAt (A := (· = ⟨"/ mock-a/"⟩))
      (reachedBy_bareVolume rfl) hregistered
    exact absurd htext (by decide)

end Store

end VolumeOverlay
