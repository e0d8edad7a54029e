import VolumeOverlay.Proofs.Store.Footprint
import VolumeOverlay.Proofs.Store.Reading

/-!
# Opening a store

Opening a store sets up its markers and roots, which are six keys. Whatever the store holds and
whichever calls fail on the way, no other key changes, and a version mark that is there stays. None of
the six keys is read as data: loading a record looks at keys inside the subtree of its id, and none of
the six is one; enumerating ids passes over keys with as few segments as the six have.

## Main definitions

* `KeyLayout.fixedKeys`: the root marker, the version key and the roots of the categories
* `Store.Command.reads c`: a command that reads records
* `Store.Preserved layout es es'`: nothing is lost between two states of the entries

## Main results

* `Store.preserved_setUp`: every attempt to open a store preserves what it holds
* `Store.opening_preserves`: opening without faults makes the store complete, once and for all
-/

namespace VolumeOverlay

open Actions
open Text (hasPrefix)

/-! ### The fixed keys -/

namespace KeyLayout

variable {layout : KeyLayout} {k : String}

/-- The keys that every store has. -/
def fixedKeys (layout : KeyLayout) : List String :=
  layout.rootMarker :: layout.versionKey :: Category.all.map layout.categoryRoot

theorem mem_fixedKeys_iff :
    k ∈ layout.fixedKeys ↔
      k = layout.rootMarker ∨ k = layout.versionKey ∨ ∃ c ∈ Category.all, k = layout.categoryRoot c := by
  simp only [fixedKeys, List.mem_cons, List.mem_map, eq_comm (a := k)]

theorem categoryRoot_mem_fixedKeys (c : Category) : layout.categoryRoot c ∈ layout.fixedKeys :=
  mem_fixedKeys_iff.2 (.inr (.inr ⟨c, by cases c <;> decide, rfl⟩))

/-- No key of an object is a fixed key. -/
theorem notMem_fixedKeys_of_hasPrefix {c : Category} {id : String}
    (h : hasPrefix (layout.subtree c id) k) : k ∉ layout.fixedKeys := by
  obtain ⟨leaf, rfl⟩ := Text.hasPrefix_iff_exists.1 h
  rw [mem_fixedKeys_iff]
  rintro (hroot | hversion | ⟨d, -, hd⟩)
  · exact subtree_append_ne_path (x := "") (by decide) (hroot.trans String.append_empty.symm)
  · exact subtree_append_ne_path (by decide) hversion
  · exact subtree_append_ne_categoryRoot hd

/-- A fixed key has fewer segments than the leaf of an object. -/
theorem segmentCount_lt_of_mem_fixedKeys (h : k ∈ layout.fixedKeys) :
    segmentCount k < layout.leafDepth := by
  rcases mem_fixedKeys_iff.1 h with rfl | rfl | ⟨c, -, rfl⟩
  · rw [segmentCount, leafDepth, rootMarker]
    omega
  · have hversion : Text.countChar '/' "version" = 0 := by decide
    rw [segmentCount, leafDepth, versionKey, Text.countChar_append, hversion]
    omega
  · have hsegment : Text.countChar '/' c.segment = 0 := by cases c <;> decide
    have hslash : Text.countChar '/' "/" = 1 := by decide
    rw [segmentCount, leafDepth, categoryRoot, Text.countChar_append, Text.countChar_append,
      hsegment, hslash]
    omega

end KeyLayout

namespace Store

/-- No id is read off a fixed key. -/
theorem markedId_of_mem_fixedKeys {layout : KeyLayout} {k : String} (h : k ∈ layout.fixedKeys) :
    markedId layout k = none := by
  have hcount := KeyLayout.segmentCount_lt_of_mem_fixedKeys h
  have hguard : (guard (segmentCount k = layout.leafDepth) : Option Unit) = none :=
    if_neg (Nat.ne_of_lt hcount)
  rw [markedId, hguard]
  rfl

/-! ### What is preserved -/

/-- A command that reads records. -/
def Command.reads : Command → Bool
  | .isRegistered _ | .loadVolume _ | .volumeIds | .loadSnapshot _ => true
  | _ => false

/-- Nothing is lost between two states of the entries: only fixed keys may have changed, a version
mark that was there is the same, and whatever is read of a record is read as before. -/
structure Preserved (layout : KeyLayout) (es es' : Entries) : Prop where
  agree : AgreeOff (· ∈ layout.fixedKeys) es es'
  version : es.contains layout.versionKey → es'.find? layout.versionKey = es.find? layout.versionKey
  answers : ∀ (store : Store) (c : Command), store.layout = layout → c.reads = true →
    (effect (c.run store) es').1 = (effect (c.run store) es).1

variable {store : Store} {es es' : Entries}

/-- Listing ids passes over the fixed keys. -/
theorem listedIds_of_agreeOff (h : AgreeOff (· ∈ store.layout.fixedKeys) es es') :
    ((es.startingWith (store.layout.categoryRoot .index)).filterMap fun e =>
        markedId store.layout e.1) =
      (es'.startingWith (store.layout.categoryRoot .index)).filterMap fun e =>
        markedId store.layout e.1 := by
  refine KeyMap.filterMap_startingWith_congr fun k _ hk => h k fun hmem => ?_
  rw [markedId_of_mem_fixedKeys hmem] at hk
  cases hk

/-- What is read of a record does not depend on the fixed keys. -/
theorem answers_of_agreeOff (h : AgreeOff (· ∈ store.layout.fixedKeys) es es') {c : Command}
    (hc : c.reads = true) : (effect (c.run store) es).1 = (effect (c.run store) es').1 := by
  -- A footprint inside the subtree of an id is away from the fixed keys.
  have hconfined : ∀ {S : String → Prop} {x : StoreM Reliable Answer}, Confined S x →
      (∀ k, S k → k ∉ store.layout.fixedKeys) → (effect x es).1 = (effect x es').1 := fun hx hS =>
    ((hx.sameOn (· ∉ store.layout.fixedKeys) hS).effect h).1
  have hrecord : ∀ id k, store.InRecord id k → k ∉ store.layout.fixedKeys :=
    fun id k ⟨_, _, hk⟩ => KeyLayout.notMem_fixedKeys_of_hasPrefix hk
  cases c <;> obtain ⟨⟩ := hc
  case isRegistered id => exact hconfined ((confined_isRegistered id).map _) (hrecord _)
  case loadVolume v =>
    refine hconfined (confined_loadVolume.bind fun answer => ?_) (hrecord _)
    cases answer <;> exact Confined.pure _
  case loadSnapshot s =>
    exact hconfined ((confined_loadTexts.map _).map _) fun k =>
      KeyLayout.notMem_fixedKeys_of_hasPrefix
  case volumeIds =>
    have hrun : ∀ es, (effect (Command.volumeIds.run store) es).1 =
        .ok (.ids ((es.startingWith (store.layout.categoryRoot .index)).filterMap fun e =>
          markedId store.layout e.1)) := fun es =>
      congrArg Prod.fst (exec_bind_of_ok (exec_volumeIds es {}))
    rw [hrun, hrun, listedIds_of_agreeOff h]

/-! ### Any medium -/

section Faults

variable {σ : Type} [FaultSource σ] [IoFaults σ]

/-- Where a version is marked, and no call fails as if there were none, marking it changes nothing. -/
theorem entries_markVersion {m : Medium σ} (h : m.entries.contains store.layout.versionKey) :
    (exec (store.markVersion : StoreM σ Unit) m).2.entries = m.entries := by
  obtain ⟨value, hvalue⟩ := KeyMap.contains_iff.1 h
  have hio := IoFaults.ne_notFound m.faults ⟨.get, store.layout.versionKey⟩
  unfold markVersion
  dsimp only
  rw [exec_tryCatch, exec_bind, StoreM.exec_get_eq, hvalue]
  cases hfault : (FaultSource.next m.faults ⟨.get, store.layout.versionKey⟩).1 with
  | none => rfl
  | some fault =>
    cases fault with
    | io => rfl -- The failure is no missing key, so it is passed on.
    | notFound => exact absurd hfault hio

/-- A version mark stays as it is, whichever calls fail. -/
theorem ensures_setUp_version (value : Bytes) :
    Ensures (fun m => m.entries.find? store.layout.versionKey = some value) (fun _ => True)
      (store.setUp : StoreM σ Unit) := by
  have hkept : ∀ {key : String}, store.layout.versionKey ≠ key → ∀ bytes,
      Moves (OnEntries σ (Stays fun es => es.find? store.layout.versionKey = some value))
        (StoreM.put key bytes : StoreM σ Unit) := fun hne bytes =>
    StoreM.moves_put fun m hm => (KeyMap.find?_insert_of_ne _ _ hne).trans hm
  have hstays : ∀ m m' : Medium σ,
      OnEntries σ (Stays fun es => es.find? store.layout.versionKey = some value) m m' →
        m.entries.find? store.layout.versionKey = some value →
          m'.entries.find? store.layout.versionKey = some value := fun _ _ h => h
  refine (Ensures.of_moves (hkept KeyLayout.versionKey_ne_rootMarker []) hstays).bind fun _ _ => ?_
  refine Ensures.bind (P := fun _ => True) (fun m hm => ⟨?_, fun _ _ => trivial⟩) fun _ _ => ?_
  · rw [entries_markVersion (KeyMap.contains_iff.2 ⟨value, hm⟩)]
    exact hm
  · refine Ensures.of_moves (Moves.forM fun c _ => hkept (fun heq => ?_) []) hstays
    have hprefix : hasPrefix (store.layout.categoryRoot c) store.layout.versionKey := by
      rw [heq]
      exact Text.hasPrefix_refl _
    exact KeyLayout.not_hasPrefix_versionKey hprefix

/-- Every attempt to open a store preserves what it holds, whichever calls fail. -/
theorem preserved_setUp (store : Store) (m : Medium σ) :
    Preserved store.layout m.entries (exec (store.setUp : StoreM σ Unit) m).2.entries := by
  have hmarks : Admits (OnEntries σ (AgreeOff (· ∈ store.layout.fixedKeys))) store.Marks :=
    (allows_agreeOff _).admits fun k a hk => by
      rcases hk with _ | _ | c
      · exact List.mem_cons_self
      · exact List.mem_cons_of_mem _ List.mem_cons_self
      · exact KeyLayout.categoryRoot_mem_fixedKeys c
  have hagree := moves_setUp hmarks m
  refine ⟨hagree, fun hversion => ?_, fun other c hlayout hc => ?_⟩
  · obtain ⟨value, hvalue⟩ := KeyMap.contains_iff.1 hversion
    rw [hvalue]
    exact (ensures_setUp_version value m hvalue).1
  · rw [← hlayout] at hagree
    exact (answers_of_agreeOff hagree hc).symm

end Faults

/-! ### Opening without faults -/

/-- A store that is open has every fixed key. -/
theorem contains_opened {k : String} (h : k ∈ store.layout.fixedKeys) :
    (store.opened es).contains k := by
  rw [KeyMap.contains, find?_opened]
  rcases KeyLayout.mem_fixedKeys_iff.1 h with rfl | rfl | hroot
  · split
    · rfl
    · rw [if_neg KeyLayout.versionKey_ne_rootMarker.symm, if_pos rfl]
      rfl
  · split
    · rfl
    · rw [if_pos rfl]
      cases es.find? store.layout.versionKey <;> rfl
  · rw [if_pos hroot]
    rfl

/-- A store that is open already is left as it is. -/
theorem opened_opened : store.opened (store.opened es) = store.opened es := by
  apply KeyMap.ext_find?
  intro k
  rw [find?_opened (store.opened es), find?_opened es]
  split
  · rfl
  · split
    · rw [Option.or_assoc, Option.or_self] -- The mark that was made stays.
    · split <;> rfl

/-- Only the layout of a store matters when it is set up. -/
theorem opened_congr {again : Store} (h : again.layout = store.layout) :
    again.opened es = store.opened es := by
  unfold opened
  rw [h]

theorem effect_setUp (store : Store) (es : Entries) :
    effect store.setUp es = (.ok (), store.opened es) := by
  rw [effect, exec_setUp]

/-- Opening a store preserves everything in it, under any root, whatever is stored and whichever calls
fail: at most the fixed keys change, a version that is marked stays, and records are read as before.
Without faults it succeeds, every fixed key is there afterwards, and opening once more changes
nothing. -/
theorem opening_preserves {σ : Type} [FaultSource σ] [IoFaults σ] (root : String) (persist : Bool)
    (es : Entries) (faults : σ) :
    let store : Store := { layout := .ofRoot root, persistFields := persist }
    Preserved store.layout es (exec (store.setUp : StoreM σ Unit) ⟨es, faults⟩).2.entries ∧
      ∃ es', effect store.setUp es = (.ok (), es') ∧ Preserved store.layout es es' ∧
        (∀ k ∈ store.layout.fixedKeys, es'.contains k) ∧
        ∀ again : Store, again.layout = .ofRoot root → effect again.setUp es' = (.ok (), es') := by
  intro store
  refine ⟨preserved_setUp store ⟨es, faults⟩, store.opened es, effect_setUp store es, ?_, ?_, ?_⟩
  · have hpreserved := preserved_setUp store (⟨es, {}⟩ : Medium Reliable)
    rw [exec_setUp] at hpreserved
    exact hpreserved
  · exact fun k hk => contains_opened hk
  · intro again hlayout
    have hsame : again.layout = store.layout := hlayout
    rw [effect_setUp, opened_congr hsame, opened_opened]

/-- An older version that is marked at the top survives an opening that fails at the first category. -/
theorem opening_preserves_outage :
    let store : Store := { layout := .ofRoot "", persistFields := true }
    let es : Entries := (∅ : Entries).insert "version" (Text.Utf8.encode "v0.0.9")
    let attempt := exec (store.setUp : StoreM Outages Unit) ⟨es, ⟨fun n => n == 2⟩⟩
    IoFaults Outages ∧ attempt.1.toOption = none ∧ Preserved store.layout es attempt.2.entries := by
  intro store es attempt
  exact ⟨inferInstance, by rfl, (opening_preserves "" true es _).1⟩

end Store

end VolumeOverlay
