import VolumeOverlay.Proofs.Store.InPlace
import VolumeOverlay.Proofs.Store.Index
import VolumeOverlay.Proofs.Store.Texts

/-!
# Records in the key space

The record of a volume lies in the subtrees of its id. Writing and removing it changes keys there and
nowhere else, whichever call fails; reading it changes nothing, and what is read is decided by the
keys there. Without faults each of the three is a function of the entries.

## Main definitions

* `Store.InRecord id k`: a key of the record of an id
* `Store.indexed v`, `Store.recorded v`, `Store.removed id`: the entries after the index part of a
  record is written, after all of it is, and after a record is removed
* `Store.checkMirrored v`: the check of the fields that are written beside a record
* `Store.Sets v`: what writing a record sets which keys to
* `Store.markedWith id key`: entries with an existence marker and one more key
* `Store.written v es`, `Store.loaded v es`: what writing a record and loading a volume answer
* `Store.writtenInOrder v labels fields es`: what writing a record in given orders answers

## Main results

* `moves_saveVolumeInOrder`, `moves_saveVolume`, `moves_removeVolume`, `moves_loadVolume`: what every
  run of the three keeps
* `exec_saveVolume`, `exec_removeVolume`, `exec_loadVolume`: the three without faults
* `writtenInOrder_eq_ok_iff`: the order in which labels and fields are written does not matter
* `find?_recorded_of_sets`, `find?_recorded_of_not_sets`: a written record, key by key
* `written_eq_ok_iff`: a record is written in full just when its labels and fields are fine
* `loaded_congr`, `loaded_of_contains`: what loading answers is decided by the keys of the record
* `loaded_recorded`: what loading answers behind a write
-/

namespace VolumeOverlay

open Actions
open Text (hasPrefix)

variable {σ : Type} [FaultSource σ]

namespace Store

variable (store : Store)

/-- A key of the record of an id. -/
def InRecord (id k : String) : Prop :=
  ∃ category ∈ Category.ofVolumes, hasPrefix (store.layout.subtree category id) k

/-- The key of the existence marker of an id. -/
def markerKey (id : String) : String :=
  store.layout.subtree .index id ++ idLeaf

/-- The entries after a scheduler list is stored under a key. -/
def withSchedulers (key : String) (names : List String) (es : Entries) : Entries :=
  match Schedulers.encode names with
  | some value => es.insert key value
  | none => es.erase key

/-- The entries after the index part of a record is written. -/
def indexed (v : Volume) (es : Entries) : Entries :=
  let key := store.layout.subtree .index v.overlayId.text
  let marked := (es.insert key []).insert (store.markerKey v.overlayId.text)
    (Text.Utf8.encode v.overlayId.text)
  (withSchedulers (key ++ schedulersLeaf) v.schedulers marked).insert (key ++ serviceNameLeaf)
    (Text.Utf8.encode v.serviceName)

/-- The entries after the mirrored fields of a volume are written, if the store mirrors them. -/
def mirrored (v : Volume) (es : Entries) : Entries :=
  if store.persistFields then
    es.withTexts (store.layout.subtree .externalFields v.overlayId.text) v.external.fields.toList
  else es

/-- The entries after a record is written. -/
def recorded (v : Volume) (es : Entries) : Entries :=
  (store.mirrored v (store.indexed v es)).withTexts
    (store.layout.subtree .adminLabels v.overlayId.text) v.labels.toList

/-- The entries after a record is removed. -/
def removed (id : String) (es : Entries) : Entries :=
  Category.ofVolumes.foldl (fun es c => es.eraseStartingWith (store.layout.subtree c id)) es

/-- The check of the names of the fields that are written beside a record. -/
def checkMirrored (v : Volume) : Except StoreError Unit :=
  if store.persistFields then checkLeaves (store.order.names v.external.fields) else .ok ()

/-- What writing a record answers, and the entries after it. Nothing is written when a label cannot be
a leaf; behind the index part the record is given up when a mirrored field cannot. -/
def written (v : Volume) (es : Entries) : Except StoreError Unit × Entries :=
  match checkLeaves (store.order.names v.labels) with
  | .error e => (.error e, es)
  | .ok () =>
    match store.checkMirrored v with
    | .error e => (.error e, store.indexed v es)
    | .ok () => (.ok (), store.recorded v es)

/-- The entries after a record is written with its labels and fields in the given orders. -/
def recordedInOrder (v : Volume) (labels fields : List (String × String)) (es : Entries) : Entries :=
  let id := v.overlayId.text
  let mirrored :=
    if store.persistFields then
      (store.indexed v es).withTexts (store.layout.subtree .externalFields id) fields
    else store.indexed v es
  mirrored.withTexts (store.layout.subtree .adminLabels id) labels

/-- What writing a record answers when its labels and fields come in the given orders, and the entries
after it. -/
def writtenInOrder (v : Volume) (labels fields : List (String × String)) (es : Entries) :
    Except StoreError Unit × Entries :=
  match checkLeaves (labels.map (·.1)) with
  | .error e => (.error e, es)
  | .ok () =>
    match if store.persistFields then checkLeaves (fields.map (·.1)) else .ok () with
    | .error e => (.error e, store.indexed v es)
    | .ok () => (.ok (), store.recordedInOrder v labels fields es)

/-- What writing the record of a volume sets the keys of its subtrees to. -/
inductive Sets (v : Volume) : String → Option Bytes → Prop
  | root : Sets v (store.layout.subtree .index v.overlayId.text) (some [])
  | marker : Sets v (store.markerKey v.overlayId.text) (some (Text.Utf8.encode v.overlayId.text))
  | schedulers : Sets v (store.layout.subtree .index v.overlayId.text ++ schedulersLeaf)
      (Schedulers.encode v.schedulers)
  | serviceName : Sets v (store.layout.subtree .index v.overlayId.text ++ serviceNameLeaf)
      (some (Text.Utf8.encode v.serviceName))
  | field {k : String} {a : Option Bytes} (hp : store.persistFields = true)
      (h : Entries.SetByTexts (store.layout.subtree .externalFields v.overlayId.text)
        v.external.fields.toList k a) : Sets v k a
  | label {k : String} {a : Option Bytes}
      (h : Entries.SetByTexts (store.layout.subtree .adminLabels v.overlayId.text)
        v.labels.toList k a) : Sets v k a

/-- What loading a volume answers. -/
def loaded (v : Volume) (es : Entries) : Except StoreError (Option Volume) :=
  let id := v.overlayId.text
  if es.contains (store.markerKey id) then
    let key := store.layout.subtree .index id
    (IndexEntry.ofEntries key (es.startingWith key)).map fun entry =>
      some <| merge v entry (es.texts (store.layout.subtree .adminLabels id))
        (if store.persistFields then es.texts (store.layout.subtree .externalFields id) else ∅)
  else .ok none

variable {store} {v : Volume} {id : String}

theorem inRecord_of_hasPrefix {category : Category} {k : String}
    (h : hasPrefix (store.layout.subtree category id) k) (hc : category ∈ Category.ofVolumes) :
    store.InRecord id k :=
  ⟨category, hc, h⟩

/-- The records of ids that are apart have no key in common. -/
theorem InRecord.not_of_apart {a b : OverlayId} {k : String} (h : store.InRecord a.text k)
    (hab : a.Apart b) : ¬ store.InRecord b.text k := by
  rintro ⟨d, -, hd⟩
  obtain ⟨c, -, hc⟩ := h
  exact (KeyLayout.subtree_diverge hab c d).not_hasPrefix hc hd

theorem hasPrefix_markerKey :
    hasPrefix (store.layout.subtree .index id) (store.markerKey id) :=
  Text.hasPrefix_append _ _

theorem inRecord_markerKey : store.InRecord id (store.markerKey id) :=
  inRecord_of_hasPrefix hasPrefix_markerKey (by decide)

/-- Only keys of the record are set. -/
theorem Sets.inRecord {k : String} {a : Option Bytes} (h : store.Sets v k a) :
    store.InRecord v.overlayId.text k := by
  cases h with
  | root => exact inRecord_of_hasPrefix (Text.hasPrefix_refl _) (by decide)
  | marker => exact inRecord_markerKey
  | schedulers => exact inRecord_of_hasPrefix (Text.hasPrefix_append _ _) (by decide)
  | serviceName => exact inRecord_of_hasPrefix (Text.hasPrefix_append _ _) (by decide)
  | field hp h => exact inRecord_of_hasPrefix h.inSubtree (by decide)
  | label h => exact inRecord_of_hasPrefix h.inSubtree (by decide)

/-- A key right under an object is set only by the write of an object in which that one lies. -/
theorem Sets.hasPrefix_subtree {c : Category} {leaf : String} {a : Option Bytes}
    (h : store.Sets v (store.layout.subtree c id ++ leaf) a) (hleaf : '/' ∉ leaf.toList) :
    hasPrefix (store.layout.subtree c v.overlayId.text) (store.layout.subtree c id) := by
  obtain ⟨d, -, hd⟩ := h.inRecord
  obtain rfl : d = c := by
    refine Decidable.byContradiction fun hne => ?_
    exact (KeyLayout.subtree_diverge_of_ne hne _ _).not_hasPrefix hd (Text.hasPrefix_append _ _)
  exact (Text.isPath_append_slash _).hasPrefix_of_append hleaf hd

/-- In the index, a write sets keys right under its object, and empties none but the scheduler list. -/
theorem Sets.of_index {k : String} {a : Option Bytes} (h : store.Sets v k a)
    (hk : hasPrefix (store.layout.categoryRoot .index) k) :
    ∃ leaf : String, '/' ∉ leaf.toList ∧
      k = store.layout.subtree .index v.overlayId.text ++ leaf ∧ (a = none → leaf = schedulersLeaf) := by
  have hother : ∀ {c : Category}, c ≠ .index →
      ¬ hasPrefix (store.layout.subtree c v.overlayId.text) k := fun hc hsubtree =>
    (KeyLayout.categoryRoot_diverge hc).not_hasPrefix
      (Text.hasPrefix_trans KeyLayout.hasPrefix_subtree hsubtree) hk
  cases h with
  | root => exact ⟨"", by decide, String.append_empty.symm, nofun⟩
  | marker => exact ⟨idLeaf, by decide, rfl, nofun⟩
  | schedulers => exact ⟨schedulersLeaf, by decide, rfl, fun _ => rfl⟩
  | serviceName => exact ⟨serviceNameLeaf, by decide, rfl, nofun⟩
  | field hp h => exact absurd h.inSubtree (hother (by decide))
  | label h => exact absurd h.inSubtree (hother (by decide))

/-- A leaf of the index is set only by the write of an object with the same subtree. -/
theorem Sets.subtree_index_eq {leaf : String} {a : Option Bytes}
    (h : store.Sets v (store.layout.subtree .index id ++ leaf) a) (hleaf : '/' ∉ leaf.toList) :
    store.layout.subtree .index v.overlayId.text = store.layout.subtree .index id := by
  obtain ⟨leaf', hleaf', heq, -⟩ := h.of_index KeyLayout.hasPrefix_subtree_append
  exact (Text.isPath_append_slash _).eq_of_append_eq (Text.isPath_append_slash _) hleaf' hleaf heq.symm

/-- No write takes an existence marker away. -/
theorem Sets.ne_none_of_marker {a : Option Bytes} (h : store.Sets v (store.markerKey id) a) :
    a ≠ none := by
  rintro rfl
  have hsubtree := h.subtree_index_eq (by decide)
  obtain ⟨leaf, -, heq, hleaf⟩ := h.of_index KeyLayout.hasPrefix_subtree_append
  rw [hleaf rfl, hsubtree, markerKey, String.append_right_inj] at heq
  exact absurd heq (by decide)

/-- What a record is does not depend on the order of texts. -/
theorem Sets.inOrder {k : String} {a : Option Bytes} (h : store.Sets v k a) (order : TextOrder) :
    (store.inOrder order).Sets v k a := by
  cases h with
  | root => exact .root
  | marker => exact .marker
  | schedulers => exact .schedulers
  | serviceName => exact .serviceName
  | field hp h => exact .field hp h
  | label h => exact .label h

/-! ### Any medium -/

section Moves

variable {ρ : Medium σ → Medium σ → Prop} [MediumOrder ρ]

theorem moves_saveSchedulers {key : String} {names : List String}
    (h : Admits ρ fun k a => k = key ∧ a = Schedulers.encode names) :
    Moves ρ (saveSchedulers key names : StoreM σ Unit) := by
  unfold saveSchedulers
  split
  · rename_i value hvalue
    exact StoreM.moves_put fun m => h.insert m _ _ ⟨rfl, hvalue.symm⟩
  · rename_i hnone
    exact StoreM.moves_delete fun m => h.erase m _ ⟨rfl, hnone.symm⟩

/-- What writing a record keeps comes from its index part, its fields and its labels. -/
theorem moves_saveVolume_parts {labels fields : List (String × String)}
    (hindex : Admits ρ fun k a =>
      store.Sets v k a ∧ store.layout.Direct .index v.overlayId.text k)
    (hfields : store.persistFields = true →
      Moves ρ (store.saveTexts .externalFields v.overlayId.text fields : StoreM σ Unit))
    (hlabels : Moves ρ (store.saveTexts .adminLabels v.overlayId.text labels : StoreM σ Unit)) :
    Moves ρ (store.saveVolumeInOrder v labels fields : StoreM σ Unit) := by
  have hleaf : ∀ {leaf : String}, '/' ∉ leaf.toList → store.layout.Direct .index v.overlayId.text
      (store.layout.subtree .index v.overlayId.text ++ leaf) := KeyLayout.direct_append
  refine moves_objectKey_bind ((Moves.liftExcept _).bind fun _ => ?_)
  refine Moves.bind ?_ fun _ => Moves.bind ?_ fun _ => Moves.bind ?_ fun _ => Moves.bind ?_ fun _ => ?_
  · exact StoreM.moves_put fun m => hindex.insert m _ _ ⟨.root, KeyLayout.direct_subtree⟩
  · exact StoreM.moves_put fun m => hindex.insert m _ _ ⟨.marker, hleaf (by decide)⟩
  · refine moves_saveSchedulers (hindex.mono ?_)
    rintro k a ⟨rfl, rfl⟩
    exact ⟨.schedulers, hleaf (by decide)⟩
  · exact StoreM.moves_put fun m => hindex.insert m _ _ ⟨.serviceName, hleaf (by decide)⟩
  · by_cases hp : store.persistFields = true
    · rw [if_pos hp]
      exact (hfields hp).bind fun _ => hlabels
    · rw [if_neg hp]
      exact hlabels

/-- Every change that writing a record makes is one of those it is for, in whatever order labels and
fields come. -/
theorem moves_saveVolumeInOrder {labels fields : List (String × String)}
    (hlabels : labels.Perm v.labels.toList) (hfields : fields.Perm v.external.fields.toList)
    (h : Admits ρ (store.Sets v)) :
    Moves ρ (store.saveVolumeInOrder v labels fields : StoreM σ Unit) := by
  refine moves_saveVolume_parts (h.mono fun _ _ hset => hset.1) (fun hp => ?_) ?_
  · exact moves_saveTextsOf _ (h.mono fun _ _ hset => .field hp (hset.of_perm hfields))
  · exact moves_saveTextsOf _ (h.mono fun _ _ hset => .label (hset.of_perm hlabels))

/-- Writing a record changes keys of that record only. -/
theorem moves_saveVolume (h : Allows ρ (store.InRecord v.overlayId.text)) :
    Moves ρ (store.saveVolume v : StoreM σ Unit) :=
  moves_saveVolumeInOrder (store.order.perm _) (store.order.perm _)
    (h.admits fun _ _ hset => hset.inRecord)

/-- Every change that removing a record makes is that a key of it goes. -/
theorem moves_removeVolumeOf {id : OverlayId}
    (h : Admits ρ fun k a => store.InRecord id.text k ∧ a = none) :
    Moves ρ (store.removeVolume id : StoreM σ Unit) := by
  refine Moves.forM fun c hc => moves_objectKey_bind ?_
  exact StoreM.moves_deleteTree fun m => h.eraseStartingWith m fun k hk => ⟨⟨c, hc, hk⟩, rfl⟩

/-- Removing a record changes keys of that record only. -/
theorem moves_removeVolume {id : OverlayId} (h : Allows ρ (store.InRecord id.text)) :
    Moves ρ (store.removeVolume id : StoreM σ Unit) :=
  moves_removeVolumeOf (h.admits fun _ _ hk => hk.1)

theorem moves_isRegistered (id : OverlayId) :
    Moves ρ (store.isRegistered id : StoreM σ Bool) :=
  (Moves.liftExcept _).bind fun _ => StoreM.moves_exists? _

/-- A volume is taken for registered if its marker is there and the check does not fail. -/
theorem exec_probe {id : OverlayId} (hid : sanitize id.text ≠ "") (m : Medium σ) :
    exec (tryCatch (store.isRegistered id) fun _ => pure false : StoreM σ Bool) m =
      let asked := FaultSource.next m.faults ⟨.exists, store.markerKey id.text⟩
      (.ok (asked.1.isNone && m.entries.contains (store.markerKey id.text)),
        { m with faults := asked.2 }) := by
  have hreg : (store.isRegistered id : StoreM σ Bool) =
      StoreM.exists? (store.markerKey id.text) := by
    unfold isRegistered
    rw [KeyLayout.objectKey_eq_ok hid]
    rfl
  rw [exec_tryCatch, hreg, StoreM.exec_exists?_eq]
  dsimp only
  cases (FaultSource.next m.faults ⟨.exists, store.markerKey id.text⟩).1 <;> rfl

/-- Loading a volume changes no entry. -/
theorem moves_loadVolume (v : Volume) :
    Moves ρ (store.loadVolume v : StoreM σ (Option Volume)) := by
  rw [(inPlace_loadInto store v).loadVolume_eq]
  refine (Moves.liftExcept _).bind fun key => ?_
  refine (Moves.tryCatch (moves_isRegistered _) fun _ => Moves.pure _).bind fun b => ?_
  cases b with
  | false => exact Moves.pure _
  | true =>
    refine (StoreM.moves_list _).bind fun pairs => (Moves.liftExcept _).bind fun entry => ?_
    refine moves_loadTexts.bind fun labels => ?_
    by_cases hp : store.persistFields = true
    · rw [if_pos hp]
      exact moves_loadTexts.bind fun fields => Moves.pure _
    · rw [if_neg hp]
      exact (Moves.pure _).bind fun fields => Moves.pure _

end Moves

/-- An id of which nothing is left is refused before anything is written. -/
theorem exec_saveVolumeInOrder_of_blank (hid : sanitize v.overlayId.text = "")
    (labels fields : List (String × String)) (m : Medium σ) :
    exec (store.saveVolumeInOrder v labels fields : StoreM σ Unit) m =
      (.error (.invalidIdentifier "object id must not be empty"), m) := by
  unfold saveVolumeInOrder
  dsimp only
  rw [KeyLayout.objectKey_eq_error hid, exec_bind_of_error (exec_liftExcept _ _)]

/-! ### Orders of labels and fields -/

theorem checkMirrored_eq_ok_iff (hp : store.persistFields = true) :
    store.checkMirrored v = .ok () ↔ checkLeaves v.external.fields.keys = .ok () := by
  rw [checkMirrored, if_pos hp, checkLeaves_names]

/-- Nothing is checked of the fields of a store that does not mirror them. -/
theorem checkMirrored_of_not (hp : store.persistFields = false) : store.checkMirrored v = .ok () := by
  rw [checkMirrored, hp, if_neg Bool.false_ne_true]

/-- The order in which labels and fields are written does not matter. -/
theorem recordedInOrder_of_perm {labels fields : List (String × String)}
    (hlabels : labels.Perm v.labels.toList) (hfields : fields.Perm v.external.fields.toList)
    {es : Entries} (hcheck : checkLeaves v.labels.keys = .ok ())
    (hmirrored : store.checkMirrored v = .ok ()) :
    store.recordedInOrder v labels fields es = store.recorded v es := by
  have hleaf : ∀ t ∈ labels, isLeaf t.1 = true := fun t ht =>
    checkLeaves_eq_ok_iff.1 hcheck t.1 (List.mem_map_of_mem (hlabels.mem_iff.1 ht))
  have hnodup : (labels.map (·.1)).Nodup := (hlabels.map _).nodup_iff.2 v.labels.nodup_keys
  unfold recordedInOrder recorded mirrored
  dsimp only
  rw [Entries.withTexts_perm hleaf hnodup hlabels]
  by_cases hp : store.persistFields = true
  · rw [checkMirrored_eq_ok_iff hp] at hmirrored
    have hleaf' : ∀ t ∈ fields, isLeaf t.1 = true := fun t ht =>
      checkLeaves_eq_ok_iff.1 hmirrored t.1 (List.mem_map_of_mem (hfields.mem_iff.1 ht))
    have hnodup' : (fields.map (·.1)).Nodup :=
      (hfields.map _).nodup_iff.2 v.external.fields.nodup_keys
    rw [if_pos hp, if_pos hp, Entries.withTexts_perm hleaf' hnodup' hfields]
  · rw [if_neg hp, if_neg hp]

/-- A record that is written in the order of the store. -/
theorem writtenInOrder_order (es : Entries) :
    store.writtenInOrder v (store.order.list v.labels) (store.order.list v.external.fields) es =
      store.written v es := by
  show (match checkLeaves (store.order.names v.labels) with
    | .error e => (.error e, es)
    | .ok () => match store.checkMirrored v with
      | .error e => (.error e, store.indexed v es)
      | .ok () => (.ok (), store.recordedInOrder v _ _ es) : Except StoreError Unit × Entries) = _
  unfold written
  cases hlabels : checkLeaves (store.order.names v.labels) with
  | error e => rfl
  | ok _ =>
    cases hmirrored : store.checkMirrored v with
    | error e => rfl
    | ok _ =>
      dsimp only
      rw [recordedInOrder_of_perm (store.order.perm _) (store.order.perm _)
        (checkLeaves_names.1 hlabels) hmirrored]

/-! ### Media without faults -/

section Reliable

variable (es : Entries) (s : Reliable)

theorem exec_saveSchedulers (key : String) (names : List String) :
    exec (saveSchedulers key names : StoreM Reliable Unit) ⟨es, s⟩ =
      (.ok (), ⟨withSchedulers key names es, s⟩) := by
  unfold saveSchedulers withSchedulers
  cases Schedulers.encode names <;> rfl

/-- Writing a record without faults, with its labels and fields in any orders. -/
theorem exec_saveVolumeInOrder (hid : sanitize v.overlayId.text ≠ "")
    (labels fields : List (String × String)) :
    exec (store.saveVolumeInOrder v labels fields : StoreM Reliable Unit) ⟨es, s⟩ =
      ((store.writtenInOrder v labels fields es).1,
        ⟨(store.writtenInOrder v labels fields es).2, s⟩) := by
  unfold saveVolumeInOrder
  dsimp only
  rw [exec_objectKey_bind hid, writtenInOrder]
  cases hlabels : checkLeaves (labels.map (·.1)) with
  | error e => rw [exec_bind_of_error (exec_liftExcept _ _)]
  | ok _ =>
    rw [exec_bind_of_ok (exec_liftExcept _ _), exec_bind_of_ok (StoreM.exec_put _ _ _ _),
      exec_bind_of_ok (StoreM.exec_put _ _ _ _), exec_bind_of_ok (exec_saveSchedulers _ _ _ _),
      exec_bind_of_ok (StoreM.exec_put _ _ _ _)]
    -- The labels were checked at the outset, so writing them does not fail.
    have hlast : ∀ es' : Entries,
        exec (store.saveTexts .adminLabels v.overlayId.text labels :
          StoreM Reliable Unit) ⟨es', s⟩ =
        (.ok (), ⟨es'.withTexts (store.layout.subtree .adminLabels v.overlayId.text)
          labels, s⟩) := fun es' => by
      rw [exec_saveTexts es' s hid, hlabels]
    by_cases hp : store.persistFields = true
    · rw [if_pos hp, if_pos hp]
      have hmirror : ∀ es' : Entries,
          exec (store.saveTexts .externalFields v.overlayId.text fields :
            StoreM Reliable Unit) ⟨es', s⟩ = _ := fun es' => exec_saveTexts es' s hid _
      cases hcheck : checkLeaves (fields.map (·.1)) with
      | error e =>
        -- The fields are refused when the index part is already there.
        rw [hcheck] at hmirror
        exact exec_bind_of_error (hmirror (store.indexed v es))
      | ok _ =>
        rw [hcheck] at hmirror
        refine (exec_bind_of_ok (hmirror (store.indexed v es))).trans ((hlast _).trans ?_)
        simp only [recordedInOrder, if_pos hp]
    · rw [if_neg hp, if_neg hp]
      refine (hlast _).trans ?_
      simp only [recordedInOrder, if_neg hp]
      rfl

/-- Writing a record without faults. -/
theorem exec_saveVolume (hid : sanitize v.overlayId.text ≠ "") :
    exec (store.saveVolume v : StoreM Reliable Unit) ⟨es, s⟩ =
      ((store.written v es).1, ⟨(store.written v es).2, s⟩) := by
  rw [← writtenInOrder_order]
  exact exec_saveVolumeInOrder es s hid _ _

/-- Removing a record without faults. -/
theorem exec_removeVolume {id : OverlayId} (hid : sanitize id.text ≠ "") :
    exec (store.removeVolume id : StoreM Reliable Unit) ⟨es, s⟩ =
      (.ok (), ⟨store.removed id.text es, s⟩) := by
  have hstep : ∀ (c : Category) (es' : Entries),
      exec (do StoreM.deleteTree (← store.layout.objectKey c id.text) : StoreM Reliable Unit)
        ⟨es', s⟩ = (.ok (), ⟨es'.eraseStartingWith (store.layout.subtree c id.text), s⟩) :=
    fun c es' => exec_objectKey_bind hid _ _
  exact exec_forM_of_ok (v := fun es => (⟨es, s⟩ : Medium Reliable)) hstep _ es

theorem exec_isRegistered {id : OverlayId} (hid : sanitize id.text ≠ "") :
    exec (store.isRegistered id : StoreM Reliable Bool) ⟨es, s⟩ =
      (.ok (es.contains (store.markerKey id.text)), ⟨es, s⟩) := by
  exact exec_objectKey_bind hid _ _

/-- Loading a volume without faults. -/
theorem exec_loadVolume (hid : sanitize v.overlayId.text ≠ "") :
    exec (store.loadVolume v : StoreM Reliable (Option Volume)) ⟨es, s⟩ =
      (store.loaded v es, ⟨es, s⟩) := by
  have hprobe : exec (tryCatch (store.isRegistered v.overlayId) fun _ => pure false :
      StoreM Reliable Bool) ⟨es, s⟩ =
        (.ok (es.contains (store.markerKey v.overlayId.text)), ⟨es, s⟩) :=
    exec_probe hid ⟨es, s⟩
  rw [(inPlace_loadInto store v).loadVolume_eq]
  unfold loaded
  dsimp only
  rw [exec_objectKey_bind hid, exec_bind_of_ok hprobe]
  cases hreg : es.contains (store.markerKey v.overlayId.text) with
  | false => rfl
  | true =>
    -- The marker is in the subtree that is listed, so the listing does not fail.
    obtain ⟨value, hvalue⟩ := KeyMap.contains_iff.1 hreg
    have hmem : (store.markerKey v.overlayId.text, value) ∈
        es.startingWith (store.layout.subtree .index v.overlayId.text) :=
      KeyMap.mem_startingWith.2 ⟨hvalue, hasPrefix_markerKey⟩
    rw [if_neg (by decide), if_pos rfl, exec_bind_of_ok (StoreM.exec_list_of_mem _ _ _ hmem)]
    cases hentry : IndexEntry.ofEntries (store.layout.subtree .index v.overlayId.text)
        (es.startingWith (store.layout.subtree .index v.overlayId.text)) with
    | error e => rw [exec_bind_of_error (exec_liftExcept _ _)]; rfl
    | ok entry =>
      rw [exec_bind_of_ok (exec_liftExcept _ _), exec_bind_of_ok (exec_loadTexts es s hid)]
      by_cases hp : store.persistFields = true
      · rw [if_pos hp, if_pos hp, exec_bind_of_ok (exec_loadTexts es s hid)]
        rfl
      · rw [if_neg hp, if_neg hp, exec_bind_of_ok (exec_pure _ _)]
        rfl

/-- Listing ids without faults. -/
theorem exec_volumeIds :
    exec (store.volumeIds : StoreM Reliable (List OverlayId)) ⟨es, s⟩ =
      (.ok ((es.startingWith (store.layout.categoryRoot .index)).filterMap fun e =>
        markedId store.layout e.1), ⟨es, s⟩) := by
  unfold volumeIds
  rw [exec_bind_of_ok (StoreM.exec_listOrNone _ _ _)]
  rfl

end Reliable

/-! ### What the keys of a record decide -/

theorem written_of_ok {es : Entries} (hlabels : checkLeaves v.labels.keys = .ok ())
    (hfields : store.checkMirrored v = .ok ()) :
    store.written v es = (.ok (), store.recorded v es) := by
  unfold written
  rw [checkLeaves_names.2 hlabels]
  dsimp only
  rw [hfields]

/-- A label that is refused is refused before anything is written. -/
theorem written_of_error {es : Entries} {e : StoreError}
    (h : checkLeaves (store.order.names v.labels) = .error e) :
    store.written v es = (.error e, es) := by
  unfold written
  rw [h]

/-- A record is written just when labels and mirrored fields pass their checks. -/
theorem written_eq_ok_iff {es es' : Entries} :
    store.written v es = (.ok (), es') ↔
      checkLeaves v.labels.keys = .ok () ∧ store.checkMirrored v = .ok () ∧
        es' = store.recorded v es := by
  constructor
  · intro h
    unfold written at h
    cases hlabels : checkLeaves (store.order.names v.labels) with
    | error e =>
      rw [hlabels] at h
      cases h
    | ok _ =>
      rw [hlabels] at h
      dsimp only at h
      cases hfields : store.checkMirrored v with
      | error e =>
        rw [hfields] at h
        cases h
      | ok _ =>
        rw [hfields] at h
        exact ⟨checkLeaves_names.1 hlabels, rfl, (Prod.mk.inj h).2.symm⟩
  · rintro ⟨hlabels, hfields, rfl⟩
    exact written_of_ok hlabels hfields

/-- Whether a record is written does not depend on the order of labels and fields, and neither does
what is written then. -/
theorem writtenInOrder_eq_ok_iff {labels fields : List (String × String)}
    (hlabels : labels.Perm v.labels.toList) (hfields : fields.Perm v.external.fields.toList)
    {es es' : Entries} :
    store.writtenInOrder v labels fields es = (.ok (), es') ↔
      checkLeaves v.labels.keys = .ok () ∧ store.checkMirrored v = .ok () ∧
        es' = store.recorded v es := by
  have hnames : (labels.map (·.1)).Perm v.labels.keys := hlabels.map _
  unfold writtenInOrder
  rw [← checkLeaves_perm hnames]
  cases hcheck : checkLeaves (labels.map (·.1)) with
  | error e => simp
  | ok _ =>
    have hmirrored : (if store.persistFields then checkLeaves (fields.map (·.1)) else .ok ()) =
        Except.ok () ↔ store.checkMirrored v = .ok () := by
      unfold checkMirrored
      split
      · exact (checkLeaves_perm (hfields.map _)).trans checkLeaves_names.symm
      · rfl
    dsimp only
    rw [← hmirrored]
    split
    · rename_i hrefused
      simp [hrefused]
    · rename_i hok
      have hrecorded : store.recordedInOrder v labels fields es = store.recorded v es :=
        recordedInOrder_of_perm hlabels hfields ((checkLeaves_perm hnames).1 hcheck)
          (hmirrored.1 hok)
      simp only [hrecorded, hok, true_and, Prod.mk.injEq]
      exact eq_comm

theorem find?_withSchedulers (key : String) (names : List String) (es : Entries) (k : String) :
    (withSchedulers key names es).find? k =
      if k = key then Schedulers.encode names else es.find? k := by
  unfold withSchedulers
  cases Schedulers.encode names with
  | some value => exact KeyMap.find?_insert es key value k
  | none => exact KeyMap.find?_erase es key k

/-- What is found in the index after a record is written. -/
theorem find?_indexed (v : Volume) (es : Entries) (leaf : String) :
    (store.indexed v es).find? (store.layout.subtree .index v.overlayId.text ++ leaf) =
      if leaf = serviceNameLeaf then some (Text.Utf8.encode v.serviceName)
      else if leaf = schedulersLeaf then Schedulers.encode v.schedulers
      else if leaf = idLeaf then some (Text.Utf8.encode v.overlayId.text)
      else if leaf = "" then some []
      else es.find? (store.layout.subtree .index v.overlayId.text ++ leaf) := by
  have hroot : ∀ key : String, key ++ leaf = key ↔ leaf = "" := fun key =>
    ⟨fun h => (String.append_right_inj key).1 (h.trans String.append_empty.symm),
      fun h => h ▸ String.append_empty⟩
  unfold indexed
  dsimp only
  rw [KeyMap.find?_insert, find?_withSchedulers, markerKey, KeyMap.find?_insert,
    KeyMap.find?_insert]
  simp only [String.append_right_inj, hroot]

/-- Writing the index part of a record leaves the keys outside its subtree as they were. -/
theorem find?_indexed_of_not_hasPrefix (v : Volume) (es : Entries) {k : String}
    (hk : ¬ hasPrefix (store.layout.subtree .index v.overlayId.text) k) :
    (store.indexed v es).find? k = es.find? k := by
  have hne : ∀ leaf, k ≠ store.layout.subtree .index v.overlayId.text ++ leaf := by
    rintro leaf rfl
    exact hk (Text.hasPrefix_append _ _)
  have hroot : k ≠ store.layout.subtree .index v.overlayId.text := by
    rintro rfl
    exact hk (Text.hasPrefix_refl _)
  unfold indexed
  dsimp only
  rw [KeyMap.find?_insert_of_ne _ _ (hne _), find?_withSchedulers, if_neg (hne _), markerKey,
    KeyMap.find?_insert_of_ne _ _ (hne _), KeyMap.find?_insert_of_ne _ _ hroot]

/-- Outside labels and mirrored fields, writing a record is writing its index part. -/
theorem find?_recorded_of_not_hasPrefix (v : Volume) (es : Entries) {k : String}
    (hlabels : ¬ hasPrefix (store.layout.subtree .adminLabels v.overlayId.text) k)
    (hfields : ¬ hasPrefix (store.layout.subtree .externalFields v.overlayId.text) k) :
    (store.recorded v es).find? k = (store.indexed v es).find? k := by
  rw [recorded, Entries.find?_withTexts_of_not_hasPrefix hlabels, mirrored]
  split
  · exact Entries.find?_withTexts_of_not_hasPrefix hfields _ _
  · rfl

/-- Every key that is set holds what it is set to, once the record is written. -/
theorem find?_recorded_of_sets (hlabels : checkLeaves v.labels.keys = .ok ())
    (hmirrored : store.checkMirrored v = .ok ()) {k : String} {a : Option Bytes}
    (h : store.Sets v k a) (es : Entries) : (store.recorded v es).find? k = a := by
  -- What is set in the index lies outside the subtrees that are written behind it.
  have hindex : ∀ leaf, (store.recorded v es).find?
      (store.layout.subtree .index v.overlayId.text ++ leaf) =
        (store.indexed v es).find? (store.layout.subtree .index v.overlayId.text ++ leaf) := by
    intro leaf
    apply find?_recorded_of_not_hasPrefix
    · exact (KeyLayout.subtree_diverge_of_ne (by decide) _ _).not_hasPrefix
        (Text.hasPrefix_append _ _)
    · exact (KeyLayout.subtree_diverge_of_ne (by decide) _ _).not_hasPrefix
        (Text.hasPrefix_append _ _)
  cases h with
  | root =>
    have hroot := hindex ""
    rw [find?_indexed] at hroot
    rwa [String.append_empty] at hroot
  | marker =>
    rw [markerKey, hindex, find?_indexed]
    rfl
  | schedulers =>
    rw [hindex, find?_indexed]
    rfl
  | serviceName =>
    rw [hindex, find?_indexed]
    rfl
  | field hp h =>
    rw [recorded, Entries.find?_withTexts_of_not_hasPrefix, mirrored, if_pos hp]
    · rw [checkMirrored_eq_ok_iff hp] at hmirrored
      refine Entries.find?_withTexts_of_set (fun t ht => ?_) v.external.fields.nodup_keys h _
      exact checkLeaves_eq_ok_iff.1 hmirrored t.1 (List.mem_map_of_mem ht)
    · exact (KeyLayout.subtree_diverge_of_ne (by decide) _ _).not_hasPrefix h.inSubtree
  | label h =>
    refine Entries.find?_withTexts_of_set (fun t ht => ?_) v.labels.nodup_keys h _
    exact checkLeaves_eq_ok_iff.1 hlabels t.1 (List.mem_map_of_mem ht)

/-- Every key that is not set stays as it was. -/
theorem find?_recorded_of_not_sets {k : String} (h : ∀ a, ¬ store.Sets v k a) (es : Entries) :
    (store.recorded v es).find? k = es.find? k := by
  have hindexed : (store.indexed v es).find? k = es.find? k := by
    unfold indexed
    dsimp only
    rw [KeyMap.find?_insert_of_ne, find?_withSchedulers, if_neg, KeyMap.find?_insert_of_ne,
      KeyMap.find?_insert_of_ne]
    · rintro rfl
      exact h _ .root
    · rintro rfl
      exact h _ .marker
    · rintro rfl
      exact h _ .schedulers
    · rintro rfl
      exact h _ .serviceName
  have hmirrored : (store.mirrored v (store.indexed v es)).find? k = es.find? k := by
    unfold mirrored
    split
    · rename_i hp
      rw [Entries.find?_withTexts_of_not_set (fun a ha => h a (.field hp ha)), hindexed]
    · exact hindexed
  rw [recorded, Entries.find?_withTexts_of_not_set (fun a ha => h a (.label ha)), hmirrored]

/-- A registered volume is loaded with what is stored under its keys, unless its scheduler list
cannot be read. -/
theorem loaded_of_contains {es : Entries} (h : es.contains (store.markerKey v.overlayId.text)) :
    store.loaded v es =
      let key := store.layout.subtree .index v.overlayId.text
      (schedulersAt key (es.find? (key ++ schedulersLeaf))).map fun names =>
        some <| merge v ⟨names, (es.find? (key ++ serviceNameLeaf)).map Text.Utf8.decodeLossy⟩
          (es.texts (store.layout.subtree .adminLabels v.overlayId.text))
          (if store.persistFields then
            es.texts (store.layout.subtree .externalFields v.overlayId.text) else ∅) := by
  unfold loaded
  dsimp only
  rw [if_pos h, ofEntries_startingWith]
  cases schedulersAt (store.layout.subtree .index v.overlayId.text)
    (es.find? (store.layout.subtree .index v.overlayId.text ++ schedulersLeaf)) <;> rfl

theorem loaded_of_not_contains {es : Entries}
    (h : es.contains (store.markerKey v.overlayId.text) = false) :
    store.loaded v es = .ok none := by
  unfold loaded
  dsimp only
  rw [h, if_neg Bool.false_ne_true]

/-- A volume is loaded with the schedulers and the service name that were written for its id, and with
what is then found under its labels and fields. -/
theorem loaded_recorded {w : Volume} (hlabels : checkLeaves v.labels.keys = .ok ())
    (hmirrored : store.checkMirrored v = .ok ()) (hw : w.overlayId = v.overlayId) (es : Entries) :
    store.loaded w (store.recorded v es) =
      .ok (some (merge w ⟨v.schedulers, some v.serviceName⟩
        ((store.recorded v es).texts (store.layout.subtree .adminLabels v.overlayId.text))
        (if store.persistFields then
          (store.recorded v es).texts (store.layout.subtree .externalFields v.overlayId.text)
          else ∅))) := by
  have hset : ∀ {k a}, store.Sets v k a → (store.recorded v es).find? k = a := fun h =>
    find?_recorded_of_sets hlabels hmirrored h es
  have hregistered : (store.recorded v es).contains (store.markerKey w.overlayId.text) := by
    rw [hw]
    exact KeyMap.contains_iff.2 ⟨_, hset .marker⟩
  rw [loaded_of_contains hregistered, hw]
  dsimp only
  rw [hset .schedulers, hset .serviceName, schedulersAt_encode, Option.map_some,
    Text.Utf8.decodeLossy_encode]
  rfl

/-- A volume that is loaded has the overlay that is stored under its keys. -/
theorem eq_merge_of_loaded {es : Entries} {w : Volume} (h : store.loaded v es = .ok (some w)) :
    ∃ entry, w = merge v entry (es.texts (store.layout.subtree .adminLabels v.overlayId.text))
      (if store.persistFields then
        es.texts (store.layout.subtree .externalFields v.overlayId.text) else ∅) := by
  cases hreg : es.contains (store.markerKey v.overlayId.text) with
  | false =>
    rw [loaded_of_not_contains hreg] at h
    cases h
  | true =>
    rw [loaded_of_contains hreg] at h
    dsimp only at h
    cases hs : schedulersAt (store.layout.subtree .index v.overlayId.text)
        (es.find? (store.layout.subtree .index v.overlayId.text ++ schedulersLeaf)) with
    | error e =>
      rw [hs] at h
      cases h
    | ok names =>
      rw [hs] at h
      cases h
      exact ⟨_, rfl⟩

theorem overlayId_of_loaded {es : Entries} {w : Volume} (h : store.loaded v es = .ok (some w)) :
    w.overlayId = v.overlayId := by
  obtain ⟨entry, rfl⟩ := eq_merge_of_loaded h
  rfl

theorem find?_removed (id : String) (es : Entries) (k : String) :
    (store.removed id es).find? k =
      if ∃ c ∈ Category.ofVolumes, hasPrefix (store.layout.subtree c id) k then none
      else es.find? k :=
  KeyMap.find?_foldl_eraseStartingWith _ _ _ _

theorem find?_removed_of_inRecord {k : String} (hk : store.InRecord id k) (es : Entries) :
    (store.removed id es).find? k = none := by
  rw [find?_removed]
  exact if_pos hk

theorem find?_removed_of_not_inRecord {k : String} (hk : ¬ store.InRecord id k) (es : Entries) :
    (store.removed id es).find? k = es.find? k := by
  rw [find?_removed]
  exact if_neg hk

/-- What loading answers is decided by the keys of the record. -/
theorem loaded_congr {es es' : Entries}
    (h : ∀ k, store.InRecord v.overlayId.text k → es.find? k = es'.find? k) :
    store.loaded v es = store.loaded v es' := by
  have hsub : ∀ c ∈ Category.ofVolumes,
      ∀ k, hasPrefix (store.layout.subtree c v.overlayId.text) k → es.find? k = es'.find? k :=
    fun c hc k hk => h k ⟨c, hc, hk⟩
  unfold loaded
  dsimp only
  rw [KeyMap.contains_eq_of_find?_eq (h _ inRecord_markerKey),
    KeyMap.startingWith_congr (hsub .index (by decide)),
    Entries.texts_congr (hsub .adminLabels (by decide)),
    Entries.texts_congr (hsub .externalFields (by decide))]

/-! ### Sparse records -/

/-- Entries that hold the existence marker of an id and one more key. -/
def markedWith (store : Store) (id key : String) : Entries :=
  (∅ : Entries).insertMany [(store.markerKey id, []), (key, [])]

theorem find?_markedWith (id key k : String) :
    (store.markedWith id key).find? k =
      if k = key ∨ k = store.markerKey id then some [] else none := by
  have hlast : store.markedWith id key =
      ((∅ : Entries).insert (store.markerKey id) []).insert key [] := rfl
  rw [hlast, KeyMap.find?_insert, KeyMap.find?_insert]
  by_cases hkey : k = key
  · rw [if_pos hkey, if_pos (.inl hkey)]
  · by_cases hmarker : k = store.markerKey id
    · rw [if_neg hkey, if_pos hmarker, if_pos (.inr hmarker)]
    · rw [if_neg hkey, if_neg hmarker, if_neg (not_or_intro hkey hmarker)]
      rfl

theorem contains_markedWith {id key k : String} :
    (store.markedWith id key).contains k ↔ k = key ∨ k = store.markerKey id := by
  rw [KeyMap.contains_iff]
  simp only [find?_markedWith]
  split <;> simp [*]

/-- Beside the marker, an index leaf is there only if it is the further key. -/
theorem find?_markedWith_index {key leaf : String} (hleaf : leaf ≠ idLeaf)
    (hkey : ¬ hasPrefix (store.layout.subtree .index id) key) :
    (store.markedWith id key).find? (store.layout.subtree .index id ++ leaf) = none := by
  rw [find?_markedWith, if_neg]
  rintro (rfl | hmarker)
  · exact hkey (Text.hasPrefix_append _ _)
  · rw [markerKey, ← String.toList_inj, String.toList_append, String.toList_append,
      List.append_cancel_left_eq, String.toList_inj] at hmarker
    exact hleaf hmarker

/-- A volume with nothing but an existence marker in the index is loaded without schedulers. -/
theorem loaded_markedWith {key : String}
    (hkey : ¬ hasPrefix (store.layout.subtree .index v.overlayId.text) key) :
    store.loaded v (store.markedWith v.overlayId.text key) =
      let es := store.markedWith v.overlayId.text key
      .ok <| some <| merge v ⟨[], none⟩
        (es.texts (store.layout.subtree .adminLabels v.overlayId.text))
        (if store.persistFields then
          es.texts (store.layout.subtree .externalFields v.overlayId.text) else ∅) := by
  rw [loaded_of_contains (contains_markedWith.2 (.inr rfl))]
  dsimp only
  rw [find?_markedWith_index (by decide) hkey, find?_markedWith_index (by decide) hkey]
  rfl

/-- Beside the marker, only the further key has a name, and only in its own category. -/
theorem contains_texts_markedWith {c d : Category} (hc : c ≠ .index) {leaf name : String}
    (hne : leaf ≠ "") (hslash : '/' ∉ leaf.toList) :
    ((store.markedWith id (store.layout.subtree d id ++ leaf)).texts
        (store.layout.subtree c id)).contains name ↔ c = d ∧ name = leaf := by
  rw [Entries.contains_texts_iff]
  constructor
  · rintro ⟨-, k, hk, hmem, hleaf⟩
    rcases contains_markedWith.1 hmem with rfl | rfl
    · rw [leafOf_subtree hslash] at hleaf
      refine ⟨Decidable.byContradiction fun hcd => ?_, (Except.ok.inj hleaf).symm⟩
      exact (KeyLayout.subtree_diverge_of_ne hcd _ _).not_hasPrefix hk (Text.hasPrefix_append _ _)
    · exact absurd hasPrefix_markerKey ((KeyLayout.subtree_diverge_of_ne hc _ _).not_hasPrefix hk)
  · rintro ⟨rfl, rfl⟩
    exact ⟨hne, _, Text.hasPrefix_append _ _, contains_markedWith.2 (.inl rfl),
      leafOf_subtree hslash⟩

/-- A volume with nothing but an existence marker and one mirrored field is loaded without labels, and
with that field besides its own. -/
theorem loaded_stored_field (hp : store.persistFields = true) (v : Volume) (leaf : String)
    (hne : leaf ≠ "") (hslash : '/' ∉ leaf.toList) :
    ∃ w, store.loaded v (store.markedWith v.overlayId.text
        (store.layout.subtree .externalFields v.overlayId.text ++ leaf)) = .ok (some w) ∧
      w.overlayId = v.overlayId ∧ checkLeaves w.labels.keys = .ok () ∧
      ∀ name, name ∈ w.external.fields.keys ↔ name ∈ v.external.fields.keys ∨ name = leaf := by
  have hindex : ¬ hasPrefix (store.layout.subtree .index v.overlayId.text)
      (store.layout.subtree .externalFields v.overlayId.text ++ leaf) :=
    (KeyLayout.subtree_diverge_of_ne (by decide) _ _).not_hasPrefix (Text.hasPrefix_append _ _)
  refine ⟨_, loaded_markedWith hindex, rfl, checkLeaves_eq_ok_iff.2 fun name hname => ?_,
    fun name => ?_⟩
  · have hlabel := (contains_texts_markedWith (by decide) hne hslash).1
      (KeyMap.contains_iff.2 (KeyMap.mem_keys.1 hname))
    exact absurd hlabel.1 (by decide)
  · dsimp only [merge]
    rw [if_pos hp, KeyMap.mem_keys_orElse_iff]
    refine or_congr_right ?_
    rw [KeyMap.mem_keys, ← KeyMap.contains_iff, contains_texts_markedWith (by decide) hne hslash]
    exact and_iff_right rfl

end Store

end VolumeOverlay
