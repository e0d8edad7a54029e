import VolumeOverlay.Proofs.Store.Categories
import VolumeOverlay.Proofs.Store.Record
import VolumeOverlay.Store.Command

/-!
# Footprints

The footprint of an action is a set of keys that decides what it answers and outside of which it
changes nothing. On a medium without faults every operation of a store has a footprint that can be
read off its arguments: the subtree of an object, the root of a category, or the version key. A call
that only writes depends on no key at all; what depends on keys are lookups, checks and listings.

## Main definitions

* `Store.AgreeOn K es es'`, `Store.AgreeOff S es es'`: entries agree on a set of keys, or outside it
* `Store.effect x es`: what an action answers without faults, and the entries after it
* `SameOn K x`: an action does not tell entries apart that agree on a set of keys
* `Confined S x`: the footprint of an action lies inside a set of keys
* `Store.Part`: the records of volumes, those of snapshots, and the version mark
* `Store.Command.part? c`: the part of a store that a command is about

## Main results

* `StoreM.sameOn_get`, `sameOn_exists?`, `sameOn_list`: the calls that depend on keys
* `Store.sameOn_saveTexts`, `sameOn_saveVolume`, `sameOn_loadVolume`: the operations of an object
* `Store.confined_run`: a command that is about one part of a store does not leave it
-/

namespace VolumeOverlay

open Actions
open Text (hasPrefix)

/-! ### Agreement -/

namespace Store

/-- Entries that agree on a set of keys. -/
def AgreeOn (K : String → Prop) (es es' : Entries) : Prop :=
  ∀ k, K k → es.find? k = es'.find? k

/-- Entries that agree outside a set of keys. -/
def AgreeOff (S : String → Prop) (es es' : Entries) : Prop :=
  ∀ k, ¬ S k → es.find? k = es'.find? k

instance (S : String → Prop) : Std.Refl (AgreeOff S) where
  refl _ _ _ := rfl

instance (S : String → Prop) : IsTrans Entries (AgreeOff S) where
  trans _ _ _ h₁ h₂ k hk := (h₁ k hk).trans (h₂ k hk)

theorem allows_agreeOff {σ : Type} (S : String → Prop) : Allows (OnEntries σ (AgreeOff S)) S where
  insert m k value hk k' hk' := by
    have hne : k' ≠ k := fun h => hk' (h ▸ hk)
    exact (KeyMap.find?_insert_of_ne _ _ hne).symm
  erase m k hk k' hk' := by
    have hne : k' ≠ k := fun h => hk' (h ▸ hk)
    exact (KeyMap.find?_erase_of_ne _ hne).symm

end Store

open Store (AgreeOn AgreeOff allows_agreeOff)

variable {α β : Type} {K S : String → Prop}

/-- Without faults an action does not tell entries apart that agree on a set of keys: it answers the
same, and leads to entries that agree there again. -/
def SameOn (K : String → Prop) (x : StoreM Reliable α) : Prop :=
  Alike (OnEntries Reliable (AgreeOn K)) (fun _ => True) x x

/-- What an action answers on entries without faults, and the entries after it. -/
def Store.effect (x : StoreM Reliable α) (es : Entries) : Except StoreError α × Entries :=
  ((exec x ⟨es, {}⟩).1, (exec x ⟨es, {}⟩).2.entries)

theorem Store.exec_of_effect {x : StoreM Reliable α} {r : Except StoreError α} {es es' : Entries}
    (h : Store.effect x es = (r, es')) : exec x ⟨es, {}⟩ = (r, ⟨es', {}⟩) := by
  obtain ⟨hanswer, hentries⟩ := Prod.mk.inj h
  exact Prod.ext hanswer (congrArg (fun entries => (⟨entries, {}⟩ : Medium Reliable)) hentries)

/-- The second part of an action goes on where the first one has led. -/
theorem Store.effect_bind_of_ok {x : StoreM Reliable α} {f : α → StoreM Reliable β} {a : α}
    {es es' : Entries} (h : Store.effect x es = (.ok a, es')) :
    Store.effect (x >>= f) es = Store.effect (f a) es' := by
  rw [Store.effect, exec_bind_of_ok (Store.exec_of_effect h), Store.effect]

theorem SameOn.effect {x : StoreM Reliable α} (h : SameOn K x) {es es' : Entries}
    (hes : AgreeOn K es es') :
    (Store.effect x es).1 = (Store.effect x es').1 ∧
      AgreeOn K (Store.effect x es).2 (Store.effect x es').2 := by
  obtain ⟨hanswer, hrelated, -⟩ := h ⟨es, {}⟩ ⟨es', {}⟩ hes
  exact ⟨hanswer, hrelated⟩

/-! ### Calls -/

namespace StoreM

variable {key : String}

/-- An action that changes the entries key by key, whatever they are. -/
theorem sameOn_of_exec {x : StoreM Reliable α} {r : Except StoreError α} {f : Entries → Entries}
    (hx : ∀ es s, exec x ⟨es, s⟩ = (r, ⟨f es, s⟩))
    (hf : ∀ es es' k, es.find? k = es'.find? k → (f es).find? k = (f es').find? k) : SameOn K x := by
  rintro ⟨es, s⟩ ⟨es', s'⟩ h
  exact Alike.of_exec (hx es s) (hx es' s') (fun k hk => hf es es' k (h k hk)) fun _ _ => trivial

theorem sameOn_put (value : Bytes) : SameOn K (put key value) :=
  sameOn_of_exec (fun es s => exec_put es s key value) fun es es' k h => by
    rw [KeyMap.find?_insert, KeyMap.find?_insert, h]

theorem sameOn_delete : SameOn K (delete key) :=
  sameOn_of_exec (fun es s => exec_delete es s key) fun es es' k h => by
    rw [KeyMap.find?_erase, KeyMap.find?_erase, h]

theorem sameOn_deleteTree : SameOn K (deleteTree key) :=
  sameOn_of_exec (f := fun es => es.eraseStartingWith key) (fun es s => rfl) fun es es' k h => by
    rw [KeyMap.find?_eraseStartingWith, KeyMap.find?_eraseStartingWith, h]

/-- An action that changes nothing, and whose answer is decided by the keys of a set. -/
theorem sameOn_of_reads {x : StoreM Reliable α} {r : Entries → Except StoreError α}
    (hx : ∀ es s, exec x ⟨es, s⟩ = (r es, ⟨es, s⟩))
    (hr : ∀ es es', AgreeOn K es es' → r es = r es') : SameOn K x := by
  rintro ⟨es, s⟩ ⟨es', s'⟩ h
  refine Alike.of_exec (hx es s) ?_ h fun _ _ => trivial
  rw [hr es es' h]
  exact hx es' s'

theorem sameOn_get (hkey : K key) : SameOn K (get key) :=
  sameOn_of_reads (fun es s => exec_get es s key) fun es es' h => by rw [h key hkey]

theorem sameOn_exists? (hkey : K key) : SameOn K (exists? key) :=
  sameOn_of_reads (fun es s => exec_exists?_eq key ⟨es, s⟩) fun es es' h => by
    show Except.ok (es.contains key) = Except.ok (es'.contains key)
    rw [KeyMap.contains_eq_of_find?_eq (h key hkey)]

variable (hkey : ∀ k, hasPrefix key k → K k)

include hkey

theorem sameOn_list : SameOn K (list key) :=
  sameOn_of_reads (fun es s => exec_list es s key) fun es es' h => by
    rw [KeyMap.startingWith_congr fun k hk => h k (hkey k hk)]

theorem sameOn_listOrNone : SameOn K (listOrNone key) :=
  sameOn_of_reads (fun es s => exec_listOrNone es s key) fun es es' h => by
    rw [KeyMap.startingWith_congr fun k hk => h k (hkey k hk)]

end StoreM

/-! ### Operations -/

namespace SameOn

variable {x : StoreM Reliable α} {f : α → StoreM Reliable β}

theorem pure (a : α) : SameOn K (pure a : StoreM Reliable α) := Alike.pure trivial

theorem liftExcept (r : Except StoreError α) : SameOn K (liftM r : StoreM Reliable α) :=
  (Alike.liftExcept r).mono fun _ _ => trivial

theorem bind (hx : SameOn K x) (hf : ∀ a, SameOn K (f a)) : SameOn K (x >>= f) :=
  Alike.bind hx fun a _ => hf a

end SameOn

namespace Store

variable {store : Store} {category : Category} {id : String}

/-- An action that begins with the key of an object goes on with the subtree of that object, if at
all. -/
theorem sameOn_objectKey_bind {f : String → StoreM Reliable α}
    (hf : SameOn K (f (store.layout.subtree category id))) :
    SameOn K ((liftM (store.layout.objectKey category id) : StoreM Reliable String) >>= f) := by
  refine (Alike.liftExcept _).bind fun key hkey => ?_
  obtain rfl := (KeyLayout.objectKey_eq_ok_iff.1 hkey).2
  exact hf

section Texts

variable (h : ∀ k, hasPrefix (store.layout.subtree category id) k → K k)

include h

theorem sameOn_saveTexts (texts : List (String × String)) :
    SameOn K (store.saveTexts category id texts) := by
  refine (SameOn.liftExcept _).bind fun _ => sameOn_objectKey_bind ?_
  refine (StoreM.sameOn_put _).bind fun _ => (StoreM.sameOn_list h).bind fun pairs => ?_
  refine SameOn.bind (Alike.forM fun k _ => ?_) fun _ => Alike.forM fun t _ => StoreM.sameOn_put _
  split
  · exact StoreM.sameOn_delete
  · exact SameOn.pure _

theorem sameOn_loadTexts : SameOn K (store.loadTexts category id) :=
  sameOn_objectKey_bind <| (StoreM.sameOn_listOrNone h).bind fun _ => SameOn.pure _

end Texts

theorem sameOn_saveSchedulers (key : String) (names : List String) :
    SameOn K (saveSchedulers key names) := by
  unfold saveSchedulers
  split
  · exact StoreM.sameOn_put _
  · exact StoreM.sameOn_delete

section Record

variable {v : Volume}

theorem sameOn_isRegistered {id : OverlayId} (h : K (store.markerKey id.text)) :
    SameOn K (store.isRegistered id) :=
  sameOn_objectKey_bind (StoreM.sameOn_exists? h)

theorem sameOn_saveVolume (h : ∀ k, store.InRecord v.overlayId.text k → K k) :
    SameOn K (store.saveVolume v) := by
  have htexts : ∀ c ∈ Category.ofVolumes, ∀ texts,
      SameOn K (store.saveTexts c v.overlayId.text texts) := fun c hc texts =>
    sameOn_saveTexts (fun k hk => h k (inRecord_of_hasPrefix hk hc)) texts
  refine sameOn_objectKey_bind ((SameOn.liftExcept _).bind fun _ => ?_)
  refine (StoreM.sameOn_put _).bind fun _ => (StoreM.sameOn_put _).bind fun _ => ?_
  refine (sameOn_saveSchedulers _ _).bind fun _ => (StoreM.sameOn_put _).bind fun _ => ?_
  by_cases hp : store.persistFields = true
  · rw [if_pos hp]
    exact (htexts .externalFields (by decide) _).bind fun _ => htexts .adminLabels (by decide) _
  · rw [if_neg hp]
    exact htexts .adminLabels (by decide) _

theorem sameOn_loadVolume (h : ∀ k, store.InRecord v.overlayId.text k → K k) :
    SameOn K (store.loadVolume v) := by
  rw [(inPlace_loadInto store v).loadVolume_eq]
  have hsubtree : ∀ c ∈ Category.ofVolumes,
      ∀ k, hasPrefix (store.layout.subtree c v.overlayId.text) k → K k := fun c hc k hk =>
    h k (inRecord_of_hasPrefix hk hc)
  have hprobe : SameOn K (tryCatch (store.isRegistered v.overlayId) fun _ => pure false) :=
    Alike.tryCatch (sameOn_isRegistered (h _ inRecord_markerKey)) fun _ => SameOn.pure _
  refine sameOn_objectKey_bind (hprobe.bind fun registered => ?_)
  cases registered with
  | false => exact SameOn.pure _
  | true =>
    refine (StoreM.sameOn_list (hsubtree .index (by decide))).bind fun pairs => ?_
    refine (SameOn.liftExcept _).bind fun entry => ?_
    refine (sameOn_loadTexts (hsubtree .adminLabels (by decide))).bind fun labels => ?_
    by_cases hp : store.persistFields = true
    · rw [if_pos hp]
      exact (sameOn_loadTexts (hsubtree .externalFields (by decide))).bind fun _ => SameOn.pure _
    · rw [if_neg hp]
      exact (SameOn.pure _).bind fun _ => SameOn.pure _

end Record

theorem sameOn_removeVolume (id : OverlayId) : SameOn K (store.removeVolume id) :=
  Alike.forM fun _ _ => sameOn_objectKey_bind StoreM.sameOn_deleteTree

theorem sameOn_volumeIds (h : ∀ k, hasPrefix (store.layout.categoryRoot .index) k → K k) :
    SameOn K store.volumeIds :=
  (StoreM.sameOn_listOrNone h).bind fun _ => SameOn.pure _

theorem sameOn_eraseCategory (category : Category) : SameOn K (store.eraseCategory category) :=
  StoreM.sameOn_deleteTree.bind fun _ => StoreM.sameOn_put _

theorem sameOn_version (h : K store.layout.versionKey) : SameOn K store.version :=
  (StoreM.sameOn_get h).bind fun _ => SameOn.pure _

theorem sameOn_setUp (h : K store.layout.versionKey) : SameOn K store.setUp := by
  have hversion : SameOn K store.markVersion := by
    refine Alike.tryCatch ((StoreM.sameOn_get h).bind fun _ => SameOn.pure _) fun e => ?_
    split
    · exact StoreM.sameOn_put _
    · exact Alike.throw _
  refine (StoreM.sameOn_put _).bind fun _ => hversion.bind fun _ => ?_
  exact Alike.forM fun _ _ => StoreM.sameOn_put _

end Store

/-! ### Footprints -/

/-- An action that has a footprint inside a set of keys: its answer is decided by the keys of the set,
and it changes no others. -/
structure Confined (S : String → Prop) (x : StoreM Reliable α) : Prop where
  sameOn : ∀ K : String → Prop, (∀ k, S k → K k) → SameOn K x
  moves : Moves (OnEntries Reliable (AgreeOff S)) x

namespace Confined

variable {T : String → Prop} {x : StoreM Reliable α} {f : α → StoreM Reliable β}

theorem mono (h : Confined S x) (hT : ∀ k, S k → T k) : Confined T x where
  sameOn K hK := h.sameOn K fun k hk => hK k (hT k hk)
  moves m k hk := h.moves m k fun hS => hk (hT k hS)

theorem pure (a : α) : Confined S (pure a : StoreM Reliable α) where
  sameOn _ _ := SameOn.pure a
  moves := Moves.pure a

theorem bind (hx : Confined S x) (hf : ∀ a, Confined S (f a)) : Confined S (x >>= f) where
  sameOn K hK := (hx.sameOn K hK).bind fun a => (hf a).sameOn K hK
  moves := hx.moves.bind fun a => (hf a).moves

theorem map (hx : Confined S x) (g : α → β) : Confined S (x >>= fun a => Pure.pure (g a)) :=
  hx.bind fun a => pure (g a)

theorem forM {as : List α} {f : α → StoreM Reliable PUnit} (h : ∀ a ∈ as, Confined S (f a)) :
    Confined S (as.forM f) where
  sameOn K hK := Alike.forM fun a ha => (h a ha).sameOn K hK
  moves := Moves.forM fun a ha => (h a ha).moves

end Confined

namespace Store

variable {store : Store} {category : Category} {id : String} {v : Volume}

theorem confined_saveTexts (texts : List (String × String)) :
    Confined (fun k => hasPrefix (store.layout.subtree category id) k)
      (store.saveTexts category id texts) where
  sameOn _ hK := sameOn_saveTexts hK texts
  moves := moves_saveTextsOf texts ((allows_agreeOff _).admits fun _ _ hset => hset.inSubtree)

theorem confined_loadTexts :
    Confined (fun k => hasPrefix (store.layout.subtree category id) k)
      (store.loadTexts category id) where
  sameOn _ hK := sameOn_loadTexts hK
  moves := moves_loadTexts

theorem confined_isRegistered (id : OverlayId) :
    Confined (store.InRecord id.text) (store.isRegistered id) where
  sameOn _ hK := sameOn_isRegistered (hK _ inRecord_markerKey)
  moves := moves_isRegistered id

theorem confined_saveVolume : Confined (store.InRecord v.overlayId.text) (store.saveVolume v) where
  sameOn _ hK := sameOn_saveVolume hK
  moves := moves_saveVolume (allows_agreeOff _)

theorem confined_loadVolume : Confined (store.InRecord v.overlayId.text) (store.loadVolume v) where
  sameOn _ hK := sameOn_loadVolume hK
  moves := moves_loadVolume v

theorem confined_removeVolume (id : OverlayId) :
    Confined (store.InRecord id.text) (store.removeVolume id) where
  sameOn _ _ := sameOn_removeVolume id
  moves := moves_removeVolume (allows_agreeOff _)

theorem confined_volumeIds :
    Confined (fun k => hasPrefix (store.layout.categoryRoot .index) k) store.volumeIds where
  sameOn _ hK := sameOn_volumeIds hK
  moves := (StoreM.moves_listOrNone _).bind fun _ => Moves.pure _

theorem confined_removeSnapshot (id : OverlayId) :
    Confined (fun k => hasPrefix (store.layout.subtree .snapshot id.text) k)
      (store.removeSnapshot id) where
  sameOn _ _ := sameOn_objectKey_bind StoreM.sameOn_deleteTree
  moves := moves_objectKey_bind <| StoreM.moves_deleteTree fun m =>
    (allows_agreeOff _).eraseStartingWith m fun _ hk => hk

theorem confined_eraseCategory (category : Category) :
    Confined (fun k => hasPrefix (store.layout.categoryRoot category) k)
      (store.eraseCategory category) where
  sameOn _ _ := sameOn_eraseCategory category
  moves := by
    have hallows := allows_agreeOff (σ := Reliable)
      fun k => hasPrefix (store.layout.categoryRoot category) k
    refine (StoreM.moves_deleteTree fun m => ?_).bind fun _ => StoreM.moves_put fun m => ?_
    · exact hallows.eraseStartingWith m fun _ hk => hk
    · exact hallows.insert m _ _ (Text.hasPrefix_refl _)

theorem confined_version : Confined (fun k => k = store.layout.versionKey) store.version where
  sameOn _ hK := sameOn_version (hK _ rfl)
  moves := (StoreM.moves_get _).bind fun _ => Moves.pure _

theorem confined_setUp : Confined (fun k => ∃ a, store.Marks k a) store.setUp where
  sameOn _ hK := sameOn_setUp (hK _ ⟨_, .version⟩)
  moves := moves_setUp ((allows_agreeOff _).admits fun _ a hk => ⟨a, hk⟩)

/-! ### Commands -/

/-- What a store is made of: the records of volumes, those of snapshots, and the version mark. -/
inductive Part where
  | volumes
  | snapshots
  | version
  deriving DecidableEq

/-- The part that a category belongs to. -/
def Part.ofCategory : Category → Part
  | .snapshot => .snapshots
  | _ => .volumes

/-- The keys of a part: the version key, and those under the roots of its categories. -/
inductive Part.Owns (layout : KeyLayout) : Part → String → Prop
  | version : Owns layout .version layout.versionKey
  | category {c : Category} {k : String} (h : hasPrefix (layout.categoryRoot c) k) :
    Owns layout (.ofCategory c) k

/-- The part of the store that a command is about, if it is about one. Plain calls name keys as they
like, and erasing everything is about more than one part. -/
def Command.part? : Command → Option Part
  | .version => some .version
  | .isRegistered _ | .saveVolume _ | .loadVolume _ | .removeVolume _ | .volumeIds => some .volumes
  | .saveSnapshot _ | .loadSnapshot _ | .removeSnapshot _ => some .snapshots
  | .eraseCategory c | .saveLabels c _ _ | .loadLabels c _ => some (.ofCategory c)
  | .put .. | .get _ | .getText _ | .list _ | .delete _ | .deleteTree _ | .exists _ | .eraseAll =>
    none

theorem Part.ofCategory_of_mem {c : Category} (h : c ∈ Category.ofVolumes) :
    Part.ofCategory c = .volumes := by
  revert h
  cases c <;> decide

theorem Part.owns_subtree {layout : KeyLayout} {c : Category} {k : String}
    (h : hasPrefix (layout.subtree c id) k) : (Part.ofCategory c).Owns layout k :=
  .category (Text.hasPrefix_trans KeyLayout.hasPrefix_subtree h)

theorem Part.owns_of_inRecord {k : String} (h : store.InRecord id k) :
    Part.volumes.Owns store.layout k := by
  obtain ⟨c, hc, hk⟩ := h
  rw [← Part.ofCategory_of_mem hc]
  exact Part.owns_subtree hk

/-- A command that is about one part of a store does not leave it. -/
theorem confined_run {c : Command} {part : Part} (h : c.part? = some part) :
    Confined (part.Owns store.layout) (c.run store) := by
  have hcategory : ∀ c k, hasPrefix (store.layout.categoryRoot c) k →
      (Part.ofCategory c).Owns store.layout k := fun _ _ => .category
  have hsubtree : ∀ c id k, hasPrefix (store.layout.subtree c id) k →
      (Part.ofCategory c).Owns store.layout k := fun _ _ _ => Part.owns_subtree
  have hrecord : ∀ id k, store.InRecord id k → Part.volumes.Owns store.layout k :=
    fun _ _ => Part.owns_of_inRecord
  cases c <;> obtain ⟨⟩ := h
  case version =>
    refine (confined_version.mono ?_).map _
    rintro _ rfl
    exact .version
  case eraseCategory c => exact ((confined_eraseCategory c).mono (hcategory c)).map _
  case isRegistered id => exact ((confined_isRegistered id).mono (hrecord _)).map _
  case saveVolume v => exact (confined_saveVolume.mono (hrecord _)).map _
  case loadVolume v =>
    refine (confined_loadVolume.mono (hrecord _)).bind fun answer => ?_
    cases answer <;> exact Confined.pure _
  case removeVolume id => exact ((confined_removeVolume id).mono (hrecord _)).map _
  case volumeIds => exact (confined_volumeIds.mono (hcategory .index)).map _
  case saveLabels c id labels => exact ((confined_saveTexts _).mono (hsubtree c _)).map _
  case loadLabels c id => exact (confined_loadTexts.mono (hsubtree c _)).map _
  case saveSnapshot s => exact ((confined_saveTexts _).mono (hsubtree .snapshot _)).map _
  case loadSnapshot s =>
    exact ((confined_loadTexts.mono (hsubtree .snapshot _)).map _).map _
  case removeSnapshot id => exact ((confined_removeSnapshot id).mono (hsubtree .snapshot _)).map _

end Store

end VolumeOverlay
