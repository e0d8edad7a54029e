import VolumeOverlay.Proofs.Store.Key
import VolumeOverlay.Proofs.KeyMap
import VolumeOverlay.Proofs.Store.Call
import VolumeOverlay.Store.Open

/-!
# Setting up and erasing

A store that is set up on no entries holds its markers and roots and nothing else, and one that is
erased holds no key of any object. Neither call fails without faults.

## Main definitions

* `Store.started`: the entries of a store that is set up on no entries
* `Store.opened es`: the entries of a store that is set up on given ones
* `Store.erased es`: the entries after every category is erased
* `Store.Marks`: what setting up sets which keys to

## Main results

* `moves_setUp`, `moves_eraseAll`: what every run of the two keeps
* `exec_setUp`, `setUpOn_empty`: setting up a store without faults, and on no entries
* `exec_eraseAll`: erasing a store without faults
* `find?_opened`: a store that is set up, key by key
* `find?_started`, `find?_erased`: both hold no key of an object
-/

namespace VolumeOverlay.Store

open Actions
open Text (hasPrefix)

variable (store : Store)

/-- The entries of a store that is set up on no entries. -/
def started : Entries :=
  let marked := ((∅ : Entries).insert store.layout.rootMarker []).insert store.layout.versionKey
    (Text.Utf8.encode currentVersion)
  Category.all.foldl (fun es c => es.insert (store.layout.categoryRoot c) []) marked

/-- The entries of a store that is set up on given ones. A version mark that is there stays. -/
def opened (es : Entries) : Entries :=
  let marked := es.insert store.layout.rootMarker []
  let versioned :=
    if marked.contains store.layout.versionKey then marked
    else marked.insert store.layout.versionKey (Text.Utf8.encode currentVersion)
  Category.all.foldl (fun es c => es.insert (store.layout.categoryRoot c) []) versioned

/-- The entries after every category is erased. -/
def erased (es : Entries) : Entries :=
  Category.all.foldl (fun es c =>
    (es.eraseStartingWith (store.layout.categoryRoot c)).insert (store.layout.categoryRoot c) []) es

/-- What setting up a store sets keys to: the root marker, the version and the category roots. -/
inductive Marks : String → Option Bytes → Prop
  | root : Marks store.layout.rootMarker (some [])
  | version : Marks store.layout.versionKey (some (Text.Utf8.encode currentVersion))
  | category (c : Category) : Marks (store.layout.categoryRoot c) (some [])

variable {store} {es : Entries} {s : Reliable}

/-! ### Any medium -/

section Moves

variable {σ : Type} [FaultSource σ] {ρ : Medium σ → Medium σ → Prop} [MediumOrder ρ]
  {P : String → Option Bytes → Prop}

/-- Every change that setting up makes is one of those it is for. -/
theorem moves_setUp (h : Admits ρ store.Marks) : Moves ρ (store.setUp : StoreM σ Unit) := by
  have hversion : Moves ρ (store.markVersion : StoreM σ Unit) := by
    refine Moves.tryCatch ((StoreM.moves_get _).bind fun _ => Moves.pure _) fun e => ?_
    split
    · exact StoreM.moves_put fun m => h.insert m _ _ .version
    · exact Moves.throw _
  refine (StoreM.moves_put fun m => h.insert m _ _ .root).bind fun _ => ?_
  refine hversion.bind fun _ => Moves.forM fun c _ => ?_
  exact StoreM.moves_put fun m => h.insert m _ _ (.category c)

/-- Erasing a store drops keys of its categories, and sets their roots. -/
theorem moves_eraseAll (h : Admits ρ P)
    (hroot : ∀ c, P (store.layout.categoryRoot c) (some []))
    (hkey : ∀ c k, hasPrefix (store.layout.categoryRoot c) k → P k none) :
    Moves ρ (store.eraseAll : StoreM σ Unit) := by
  refine Moves.forM fun c _ => ?_
  refine (StoreM.moves_deleteTree fun m => h.eraseStartingWith m (hkey c)).bind fun _ => ?_
  exact StoreM.moves_put fun m => h.insert m _ _ (hroot c)

end Moves

/-! ### Runs without faults -/

/-- Without a version mark, the current version is marked. -/
theorem exec_markVersion :
    exec (store.markVersion : StoreM Reliable Unit) ⟨es, s⟩ =
      (.ok (), ⟨if es.contains store.layout.versionKey then es
        else es.insert store.layout.versionKey (Text.Utf8.encode currentVersion), s⟩) := by
  unfold markVersion
  dsimp only
  rw [exec_tryCatch, exec_bind, StoreM.exec_get, KeyMap.contains]
  cases es.find? store.layout.versionKey <;> rfl

/-- Setting up a store without faults. -/
theorem exec_setUp :
    exec (store.setUp : StoreM Reliable Unit) ⟨es, s⟩ = (.ok (), ⟨store.opened es, s⟩) := by
  have hput : ∀ c es, exec (StoreM.put (store.layout.categoryRoot c) [] : StoreM Reliable Unit)
      ⟨es, s⟩ = (.ok (), ⟨es.insert (store.layout.categoryRoot c) [], s⟩) := fun _ _ => rfl
  unfold setUp
  rw [exec_bind_of_ok (StoreM.exec_put _ _ _ _), exec_bind_of_ok exec_markVersion]
  exact exec_forM_of_ok (v := fun es => (⟨es, s⟩ : Medium Reliable)) hput _ _

/-- Setting up a store on no entries. -/
theorem setUpOn_empty : OpenStore.setUpOn store ∅ = .ok store.started := by
  -- On no entries the version is missing, so setting up marks the current one.
  have hversion : ((∅ : Entries).insert store.layout.rootMarker []).contains
      store.layout.versionKey = false := by
    rw [KeyMap.contains, KeyMap.find?_insert_of_ne _ _ KeyLayout.versionKey_ne_rootMarker]
    rfl
  have hstarted : store.opened ∅ = store.started := by
    unfold opened started
    dsimp only
    rw [hversion, if_neg Bool.false_ne_true]
  unfold OpenStore.setUpOn
  show (exec (store.setUp : StoreM Reliable Unit) ⟨∅, {}⟩).1.map
    (fun _ => (exec (store.setUp : StoreM Reliable Unit) ⟨∅, {}⟩).2.entries) = _
  rw [exec_setUp, hstarted]
  rfl

/-- Erasing a store without faults. -/
theorem exec_eraseAll :
    exec (store.eraseAll : StoreM Reliable Unit) ⟨es, s⟩ = (.ok (), ⟨store.erased es, s⟩) := by
  have hstep : ∀ c es, exec (store.eraseCategory c : StoreM Reliable Unit) ⟨es, s⟩ =
      (.ok (), ⟨(es.eraseStartingWith (store.layout.categoryRoot c)).insert
        (store.layout.categoryRoot c) [], s⟩) := fun _ _ => rfl
  exact exec_forM_of_ok (v := fun es => (⟨es, s⟩ : Medium Reliable)) hstep _ _

/-! ### Keys -/

/-- After the roots are set up, they are there, and every other key is as it was. -/
theorem find?_foldl_insert (cs : List Category) (es : Entries) (k : String) :
    (cs.foldl (fun es c => es.insert (store.layout.categoryRoot c) []) es).find? k =
      if ∃ c ∈ cs, k = store.layout.categoryRoot c then some [] else es.find? k := by
  induction cs generalizing es with
  | nil => simp
  | cons c cs ih =>
    rw [List.foldl_cons, ih, KeyMap.find?_insert]
    by_cases hc : k = store.layout.categoryRoot c <;> simp [hc]

/-- What is found after a store is set up. -/
theorem find?_opened (es : Entries) (k : String) :
    (store.opened es).find? k =
      if ∃ c ∈ Category.all, k = store.layout.categoryRoot c then some []
      else if k = store.layout.versionKey then
        (es.find? k).or (some (Text.Utf8.encode currentVersion))
      else if k = store.layout.rootMarker then some []
      else es.find? k := by
  have hmarked : (es.insert store.layout.rootMarker []).find? store.layout.versionKey =
      es.find? store.layout.versionKey :=
    KeyMap.find?_insert_of_ne _ _ KeyLayout.versionKey_ne_rootMarker
  unfold opened
  dsimp only
  rw [find?_foldl_insert, KeyMap.contains, hmarked]
  by_cases hversion : k = store.layout.versionKey
  · subst hversion
    cases hv : es.find? store.layout.versionKey with
    | none => simp
    | some v => simp [hmarked, hv]
  · cases hv : es.find? store.layout.versionKey with
    | none => simp [KeyMap.find?_insert, hversion]
    | some v => simp [KeyMap.find?_insert, hversion]

theorem find?_started {c : Category} {id : String} (leaf : String) :
    store.started.find? (store.layout.subtree c id ++ leaf) = none := by
  have hroot : store.layout.subtree c id ++ leaf ≠ store.layout.rootMarker := fun h =>
    KeyLayout.subtree_append_ne_path (x := "") (by decide) (h.trans String.append_empty.symm)
  have hversion : store.layout.subtree c id ++ leaf ≠ store.layout.versionKey :=
    KeyLayout.subtree_append_ne_path (by decide)
  unfold started
  dsimp only
  rw [find?_foldl_insert, if_neg fun ⟨d, _, hd⟩ => KeyLayout.subtree_append_ne_categoryRoot hd,
    KeyMap.find?_insert_of_ne _ _ hversion, KeyMap.find?_insert_of_ne _ _ hroot]
  rfl

/-- Erasing acts key by key. -/
theorem find?_erased_congr {es' : Entries} {k : String} (h : es.find? k = es'.find? k) :
    (store.erased es).find? k = (store.erased es').find? k := by
  unfold erased
  induction Category.all generalizing es es' with
  | nil => exact h
  | cons c cs ih =>
    rw [List.foldl_cons, List.foldl_cons]
    apply ih
    rw [KeyMap.find?_insert, KeyMap.find?_insert, KeyMap.find?_eraseStartingWith,
      KeyMap.find?_eraseStartingWith, h]

/-- A key that is no root is gone after its category is erased. -/
theorem find?_foldl_erase {k : String} (hk : ∀ c, k ≠ store.layout.categoryRoot c)
    (cs : List Category) (es : Entries) :
    (cs.foldl (fun es c => (es.eraseStartingWith (store.layout.categoryRoot c)).insert
        (store.layout.categoryRoot c) []) es).find? k =
      if ∃ c ∈ cs, hasPrefix (store.layout.categoryRoot c) k then none else es.find? k := by
  induction cs generalizing es with
  | nil => simp
  | cons c cs ih =>
    rw [List.foldl_cons, ih, KeyMap.find?_insert_of_ne _ _ (hk c), KeyMap.find?_eraseStartingWith]
    by_cases hc : hasPrefix (store.layout.categoryRoot c) k <;> simp [hc]

theorem find?_erased {c : Category} {id : String} (leaf : String) :
    (store.erased es).find? (store.layout.subtree c id ++ leaf) = none := by
  have hc : c ∈ Category.all := by cases c <;> decide
  unfold erased
  rw [find?_foldl_erase fun d => KeyLayout.subtree_append_ne_categoryRoot,
    if_pos ⟨c, hc, KeyLayout.hasPrefix_subtree_append⟩]

end VolumeOverlay.Store
