import VolumeOverlay.Proofs.Store.Opening

/-!
# Histories of a store

What a store holds goes back to its history: it was set up on nothing, and commands were run on it one
after the other. Commands drop keys as they like, but store bytes only under keys that can be told
from their arguments, whether or not they come to their end. A key that is stored at last is therefore
one of the fixed keys or one that some command of the history is for.

## Main definitions

* `Store.Command.Puts store c k`: a key that a command may store bytes under
* `Entries.Within G es`: every stored key has a property
* `Store.ReachedBy P es`: contents after a history of commands of a kind
* `Store.savedFresh v`: contents after the history in which one volume was saved

## Main results

* `Store.Command.moves_within`: one command keeps a property of all keys that it has of its own
* `Store.ReachedBy.exists_puts`: where the stored keys come from
-/

namespace VolumeOverlay

open Actions
open Text (hasPrefix)

/-- Every stored key has a property. -/
def Entries.Within (G : String → Prop) (es : Entries) : Prop :=
  ∀ k, es.contains k → G k

variable {σ : Type} {G : String → Prop}

/-- Keys may go, and bytes may be stored where the property holds. -/
theorem Entries.admits_within :
    Admits (OnEntries σ (Stays (Entries.Within G))) fun k a => a ≠ none → G k where
  insert m k value hk hm k' hk' := by
    by_cases hne : k' = k
    · subst hne
      exact hk (Option.some_ne_none value)
    · rw [KeyMap.contains, KeyMap.find?_insert_of_ne _ _ hne] at hk'
      exact hm k' hk'
  erase m k _ hm k' hk' := by
    rw [KeyMap.contains, KeyMap.find?_erase] at hk'
    split at hk'
    · cases hk'
    · exact hm k' hk'

namespace Store

variable [FaultSource σ] {store : Store} {P : Command → Prop} {es : Entries}

/-! ### One command -/

/-- The keys that a command may store bytes under. Of an object these are its own key and its
leaves. -/
def Command.Puts (store : Store) : Command → String → Prop
  | .put key _, k => k = key
  | .eraseCategory c, k => k = store.layout.categoryRoot c
  | .eraseAll, k => ∃ c, k = store.layout.categoryRoot c
  | .saveVolume v, k => ∃ c ∈ Category.ofVolumes, store.layout.Direct c v.overlayId.text k
  | .saveLabels c id _, k => store.layout.Direct c id k
  | .saveSnapshot s, k => store.layout.Direct .snapshot s.snapshotId.text k
  | _, _ => False

/-- Saving texts stores bytes under leaves only, since any other name is refused. -/
theorem moves_within_saveTexts {category : Category} {id : String} (texts : List (String × String))
    (h : ∀ k, store.layout.Direct category id k → G k) :
    Moves (OnEntries σ (Stays (Entries.Within G)))
      (store.saveTexts category id texts : StoreM σ Unit) := by
  refine moves_saveTexts_of_checked texts fun hleaf => Entries.admits_within.mono ?_
  intro k a hset ha
  cases hset with
  | marker => exact h _ KeyLayout.direct_subtree
  | text ht => exact h _ (KeyLayout.direct_append (slash_notMem_of_isLeaf (hleaf _ ht)))
  | stale hk hs => exact absurd rfl ha

/-- A property of all stored keys is kept by a command if the keys that the command may store have
it. -/
theorem Command.moves_within (c : Command) (h : ∀ k, c.Puts store k → G k) :
    Moves (OnEntries σ (Stays (Entries.Within G))) (c.run store : StoreM σ Answer) := by
  have hdrop : Admits (OnEntries σ (Stays (Entries.Within G))) fun _ a => a = none :=
    Entries.admits_within.mono fun _ _ hnone ha => absurd hnone ha
  have hput : ∀ {key : String}, G key → ∀ value,
      Moves (OnEntries σ (Stays (Entries.Within G))) (StoreM.put key value : StoreM σ Unit) :=
    fun hkey value => StoreM.moves_put fun m => Entries.admits_within.insert m _ _ fun _ => hkey
  have htree : ∀ key : String,
      Moves (OnEntries σ (Stays (Entries.Within G))) (StoreM.deleteTree key : StoreM σ Unit) :=
    fun key => StoreM.moves_deleteTree fun m => hdrop.eraseStartingWith m fun _ _ => rfl
  match c, h with
  | .put key value, h => exact (hput (h key rfl) value).map _
  | .get key, _ => exact (StoreM.moves_get key).map _
  | .getText key, _ => exact ((StoreM.moves_get key).map _).map _
  | .list key, _ => exact (StoreM.moves_list key).map _
  | .delete key, _ => exact (StoreM.moves_delete fun m => hdrop.erase m key rfl).map _
  | .deleteTree key, _ => exact (htree key).map _
  | .exists key, _ => exact (StoreM.moves_exists? key).map _
  | .version, _ => exact ((StoreM.moves_get _).map _).map _
  | .eraseCategory c, h => exact ((htree _).bind fun _ => hput (h _ rfl) _).map _
  | .eraseAll, h =>
    exact (Moves.forM fun c _ => (htree _).bind fun _ => hput (h _ ⟨c, rfl⟩) _).map _
  | .isRegistered id, _ => exact (moves_isRegistered id).map _
  | .saveVolume v, h =>
    refine (moves_saveVolume_parts (Entries.admits_within.mono ?_) (fun _ => ?_) ?_).map _
    · exact fun k _ hk _ => h k ⟨.index, by decide, hk.2⟩
    · exact moves_within_saveTexts _ fun k hk => h k ⟨.externalFields, by decide, hk⟩
    · exact moves_within_saveTexts _ fun k hk => h k ⟨.adminLabels, by decide, hk⟩
  | .loadVolume v, _ =>
    refine (moves_loadVolume v).bind fun answer => ?_
    cases answer <;> exact Moves.pure _
  | .removeVolume id, _ => exact (moves_removeVolumeOf (hdrop.mono fun _ _ hk => hk.2)).map _
  | .volumeIds, _ => exact ((StoreM.moves_listOrNone _).map _).map _
  | .saveLabels c id labels, h => exact (moves_within_saveTexts _ h).map _
  | .loadLabels c id, _ => exact moves_loadTexts.map _
  | .saveSnapshot s, h => exact (moves_within_saveTexts _ h).map _
  | .loadSnapshot s, _ => exact (moves_loadTexts.map _).map _
  | .removeSnapshot id, _ => exact (moves_objectKey_bind (htree _)).map _

theorem Command.within_effect {c : Command} (h : ∀ k, c.Puts store k → G k) (hes : es.Within G) :
    (effect (c.run store) es).2.Within G :=
  c.moves_within h ⟨es, Reliable.mk⟩ hes

/-- The command leaves what the operation leaves. -/
theorem Command.effect_saveVolume (store : Store) (v : Volume) (es : Entries) :
    (effect ((Command.saveVolume v).run store) es).2 = (effect (store.saveVolume v) es).2 := by
  have hrun : ((Command.saveVolume v).run store : StoreM Reliable Answer) =
      store.saveVolume v >>= fun _ => pure .done := rfl
  rw [hrun, effect, exec_bind_pure_snd, effect]

/-! ### Histories -/

/-- The contents of a store that was set up on nothing and has gone through commands of a kind without
faults, each with texts in whatever order. A command that was refused counts with what it had done
before. -/
inductive ReachedBy (store : Store) (P : Command → Prop) : Entries → Prop
  | fresh : ReachedBy store P (effect store.setUp ∅).2
  | step {es : Entries} {c : Command} (order : TextOrder) (h : ReachedBy store P es) (hc : P c) :
    ReachedBy store P (effect (c.run (store.inOrder order)) es).2

namespace ReachedBy

/-- What the fixed keys and the commands of a history have, every stored key has. -/
theorem within (h : store.ReachedBy P es) (hfixed : ∀ k ∈ store.layout.fixedKeys, G k)
    (hputs : ∀ c, P c → ∀ k, c.Puts store k → G k) : es.Within G := by
  induction h with
  | fresh =>
    intro k hk
    refine hfixed k (Decidable.byContradiction fun hnot => ?_)
    -- Setting up leaves any other key as it was, which was absent.
    have hagree := (preserved_setUp store (⟨∅, {}⟩ : Medium Reliable)).agree k hnot
    rw [effect, KeyMap.contains, ← hagree] at hk
    cases hk
  | step order _ hc ih =>
    exact Command.within_effect (hputs _ hc) ih

/-- A stored key is a fixed key, or a command of the history is for it. -/
theorem exists_puts (h : store.ReachedBy P es) {k : String} (hk : es.contains k) :
    k ∈ store.layout.fixedKeys ∨ ∃ c, P c ∧ c.Puts store k :=
  h.within (G := fun k => k ∈ store.layout.fixedKeys ∨ ∃ c, P c ∧ c.Puts store k)
    (fun _ hfixed => .inl hfixed) (fun c hc _ hputs => .inr ⟨c, hc, hputs⟩) k hk

end ReachedBy

/-- What a store holds after it was set up on nothing and one volume was saved. -/
def savedFresh (store : Store) (v : Volume) : Entries :=
  (effect ((Command.saveVolume v).run store) (effect store.setUp ∅).2).2

theorem reachedBy_savedFresh {v : Volume} (h : P (.saveVolume v)) :
    store.ReachedBy P (store.savedFresh v) :=
  .step store.order .fresh h

end Store

end VolumeOverlay
