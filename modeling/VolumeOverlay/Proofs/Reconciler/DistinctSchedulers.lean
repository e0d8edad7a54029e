import VolumeOverlay.Proofs.Reconciler.Invariant
import VolumeOverlay.Proofs.Reconciler.OverlayMap
import VolumeOverlay.Proofs.Store.Categories
import VolumeOverlay.Proofs.Store.Reading
import VolumeOverlay.Proofs.Store.Schedulers.Algebra

/-!
# Scheduler lists without repetitions

The store takes a scheduler list as it comes. That none with a repetition is ever stored is due to the
reconciler: an offer and the creation of a volume keep each requested name once, a revocation only
leaves names out, and what was loaded before it is written back was stored without repetitions. The
invariant is about all keys of the index with the name of a scheduler list, whichever id they belong
to, so it holds of overlapping ids as well, and no failure in the midst of a write can break it, since
a list is written by a single call.

## Main definitions

* `KeyLayout.IsSchedulersKey k`: a key of the index that holds a scheduler list
* `KeyLayout.Distinct es`: every stored scheduler list is without repetitions
* `Event`: a request, a change of the provider, or a reopening of the store
* `Site`: a provider, and a store on its medium; `Event.step layout e`: what an event leads to

## Main results

* `Store.maintains_distinct`, `ensures_distinct_setUp`: what writing, removing and setting up keep
* `Store.ensures_distinct_load`: what is loaded is without repetitions
* `Event.step_distinct`: one event
* `schedulers_distinct`: every run
-/

namespace VolumeOverlay

open Actions
open Text (hasPrefix)

variable {π σ : Type} {layout : KeyLayout}

/-! ### Stored lists -/

namespace KeyLayout

/-- A key of the index that holds a scheduler list. -/
def IsSchedulersKey (layout : KeyLayout) (k : String) : Prop :=
  hasPrefix (layout.categoryRoot .index) k ∧ leafOf k = .ok Store.schedulersLeaf

/-- Bytes under a key are the stored form of a list that is not empty and has no name twice. -/
def HoldsDistinct (k : String) (value : Bytes) : Prop :=
  ∃ names, Schedulers.decode k value = .ok names ∧ names ≠ [] ∧ names.Nodup

/-- Every stored scheduler list can be read, is not empty, and has no name twice. -/
def Distinct (layout : KeyLayout) (es : Entries) : Prop :=
  ∀ k value, layout.IsSchedulersKey k → es.find? k = some value → HoldsDistinct k value

/-- A key may be set to this without harm to any scheduler list. -/
def Harmless (layout : KeyLayout) (k : String) (a : Option Bytes) : Prop :=
  layout.IsSchedulersKey k → ∀ value, a = some value → HoldsDistinct k value

theorem distinct_empty : layout.Distinct ∅ := by
  intro k value _ hfind
  cases hfind

theorem admits_distinct :
    Admits (OnEntries σ (Stays layout.Distinct)) layout.Harmless where
  insert m k value hk hes k' value' hkey hfind := by
    have hfind' : (m.entries.insert k value).find? k' = some value' := hfind
    rw [KeyMap.find?_insert] at hfind'
    split at hfind'
    · rename_i heq
      subst heq
      exact hk hkey value' hfind'
    · exact hes k' value' hkey hfind'
  erase m k hk hes k' value' hkey hfind := by
    have hfind' : (m.entries.erase k).find? k' = some value' := hfind
    rw [KeyMap.find?_erase] at hfind'
    split at hfind'
    · cases hfind'
    · exact hes k' value' hkey hfind'

/-! ### Keys that hold no scheduler list -/

theorem harmless_none (k : String) : layout.Harmless k none :=
  fun _ _ hnone => nomatch hnone

theorem harmless_of_not {k : String} (h : ¬ layout.IsSchedulersKey k) (a : Option Bytes) :
    layout.Harmless k a :=
  fun hkey => absurd hkey h

/-- Of the leaves of an object, only one of that name holds a scheduler list. -/
theorem not_isSchedulersKey_of_leafOf {k leaf : String} (hk : leafOf k = .ok leaf)
    (hleaf : leaf ≠ Store.schedulersLeaf) : ¬ layout.IsSchedulersKey k := by
  rintro ⟨-, hname⟩
  rw [hk] at hname
  exact hleaf (Except.ok.inj hname)

/-- Other categories hold no scheduler lists. -/
theorem not_isSchedulersKey_of_subtree {category : Category} {id k : String}
    (hne : category ≠ .index) (hk : hasPrefix (layout.subtree category id) k) :
    ¬ layout.IsSchedulersKey k := by
  rintro ⟨hindex, -⟩
  obtain ⟨leaf, rfl⟩ := Text.hasPrefix_iff_exists.1 hk
  exact (categoryRoot_diverge hne).not_hasPrefix hasPrefix_subtree_append hindex

/-- A key that is made of the root and one more segment lies in no category. -/
theorem not_isSchedulersKey_of_path {x : String}
    (hx : ¬ hasPrefix (Category.index.segment ++ "/") x) :
    ¬ layout.IsSchedulersKey (layout.path ++ x) := by
  rintro ⟨hindex, -⟩
  rw [categoryRoot, String.append_assoc, Text.hasPrefix_append_left_iff] at hindex
  exact hx hindex

end KeyLayout

namespace Store

open KeyLayout

variable {store : Store} [FaultSource σ]

/-- Writing the record of a volume harms no scheduler list, if its own has no name twice. -/
theorem harmless_of_sets {v : Volume} (hv : v.schedulers.Nodup) {k : String} {a : Option Bytes}
    (h : store.Sets v k a) : store.layout.Harmless k a := by
  cases h with
  | root =>
    -- The root of an object is the key of a leaf without a name.
    apply harmless_of_not
    rw [← String.append_empty (s := store.layout.subtree _ _)]
    exact not_isSchedulersKey_of_leafOf (leafOf_subtree (by decide)) (by decide)
  | marker =>
    apply harmless_of_not
    exact not_isSchedulersKey_of_leafOf (leafOf_subtree (by decide)) (by decide)
  | schedulers =>
    intro _ value hvalue
    exact ⟨v.schedulers, Schedulers.decode_encode hvalue _, Schedulers.ne_nil_of_encode hvalue, hv⟩
  | serviceName =>
    apply harmless_of_not
    exact not_isSchedulersKey_of_leafOf (leafOf_subtree (by decide)) (by decide)
  | field hp h =>
    apply harmless_of_not
    exact not_isSchedulersKey_of_subtree (by decide) h.inSubtree
  | label h =>
    apply harmless_of_not
    exact not_isSchedulersKey_of_subtree (by decide) h.inSubtree

/-- The markers and roots of a store are no scheduler lists. -/
theorem harmless_of_marks {k : String} {a : Option Bytes} (h : store.Marks k a) :
    store.layout.Harmless k a := by
  apply harmless_of_not
  cases h with
  | root =>
    rw [rootMarker, ← String.append_empty (s := store.layout.path)]
    exact not_isSchedulersKey_of_path (by decide)
  | version => exact not_isSchedulersKey_of_path (by decide)
  | category c => exact not_isSchedulersKey_of_leafOf (leafOf_categoryRoot c) (by decide)

/-! ### What store actions keep -/

omit [FaultSource σ] in
/-- A store action whose changes are harmless keeps every scheduler list free of repetitions. -/
theorem ensures_distinct {α : Type} {x : StoreM σ α}
    (h : Moves (OnEntries σ (Stays store.layout.Distinct)) x) :
    Ensures (fun m => store.layout.Distinct m.entries) (fun _ => True) x :=
  Ensures.of_moves h fun _ _ hstays => hstays

/-- What is loaded is without repetitions. -/
theorem ensures_distinct_load (v : Volume) :
    Ensures (fun m => store.layout.Distinct m.entries)
      (fun answer => ∀ w, answer = some w → w.schedulers.Nodup)
      (store.loadVolume v : StoreM σ (Option Volume)) := by
  apply Ensures.of_entries
  intro es hes
  refine (ensures_loadVolume v (ensures_loadTexts_any _ _)).mono fun answer hanswer w hw => ?_
  obtain ⟨-, entry, labels, fields, hentry, -, rfl⟩ := hanswer w hw
  rw [ofEntries_startingWith] at hentry
  -- The list is the one under its key, and what is stored there has no name twice.
  cases hfind : es.find? (store.layout.subtree .index v.overlayId.text ++ schedulersLeaf) with
  | none =>
    rw [hfind] at hentry
    cases hentry
    exact List.nodup_nil
  | some value =>
    obtain ⟨names, hdecode, -, hnodup⟩ := hes _ value
      ⟨hasPrefix_subtree_append, leafOf_subtree (by decide)⟩ hfind
    rw [hfind, schedulersAt, hdecode] at hentry
    cases hentry
    exact hnodup

theorem maintains_distinct :
    Reconciler.Maintains (σ := σ) store (fun m => store.layout.Distinct m.entries)
      (fun _ => True) (fun v => v.schedulers.Nodup) where
  load v _ := ensures_distinct_load v
  save v hv := by
    have hmoves : Moves (OnEntries σ (Stays store.layout.Distinct)) (store.saveVolume v) :=
      moves_saveVolumeInOrder (store.order.perm _) (store.order.perm _)
        (admits_distinct.mono fun _ _ hset => harmless_of_sets hv hset)
    exact ensures_distinct hmoves

theorem ensures_distinct_remove (id : OverlayId) :
    Ensures (fun m => store.layout.Distinct m.entries) (fun _ => True)
      (store.removeVolume id : StoreM σ Unit) := by
  apply ensures_distinct
  apply moves_removeVolumeOf
  apply admits_distinct.mono
  rintro k a ⟨-, rfl⟩
  exact harmless_none k

theorem ensures_distinct_eraseAll :
    Ensures (fun m => store.layout.Distinct m.entries) (fun _ => True)
      (store.eraseAll : StoreM σ Unit) := by
  apply ensures_distinct
  refine moves_eraseAll admits_distinct (fun c => ?_) fun c k _ => harmless_none k
  exact harmless_of_marks (.category c)

theorem ensures_distinct_setUp :
    Ensures (fun m => store.layout.Distinct m.entries) (fun _ => True)
      (store.setUp : StoreM σ Unit) := by
  apply ensures_distinct
  exact moves_setUp (admits_distinct.mono fun _ _ hmarks => harmless_of_marks hmarks)

end Store

/-! ### Requests -/

namespace Reconciler

variable [VolumeProvider π]

/-- Offers, revocations and labels repeat no scheduler. -/
theorem alterable_nodup : Alterable fun v => v.schedulers.Nodup where
  offer _ names _ := Schedulers.nodup_dedup names
  revoke _ names hv := Schedulers.nodup_revoke hv names
  relabel _ _ hv := hv

/-- The volumes that a command meets have no schedulers yet, or those that were asked for, each once.
Only joining a volume that is given takes it with the schedulers that it has. -/
theorem nodup_of_meets {c : Command} (hc : ∀ v existence, c ≠ .reconcile v existence) {p : π}
    {v : Volume} (h : c.Meets p v) : v.schedulers.Nodup := by
  have hlisted : Listed p v → v.schedulers.Nodup := by
    intro h
    obtain ⟨service, external, rfl⟩ := h.exists_ofExternal
    exact List.nodup_nil
  have hnamed : ∀ text, Named p text v → v.schedulers.Nodup := by
    rintro text ⟨service, volumeId, external, -, -, rfl⟩
    exact List.nodup_nil
  cases c with
  | reconcile u existence => exact absurd rfl (hc u existence)
  | list filter => exact hlisted h
  | listAll filter => exact hlisted h
  | inspect text => exact hnamed text h
  | offer text requested => exact hnamed text h
  | revoke text revoked => exact hnamed text h
  | label text labels => exact hnamed text h
  | removeLabels text keys => exact hnamed text h
  | create request =>
    obtain ⟨external, -, rfl⟩ := h
    exact Schedulers.nodup_dedup _
  | remove text => exact h.elim

variable [FaultSource σ]

/-- The volumes in the answer to a command; a failed one has none. -/
def returned (answer : Except VolumeError Answer) : List Volume :=
  match answer with
  | .ok a => a.shown
  | .error _ => []

/-- A run that keeps every scheduler list free of repetitions, and answers only such volumes. -/
abbrev KeepsDistinct (layout : KeyLayout) (x : ReconcilerM π σ Answer) : Prop :=
  Keeps (fun _ => True) (fun m : Medium σ => layout.Distinct m.entries)
    (fun a => ∀ v ∈ a.shown, v.schedulers.Nodup) x

theorem keepsDistinct_command (store : Store) {c : Command}
    (hc : ∀ v existence, c ≠ .reconcile v existence) :
    KeepsDistinct store.layout (c.run store : ReconcilerM π σ Answer) := by
  apply c.keeps Store.maintains_distinct alterable_nodup
  · intro p _ v hv
    exact ⟨trivial, nodup_of_meets hc hv⟩
  · intro text _ _
    exact Store.ensures_distinct_remove _

theorem keepsDistinct_request (store : Store) (r : OverlayMap.Request) :
    KeepsDistinct store.layout (r.run store : ReconcilerM π σ Answer) := by
  cases r with
  | list filter => exact keepsDistinct_command store nofun
  | listAll filter => exact keepsDistinct_command store nofun
  | inspect id => exact keepsDistinct_command store nofun
  | offer id requested => exact keepsDistinct_command store nofun
  | revoke id revoked => exact keepsDistinct_command store nofun
  | label id labels => exact keepsDistinct_command store nofun
  | removeLabels id keys => exact keepsDistinct_command store nofun
  | create request => exact keepsDistinct_command store nofun
  | remove id => exact keepsDistinct_command store nofun
  | eraseStore =>
    have herase : Ensures (Both (fun _ : π => True) _) (fun _ => True)
        (ReconcilerM.onStore store.eraseAll : ReconcilerM π σ Unit) :=
      ensures_onStore Store.ensures_distinct_eraseAll
    exact (Keeps.of_ensures herase).map fun _ _ v hv => absurd hv List.not_mem_nil

/-! ### Runs -/

/-- What happens to a store: a client asks for something, and texts are then visited in any order; the
provider changes by itself; or the store is opened again, with or without what it held. -/
inductive Event (π : Type) where
  | asked (request : OverlayMap.Request) (order : TextOrder)
  | changed (provider : π)
  | reopened (persistFields kept : Bool)

/-- A provider and the medium of a store, which may mirror fields. -/
structure Site (π σ : Type) where
  persistFields : Bool
  world : World π σ

/-- A medium as a reopened store finds it: a store in memory starts anew. -/
def Site.found (kept : Bool) (m : Medium σ) : Medium σ :=
  if kept then m else { m with entries := ∅ }

/-- What an event leads to, and the volumes that are returned. Nothing is taken back when a call
fails, also while the store is set up. -/
def Event.step (layout : KeyLayout) : Event π → Site π σ → List Volume × Site π σ
  | .asked request order, s =>
    let (answer, world) := exec (request.run ⟨layout, s.persistFields, order⟩) s.world
    (returned answer, { s with world })
  | .changed provider, s => ([], { s with world.provider := provider })
  | .reopened persistFields kept, s =>
    let store : Store := { layout, persistFields }
    let medium := (exec (store.setUp : StoreM σ Unit) (Site.found kept s.world.medium)).2
    ([], ⟨persistFields, { s.world with medium }⟩)

/-- One event keeps every scheduler list free of repetitions, and returns only such volumes. -/
theorem Event.step_distinct (e : Event π) {s : Site π σ}
    (h : layout.Distinct s.world.medium.entries) :
    layout.Distinct (e.step layout s).2.world.medium.entries ∧
      ∀ v ∈ (e.step layout s).1, v.schedulers.Nodup := by
  cases e with
  | asked request order =>
    obtain ⟨hkept, hanswer⟩ :=
      keepsDistinct_request ⟨layout, s.persistFields, order⟩ request s.world trivial h
    refine ⟨hkept, fun v hv => ?_⟩
    unfold step returned at hv
    dsimp only at hv
    split at hv
    · rename_i a ha
      exact hanswer a ha v hv
    · exact absurd hv List.not_mem_nil
  | changed provider => exact ⟨h, fun v hv => absurd hv List.not_mem_nil⟩
  | reopened persistFields kept =>
    -- A store that is opened finds what was there, or nothing at all.
    have hfound : layout.Distinct (Site.found kept s.world.medium).entries := by
      cases kept with
      | true => exact h
      | false => exact KeyLayout.distinct_empty
    let store : Store := { layout, persistFields }
    have hsetUp : Ensures (fun m => store.layout.Distinct m.entries) (fun _ => True)
        (store.setUp : StoreM σ Unit) := Store.ensures_distinct_setUp
    exact ⟨(hsetUp _ hfound).1, fun v hv => absurd hv List.not_mem_nil⟩

/-- From wherever no scheduler list has a repetition, no run leads to one, and no volume is returned
with one. -/
theorem distinct_of_run (events : List (Event π)) {s : Site π σ}
    (h : layout.Distinct s.world.medium.entries) :
    layout.Distinct (events.foldl (fun s e => (e.step layout s).2) s).world.medium.entries ∧
      ∀ vs ∈ answers (Event.step layout) events s, ∀ v ∈ vs, v.schedulers.Nodup := by
  induction events generalizing s with
  | nil => exact ⟨h, fun vs hvs => absurd hvs List.not_mem_nil⟩
  | cons e events ih =>
    obtain ⟨hstep, hreturned⟩ := e.step_distinct h
    obtain ⟨hrest, hlater⟩ := ih hstep
    exact ⟨hrest, List.forall_mem_cons.2 ⟨hreturned, hlater⟩⟩

/-- Scheduler lists never hold a name twice. In every run that starts from no entries, whatever the
provider, the ids, the root and the calls that fail, every scheduler list that is stored in the index
can be read, is not empty and has no name twice, and so has every volume that is returned on the
way. -/
theorem schedulers_distinct (layout : KeyLayout) (events : List (Event π)) (persistFields : Bool)
    (p : π) (faults : σ) :
    let start : Site π σ := ⟨persistFields, p, ∅, faults⟩
    layout.Distinct (events.foldl (fun s e => (e.step layout s).2) start).world.medium.entries ∧
      ∀ vs ∈ answers (Event.step layout) events start, ∀ v ∈ vs, v.schedulers.Nodup :=
  distinct_of_run events KeyLayout.distinct_empty

end Reconciler

end VolumeOverlay
