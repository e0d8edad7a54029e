import VolumeOverlay.Proofs.Actions
import VolumeOverlay.Proofs.KeyMap
import VolumeOverlay.Store.Basic

/-!
# Backend calls

What a single call of the store does to a medium. The source of faults is asked first: when it lets
the call fail, only the source changes; when it lets the call pass, the call has its effect on the
entries. On a medium without faults only the second case remains, and the call is a function of the
entries.

## Main definitions

* `Allows ρ S`: a relation between media leads on when keys of a set are changed
* `Admits ρ P`: a relation between media leads on when keys are set as `P` says
* `MediumOrder ρ`: a relation between media that leads on, whatever the source of faults says
* `OnEntries ρ`: a relation between entries as one between media
* `Stays J`: a property of entries is not lost

## Main results

* `StoreM.moves_put`, `moves_delete`, `moves_deleteTree`: a relation that a change of the entries
  keeps is kept by the call
* `StoreM.exec_put`, `exec_delete`, `exec_list`, `exec_listOrNone`: the calls without faults
* `StoreM.exec_exists?_eq`, `exec_get_eq`, `exec_list_eq`: what the reading calls answer on any medium
* `StoreM.exec_deleteTree_eq`: what removing a prefix does on any medium
-/

namespace VolumeOverlay

open Actions
open Text (hasPrefix)

variable {σ : Type}

/-! ### Changes of keys -/

section Changes

variable {ρ : Medium σ → Medium σ → Prop} {P Q : String → Option Bytes → Prop}

/-- A relation between media leads on when keys of a set are changed. -/
structure Allows (ρ : Medium σ → Medium σ → Prop) (S : String → Prop) : Prop where
  insert : ∀ (m : Medium σ) k value, S k → ρ m { m with entries := m.entries.insert k value }
  erase : ∀ (m : Medium σ) k, S k → ρ m { m with entries := m.entries.erase k }

/-- A relation between media leads on when keys are set as a predicate says: to bytes, or to nothing
at all. -/
structure Admits (ρ : Medium σ → Medium σ → Prop) (P : String → Option Bytes → Prop) : Prop where
  insert : ∀ (m : Medium σ) k value, P k (some value) →
    ρ m { m with entries := m.entries.insert k value }
  erase : ∀ (m : Medium σ) k, P k none → ρ m { m with entries := m.entries.erase k }

/-- Where keys may change at will, they may be set to anything. -/
theorem Allows.admits {S : String → Prop} (h : Allows ρ S) (hP : ∀ k a, P k a → S k) :
    Admits ρ P where
  insert m k value hk := h.insert m k value (hP k _ hk)
  erase m k hk := h.erase m k (hP k _ hk)

theorem Admits.mono (h : Admits ρ P) (hQ : ∀ k a, Q k a → P k a) : Admits ρ Q where
  insert m k value hk := h.insert m k value (hQ k _ hk)
  erase m k hk := h.erase m k (hQ k _ hk)

variable [Std.Refl ρ] [IsTrans _ ρ]

theorem Admits.eraseMany (h : Admits ρ P) (m : Medium σ) (ks : List String)
    (hks : ∀ k ∈ ks, P k none) : ρ m { m with entries := m.entries.eraseMany ks } := by
  induction ks generalizing m with
  | nil => exact Std.Refl.refl m
  | cons k ks ih =>
    have hfirst := h.erase m k (hks k List.mem_cons_self)
    have hrest := ih { m with entries := m.entries.erase k }
      fun k' hk' => hks k' (List.mem_cons_of_mem _ hk')
    exact IsTrans.trans _ _ _ hfirst hrest

/-- Where the keys under a prefix may go, all of them may go at once. -/
theorem Admits.eraseStartingWith {p : String} (h : Admits ρ P) (m : Medium σ)
    (hp : ∀ k, hasPrefix p k → P k none) :
    ρ m { m with entries := m.entries.eraseStartingWith p } := by
  apply h.eraseMany m
  intro k hk
  exact hp k (KeyMap.mem_map_startingWith.1 hk).2

theorem Allows.eraseStartingWith {S : String → Prop} {p : String} (h : Allows ρ S) (m : Medium σ)
    (hp : ∀ k, hasPrefix p k → S k) :
    ρ m { m with entries := m.entries.eraseStartingWith p } :=
  (h.admits (P := fun k _ => S k) fun _ _ hk => hk).eraseStartingWith m hp

end Changes

variable [FaultSource σ]

/-! ### Relations between media -/

/-- A relation between media that is reflexive and transitive, and that asking the source of faults
keeps. -/
class MediumOrder (ρ : Medium σ → Medium σ → Prop) : Prop extends Std.Refl ρ, IsTrans _ ρ where
  asked : ∀ m call, ρ m { m with faults := (FaultSource.next m.faults call).2 }

/-- A relation between entries as one between media. -/
def OnEntries (σ : Type) (ρ : Entries → Entries → Prop) (m m' : Medium σ) : Prop :=
  ρ m.entries m'.entries

instance (ρ : Entries → Entries → Prop) [Std.Refl ρ] [IsTrans _ ρ] :
    MediumOrder (OnEntries σ ρ) where
  refl m := Std.Refl.refl m.entries
  trans m₁ m₂ m₃ := IsTrans.trans m₁.entries m₂.entries m₃.entries
  asked m _ := Std.Refl.refl m.entries

/-- A property of entries is not lost. -/
def Stays (J : Entries → Prop) (es es' : Entries) : Prop :=
  J es → J es'

instance (J : Entries → Prop) : Std.Refl (Stays J) where
  refl _ h := h

instance (J : Entries → Prop) : IsTrans Entries (Stays J) where
  trans _ _ _ h h' hes := h' (h hes)

/-! ### Calls of a backend -/

namespace BackendM

theorem exec_consult (kind : CallKind) (key : String) (m : Medium σ) :
    exec (consult kind key : BackendM σ Unit) m =
      (match (FaultSource.next m.faults ⟨kind, key⟩).1 with
        | some fault => .error (fault.error ⟨kind, key⟩)
        | none => .ok (),
        { m with faults := (FaultSource.next m.faults ⟨kind, key⟩).2 }) := by
  unfold consult
  -- The source has been asked when the call fails, so its state is the new one in both cases.
  rw [exec_bind_of_ok (exec_get m)]
  dsimp only
  rw [exec_bind_of_ok (exec_set _ m)]
  cases (FaultSource.next m.faults ⟨kind, key⟩).1 <;> rfl

omit [FaultSource σ] in
theorem exec_entries (m : Medium σ) : exec (entries : BackendM σ Entries) m = (.ok m.entries, m) :=
  rfl

/-- A call fails when the source says so, and goes on otherwise. -/
theorem exec_consult_bind {α : Type} (kind : CallKind) (key : String) (x : BackendM σ α)
    (m : Medium σ) :
    exec (consult kind key >>= fun _ => x) m =
      match FaultSource.next m.faults ⟨kind, key⟩ with
      | (some fault, s) => (.error (fault.error ⟨kind, key⟩), { m with faults := s })
      | (none, s) => exec x { m with faults := s } := by
  rw [exec_bind, exec_consult]
  rcases FaultSource.next m.faults ⟨kind, key⟩ with ⟨_ | _, s⟩ <;> rfl

variable {ρ : Medium σ → Medium σ → Prop} [MediumOrder ρ]

theorem moves_consult (kind : CallKind) (key : String) :
    Moves ρ (consult kind key : BackendM σ Unit) := fun m => by
  rw [exec_consult]
  exact MediumOrder.asked m _

theorem moves_entries : Moves ρ (entries : BackendM σ Entries) := fun m => Std.Refl.refl m

theorem moves_get (key : String) : Moves ρ (get key : BackendM σ _) := by
  refine (moves_consult .get key).bind fun _ => moves_entries.bind fun es => ?_
  split
  · exact Moves.pure _
  · exact Moves.throw _

theorem moves_list (key : String) : Moves ρ (list key : BackendM σ _) := by
  refine (moves_consult .list key).bind fun _ => moves_entries.bind fun es => ?_
  split
  · exact Moves.throw _
  · exact Moves.pure _

theorem moves_exists? (key : String) : Moves ρ (exists? key : BackendM σ _) :=
  (moves_consult .exists key).bind fun _ => moves_entries.bind fun _ => Moves.pure _

omit [FaultSource σ] [MediumOrder ρ] in
theorem moves_change {f : Entries → Entries}
    (h : ∀ m : Medium σ, ρ m { m with entries := f m.entries }) :
    Moves ρ (change f : BackendM σ Unit) := h

end BackendM

/-! ### Calls of a store -/

namespace StoreM

section Moves

variable {ρ : Medium σ → Medium σ → Prop} [MediumOrder ρ]

theorem moves_put {key : String} {value : Bytes}
    (h : ∀ m : Medium σ, ρ m { m with entries := m.entries.insert key value }) :
    Moves ρ (put key value : StoreM σ Unit) :=
  ((BackendM.moves_consult .put key).bind fun _ => BackendM.moves_change h).adapt _

theorem moves_delete {key : String}
    (h : ∀ m : Medium σ, ρ m { m with entries := m.entries.erase key }) :
    Moves ρ (delete key : StoreM σ Unit) :=
  ((BackendM.moves_consult .delete key).bind fun _ => BackendM.moves_change h).adapt _

theorem moves_deleteTree {key : String}
    (h : ∀ m : Medium σ, ρ m { m with entries := m.entries.eraseStartingWith key }) :
    Moves ρ (deleteTree key : StoreM σ Unit) :=
  ((BackendM.moves_consult .deleteTree key).bind fun _ => BackendM.moves_change h).adapt _

theorem moves_get (key : String) : Moves ρ (get key : StoreM σ _) :=
  (BackendM.moves_get key).adapt _

theorem moves_list (key : String) : Moves ρ (list key : StoreM σ _) :=
  (BackendM.moves_list key).adapt _

theorem moves_exists? (key : String) : Moves ρ (exists? key : StoreM σ _) :=
  (BackendM.moves_exists? key).adapt _

theorem moves_listOrNone (key : String) : Moves ρ (listOrNone key : StoreM σ _) := by
  refine Moves.tryCatch (moves_list key) fun e => ?_
  split
  · exact Moves.pure _
  · exact Moves.throw _

end Moves

/-- What an existence check answers on any medium. -/
theorem exec_exists?_eq (key : String) (m : Medium σ) :
    exec (exists? key : StoreM σ Bool) m =
      (match (FaultSource.next m.faults ⟨.exists, key⟩).1 with
        | some fault => .error (.backend .exists key (fault.error ⟨.exists, key⟩))
        | none => .ok (m.entries.contains key),
        { m with faults := (FaultSource.next m.faults ⟨.exists, key⟩).2 }) := by
  rw [exists?, call, exec_adapt, BackendM.exists?, BackendM.exec_consult_bind]
  rcases FaultSource.next m.faults ⟨.exists, key⟩ with ⟨_ | fault, s⟩ <;> rfl

/-- What a lookup answers on any medium. -/
theorem exec_get_eq (key : String) (m : Medium σ) :
    exec (get key : StoreM σ _) m =
      (match (FaultSource.next m.faults ⟨.get, key⟩).1 with
        | some fault => .error (.backend .get key (fault.error ⟨.get, key⟩))
        | none =>
          match m.entries.find? key with
          | some value => .ok value
          | none => .error (.backend .get key (.keyNotFound key)),
        { m with faults := (FaultSource.next m.faults ⟨.get, key⟩).2 }) := by
  rw [get, call, exec_adapt, BackendM.get, BackendM.exec_consult_bind]
  rcases FaultSource.next m.faults ⟨.get, key⟩ with ⟨_ | fault, s⟩
  · dsimp only
    rw [exec_bind_of_ok (BackendM.exec_entries _)]
    cases hv : m.entries.find? key <;> rfl
  · rfl

/-- What a listing answers on any medium. -/
theorem exec_list_eq (key : String) (m : Medium σ) :
    exec (list key : StoreM σ _) m =
      (match (FaultSource.next m.faults ⟨.list, key⟩).1 with
        | some fault => .error (.list key (fault.error ⟨.list, key⟩))
        | none =>
          if m.entries.startingWith key = [] then .error (.list key (.keyNotFound key))
          else .ok (m.entries.startingWith key),
        { m with faults := (FaultSource.next m.faults ⟨.list, key⟩).2 }) := by
  rw [list, exec_adapt, BackendM.list, BackendM.exec_consult_bind]
  rcases FaultSource.next m.faults ⟨.list, key⟩ with ⟨_ | fault, s⟩
  · dsimp only
    rw [exec_bind_of_ok (BackendM.exec_entries _)]
    cases hp : m.entries.startingWith key with
    | nil => rfl
    | cons e ps => rfl
  · rfl

/-- What removing a prefix answers on any medium: when it fails, the entries stay as they are. -/
theorem exec_deleteTree_eq (key : String) (m : Medium σ) :
    exec (deleteTree key : StoreM σ Unit) m =
      match FaultSource.next m.faults ⟨.deleteTree, key⟩ with
      | (some fault, s) => (.error (.backend .deleteTree key (fault.error ⟨.deleteTree, key⟩)),
          { m with faults := s })
      | (none, s) => (.ok (), ⟨m.entries.eraseStartingWith key, s⟩) := by
  rw [deleteTree, call, exec_adapt, BackendM.deleteTree, BackendM.exec_consult_bind]
  rcases FaultSource.next m.faults ⟨.deleteTree, key⟩ with ⟨_ | fault, s⟩ <;> rfl

/-- A listing that answers has found what is there. -/
theorem eq_of_exec_list {key : String} {m m' : Medium σ} {pairs : List (String × Bytes)}
    (h : exec (list key : StoreM σ _) m = (.ok pairs, m')) :
    pairs = m.entries.startingWith key := by
  rw [exec_list_eq] at h
  have hanswer := congrArg Prod.fst h
  dsimp only at hanswer
  split at hanswer
  · cases hanswer
  · split at hanswer
    · cases hanswer
    · exact (Except.ok.inj hanswer).symm

/-! ### Calls without faults -/

section Reliable

variable (es : Entries) (s : Reliable) (key : String)

@[simp] theorem exec_put (value : Bytes) :
    exec (put key value : StoreM Reliable Unit) ⟨es, s⟩ = (.ok (), ⟨es.insert key value, s⟩) := rfl

@[simp] theorem exec_delete :
    exec (delete key : StoreM Reliable Unit) ⟨es, s⟩ = (.ok (), ⟨es.erase key, s⟩) := rfl

theorem exec_get :
    exec (get key : StoreM Reliable _) ⟨es, s⟩ =
      (match es.find? key with
        | some value => .ok value
        | none => .error (.backend .get key (.keyNotFound key)), ⟨es, s⟩) :=
  exec_get_eq key ⟨es, s⟩

theorem exec_list :
    exec (list key : StoreM Reliable _) ⟨es, s⟩ =
      (if es.startingWith key = [] then .error (.list key (.keyNotFound key))
        else .ok (es.startingWith key), ⟨es, s⟩) :=
  exec_list_eq key ⟨es, s⟩

/-- A listing that finds something. -/
theorem exec_list_of_mem {k : String} {v : Bytes} (h : (k, v) ∈ es.startingWith key) :
    exec (list key : StoreM Reliable _) ⟨es, s⟩ = (.ok (es.startingWith key), ⟨es, s⟩) := by
  rw [exec_list, if_neg (List.ne_nil_of_mem h)]

@[simp] theorem exec_listOrNone :
    exec (listOrNone key : StoreM Reliable _) ⟨es, s⟩ = (.ok (es.startingWith key), ⟨es, s⟩) := by
  rw [listOrNone, exec_tryCatch, exec_list]
  by_cases h : es.startingWith key = []
  · rw [if_pos h, h]
    rfl
  · rw [if_neg h]

end Reliable

end StoreM

end VolumeOverlay
