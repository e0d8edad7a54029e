import VolumeOverlay.Proofs.Provider.Initial
import VolumeOverlay.Proofs.Text.Decimal

/-!
# Ids are never given out twice

All services of an inventory share one number. It is greater than the number of every volume that any
service has or ever had: a service starts with the first three, a created volume takes the number and
leaves the next one behind, and a removal does not give a number back. Since a number is known from its
padded form, whether that has three digits or more, the id of a created volume is none that was there
before. The number would start again from zero after `2 ^ 64`; the runs that are looked at stop before
that.

## Main definitions

* `Inventory.Call`: a call with any arguments
* `Inventory.run i calls`: the inventory after some calls
* `Inventory.creations i calls`: how many volumes they create
* `Inventory.Numbered i n`: what holds after `n` creations

## Main results

* `volumeId_injective`: a number is known from its id
* `create_cases`, `remove_cases`: what creating and removing can do
* `Numbered.after`, `Numbered.run`: what one call keeps, and what a run keeps
* `run_numbered`: inventories and their ids after any run
-/

namespace VolumeOverlay.Inventory

variable {i : Inventory} {service volumeId : String} {request : CreateRequest}
  {services : List String}

/-- A number is known from the id that is made from it. -/
theorem volumeId_injective {m n : Nat} (h : Inventory.volumeId m = Inventory.volumeId n) : m = n := by
  rw [Inventory.volumeId, Inventory.volumeId, ← String.toList_inj] at h
  simp only [String.toList_append, String.toList_ofList, List.append_cancel_left_eq] at h
  exact Text.Decimal.zeroPadded_injective h

/-! ### Single calls -/

/-- A volume is created with the next number, or nothing changes. -/
theorem create_cases (i : Inventory) (service : String) (request : CreateRequest) :
    (∃ e, i.create service request = (.error e, i)) ∨
      ∃ v i', i.create service request = (.ok v, i') ∧
        v.id = Inventory.volumeId i.nextNumber.toNat ∧ i'.nextNumber = i.nextNumber + 1 := by
  unfold create
  cases i.volumesOf service with
  | error e => exact .inl ⟨e, rfl⟩
  | ok volumes => exact .inr ⟨_, _, rfl, rfl, rfl⟩

/-- A volume is removed and the next number stays, or nothing changes. -/
theorem remove_cases (i : Inventory) (service volumeId : String) :
    (∃ e, i.remove service volumeId = (.error e, i)) ∨
      ∃ i', i.remove service volumeId = (.ok (), i') ∧ i'.nextNumber = i.nextNumber := by
  unfold remove
  cases i.volumesOf service with
  | error e => exact .inl ⟨e, rfl⟩
  | ok volumes =>
    dsimp only
    split
    · exact .inr ⟨_, rfl, rfl⟩
    · exact .inl ⟨_, rfl⟩

/-! ### Runs -/

/-- A call with any arguments. -/
inductive Call where
  | create (service : String) (request : CreateRequest)
  | remove (service volumeId : String)
  | inspect (service volumeId : String)
  | volumesOf (service : String)

/-- The inventory after a call; the last two only look. -/
def after (i : Inventory) : Call → Inventory
  | .create service request => (i.create service request).2
  | .remove service volumeId => (i.remove service volumeId).2
  | .inspect _ _ => i
  | .volumesOf _ => i

/-- How many volumes a call creates. -/
def created (i : Inventory) : Call → Nat
  | .create service request => if (i.create service request).1.isOk then 1 else 0
  | _ => 0

/-- The inventory after some calls. -/
def run (i : Inventory) (calls : List Call) : Inventory :=
  calls.foldl after i

/-- How many volumes some calls create. -/
def creations (i : Inventory) : List Call → Nat
  | [] => 0
  | call :: calls => i.created call + creations (i.after call) calls

theorem run_cons (i : Inventory) (call : Call) (calls : List Call) :
    i.run (call :: calls) = (i.after call).run calls := rfl

theorem run_append (i : Inventory) (calls more : List Call) :
    i.run (calls ++ more) = (i.run calls).run more :=
  List.foldl_append

theorem creations_append (i : Inventory) (calls more : List Call) :
    i.creations (calls ++ more) = i.creations calls + (i.run calls).creations more := by
  induction calls generalizing i with
  | nil => exact (Nat.zero_add _).symm
  | cons call calls ih =>
    rw [List.cons_append, creations, creations, ih, run_cons, Nat.add_assoc]

/-! ### Numbers -/

/-- After `n` creations, volumes are kept under ids that were made from smaller numbers than the next
one. -/
structure Numbered (i : Inventory) (n : Nat) : Prop where
  next : i.nextNumber.toNat = initialCount + n
  id_eq : ∀ s id v, i.inspect s id = .ok v → v.id = id
  issued : ∀ s id v, i.inspect s id = .ok v → ∃ m < i.nextNumber.toNat, id = Inventory.volumeId m

theorem numbered_ofServices (h : ofServices services = .ok i) : i.Numbered 0 := by
  have hnext : i.nextNumber = .ofNat initialCount := by
    unfold ofServices at h
    split at h
    · cases h
    · cases h
      rfl
  have hinitial : ∀ s id v, i.inspect s id = .ok v → initialVolumes.find? id = some v := by
    intro s id v hv
    obtain ⟨volumes, hvolumes, hfind⟩ := inspect_eq_ok_iff.1 hv
    obtain ⟨-, -, rfl⟩ := of_find?_ofServices h hvolumes
    exact hfind
  refine ⟨by rw [hnext]; rfl, fun s id v hv => ?_, fun s id v hv => ?_⟩
  · exact (kept_initialVolumes id v (hinitial s id v hv)).1
  · -- The volume is one of those that are numbered from zero.
    rcases KeyMap.mem_or_find?_of_insertMany (hinitial s id v hv) with hmem | hempty
    · obtain ⟨m, hm, heq⟩ := List.mem_map.1 hmem
      obtain ⟨rfl, -⟩ := Prod.mk.inj heq
      refine ⟨m, ?_, rfl⟩
      rw [hnext]
      exact List.mem_range.1 hm
    · cases hempty

/-- A created volume takes the next number, if there is another one behind it. -/
theorem Numbered.create {n : Nat} (h : i.Numbered n) {v : ExternalVolume}
    (hmade : (i.create service request).1 = .ok v)
    (hbound : initialCount + n + 1 < UInt64.size) :
    (i.create service request).2.Numbered (n + 1) := by
  have hfound := @inspect_of_create i service request
  rcases create_cases i service request with ⟨e, he⟩ | ⟨v', i', hi', hid, hnext⟩
  · rw [he] at hmade
    cases hmade
  · rw [hi'] at hfound hmade ⊢
    obtain rfl := Except.ok.inj hmade
    -- Below the bound the next number does not start again from zero.
    have hnumber : i'.nextNumber.toNat = i.nextNumber.toNat + 1 := by
      rw [hnext, UInt64.toNat_add, h.next]
      exact Nat.mod_eq_of_lt hbound
    refine ⟨by rw [hnumber, h.next, Nat.add_assoc], fun s id w hw => ?_, fun s id w hw => ?_⟩
    · rcases hfound hw with hw | ⟨-, hw, -⟩
      · exact h.id_eq s id w hw
      · exact hw.symm
    · rw [hnumber]
      rcases hfound hw with hw | ⟨-, rfl, hmade⟩
      · obtain ⟨m, hm, hid⟩ := h.issued s id w hw
        exact ⟨m, Nat.lt_succ_of_lt hm, hid⟩
      · obtain rfl := Except.ok.inj hmade
        exact ⟨i.nextNumber.toNat, Nat.lt_succ_self _, hid⟩

/-- A removal gives no number back. -/
theorem Numbered.remove {n : Nat} (h : i.Numbered n) :
    (i.remove service volumeId).2.Numbered n := by
  have hnumber : (i.remove service volumeId).2.nextNumber = i.nextNumber := by
    rcases remove_cases i service volumeId with ⟨e, he⟩ | ⟨i', hi', hnext⟩
    · rw [he]
    · rw [hi', hnext]
  refine ⟨?_, fun s id w hw => h.id_eq s id w (inspect_of_remove hw), fun s id w hw => ?_⟩
  · rw [hnumber]
    exact h.next
  · rw [hnumber]
    exact h.issued s id w (inspect_of_remove hw)

/-- A call keeps the numbering, as long as there is a next number. -/
theorem Numbered.after {n : Nat} (h : i.Numbered n) (call : Call)
    (hbound : initialCount + n + i.created call < UInt64.size) :
    (i.after call).Numbered (n + i.created call) := by
  cases call with
  | create service request =>
    rcases create_cases i service request with ⟨e, he⟩ | ⟨v, i', hi', -⟩
    · have hnone : i.created (.create service request) = 0 := by
        rw [created, he]
        rfl
      rw [hnone, Inventory.after, he]
      exact h
    · have hone : i.created (.create service request) = 1 := by
        rw [created, hi']
        rfl
      rw [hone] at hbound ⊢
      exact h.create (by rw [hi']) hbound
  | remove service volumeId => exact h.remove
  | inspect service volumeId => exact h
  | volumesOf service => exact h

/-- A run keeps the numbering, as long as the numbers last. -/
theorem Numbered.run {n : Nat} (h : i.Numbered n) (calls : List Call)
    (hbound : initialCount + n + i.creations calls < UInt64.size) :
    (i.run calls).Numbered (n + i.creations calls) := by
  induction calls generalizing i n with
  | nil => exact h
  | cons call calls ih =>
    rw [creations] at hbound ⊢
    rw [run_cons, ← Nat.add_assoc]
    exact ih (h.after call (by omega)) (by omega)

/-! ### Ids -/

/-- Some service has a volume with an id. -/
def HasId (i : Inventory) (id : String) : Prop :=
  ∃ s vs, VolumeProvider.volumesOf i s = .ok vs ∧ ∃ v ∈ vs, v.id = id

theorem listing_eq_ok_iff {s : String} {vs : List ExternalVolume} :
    VolumeProvider.volumesOf i s = .ok vs ↔
      ∃ volumes, i.volumes.find? s = some volumes ∧ vs = volumes.values := by
  show (i.volumesOf s).map KeyMap.values = .ok vs ↔ _
  simp only [← volumesOf_eq_ok_iff]
  cases i.volumesOf s with
  | error e => simp [Except.map]
  | ok volumes => simp [Except.map, eq_comm]

/-- What is found under an id is the volume of the listing that has this id. -/
theorem Numbered.inspect_eq_ok_iff_mem {n : Nat} (h : i.Numbered n) {s id : String}
    {v : ExternalVolume} :
    i.inspect s id = .ok v ↔
      ∃ vs, VolumeProvider.volumesOf i s = .ok vs ∧ v ∈ vs ∧ v.id = id := by
  constructor
  · intro hv
    obtain ⟨volumes, hvolumes, hfind⟩ := inspect_eq_ok_iff.1 hv
    refine ⟨volumes.values, listing_eq_ok_iff.2 ⟨volumes, hvolumes, rfl⟩, ?_,
      h.id_eq s id v hv⟩
    exact List.mem_map.2 ⟨(id, v), KeyMap.find?_eq_some_iff.1 hfind, rfl⟩
  · rintro ⟨vs, hvs, hmem, rfl⟩
    obtain ⟨volumes, hvolumes, rfl⟩ := listing_eq_ok_iff.1 hvs
    obtain ⟨⟨id, w⟩, hentry, rfl⟩ := List.mem_map.1 hmem
    have hw : i.inspect s id = .ok w :=
      inspect_eq_ok_iff.2 ⟨volumes, hvolumes, KeyMap.find?_eq_some_iff.2 hentry⟩
    rw [h.id_eq s id w hw, hw]

/-- The ids of a listing are the keys of the volumes, so no two of them are the same. -/
theorem Numbered.nodup_ids {n : Nat} (h : i.Numbered n) {s : String} {vs : List ExternalVolume}
    (hvs : VolumeProvider.volumesOf i s = .ok vs) : (vs.map (·.id)).Nodup := by
  obtain ⟨volumes, hvolumes, rfl⟩ := listing_eq_ok_iff.1 hvs
  -- Each volume is kept under its own id.
  have hkeys : volumes.values.map (·.id) = volumes.keys := by
    rw [KeyMap.values, KeyMap.keys, List.map_map]
    refine List.map_congr_left fun e he => ?_
    exact h.id_eq s e.1 e.2
      (inspect_eq_ok_iff.2 ⟨volumes, hvolumes, KeyMap.find?_eq_some_iff.2 he⟩)
  rw [hkeys]
  exact volumes.nodup_keys

/-- What has an id has one that was made from a number below the next one. -/
theorem Numbered.issued_of_hasId {n : Nat} (h : i.Numbered n) {id : String} (hid : i.HasId id) :
    ∃ m < initialCount + n, id = Inventory.volumeId m := by
  obtain ⟨s, vs, hvs, v, hv, rfl⟩ := hid
  rw [← h.next]
  exact h.issued s v.id v (h.inspect_eq_ok_iff_mem.2 ⟨vs, hvs, hv, rfl⟩)

/-- After every run that creates fewer than `2 ^ 64 - 3` volumes: each volume is kept under its own
id, looking one up is finding it in the listing of its service, the ids of a service are all different,
each volume that was created on the way got an id that no service had at any time before and was found
under it when it had been created, and a failing creation or removal changes nothing. -/
theorem run_numbered {start : Inventory} (hstart : ofServices services = .ok start)
    (calls : List Call) (hbound : initialCount + start.creations calls < UInt64.size) :
    (∀ s volumes id v, (start.run calls).volumes.find? s = some volumes →
        volumes.find? id = some v → v.id = id) ∧
      (∀ s id v, (start.run calls).inspect s id = .ok v ↔
        ∃ vs, VolumeProvider.volumesOf (start.run calls) s = .ok vs ∧ v ∈ vs ∧ v.id = id) ∧
      (∀ s vs, VolumeProvider.volumesOf (start.run calls) s = .ok vs → (vs.map (·.id)).Nodup) ∧
      (∀ before s request rest v, calls = before ++ .create s request :: rest →
        ((start.run before).create s request).1 = .ok v →
          (∀ earlier, earlier <+: before → ¬ (start.run earlier).HasId v.id) ∧
            (start.run (before ++ [.create s request])).inspect s v.id = .ok v) ∧
      (∀ s request e, ((start.run calls).create s request).1 = .error e →
        ((start.run calls).create s request).2 = start.run calls) ∧
      ∀ s id e, ((start.run calls).remove s id).1 = .error e →
        ((start.run calls).remove s id).2 = start.run calls := by
  have hnumbered : ∀ calls, initialCount + start.creations calls < UInt64.size →
      (start.run calls).Numbered (start.creations calls) := fun calls hcalls => by
    have hrun := (numbered_ofServices hstart).run calls hcalls
    rwa [Nat.zero_add] at hrun
  have h := hnumbered calls hbound
  refine ⟨fun s volumes id v hvolumes hv => ?_, fun s id v => h.inspect_eq_ok_iff_mem,
    fun s vs => h.nodup_ids, ?_, fun s request e he => ?_, fun s id e he => ?_⟩
  · exact h.id_eq s id v (inspect_eq_ok_iff.2 ⟨volumes, hvolumes, hv⟩)
  · rintro before s request rest v rfl hmade
    refine ⟨?_, by rw [run_append]; exact (inspect_create hmade).2⟩
    rintro earlier ⟨later, rfl⟩ hid
    -- Both the earlier and the present number are counted from the start of the run.
    rw [creations_append] at hbound
    have hle : start.creations earlier ≤ start.creations (earlier ++ later) := by
      rw [creations_append]
      exact Nat.le_add_right _ _
    have hnow := hnumbered (earlier ++ later) (by omega)
    obtain ⟨m, hm, hissued⟩ := (hnumbered earlier (by omega)).issued_of_hasId hid
    rcases create_cases (start.run (earlier ++ later)) s request with
      ⟨e, he⟩ | ⟨v', i', hi', hnew, -⟩
    · rw [he] at hmade
      cases hmade
    · rw [hi'] at hmade
      obtain rfl := Except.ok.inj hmade
      rw [hnew, hnow.next] at hissued
      have hsame := volumeId_injective hissued
      omega
  · rcases create_cases (start.run calls) s request with ⟨e', he'⟩ | ⟨v, i', hi', -⟩
    · rw [he']
    · rw [hi'] at he
      cases he
  · rcases remove_cases (start.run calls) s id with ⟨e', he'⟩ | ⟨i', hi', -⟩
    · rw [he']
    · rw [hi'] at he
      cases he

/-- A volume is created, removed and another one created. -/
def replacement : List Call :=
  [.create "mock" { serviceName := "mock", name := "a" }, .remove "mock" "vol-003",
    .create "mock" { serviceName := "mock", name := "b" }]

/-- The second volume does not get the id of the first, although that is free again. -/
theorem run_numbered_replacement :
    ∃ start, ofServices ["mock"] = .ok start ∧
      initialCount + start.creations replacement < UInt64.size ∧
      ∃ v, ((start.run (replacement.take 2)).create "mock"
          { serviceName := "mock", name := "b" }).1 = .ok v ∧
        ¬ (start.run (replacement.take 1)).HasId v.id := by
  obtain ⟨start, hstart⟩ : ∃ start, ofServices ["mock"] = .ok start := ⟨_, rfl⟩
  have hcount : start.creations replacement = 2 := by
    obtain rfl := Except.ok.inj hstart
    decide +kernel
  have hbound : initialCount + start.creations replacement < UInt64.size := by
    rw [hcount]
    decide
  obtain ⟨v, hmade⟩ : ∃ v, ((start.run (replacement.take 2)).create "mock"
      { serviceName := "mock", name := "b" }).1 = .ok v := by
    obtain rfl := Except.ok.inj hstart
    exact ⟨_, rfl⟩
  obtain ⟨-, -, -, hfresh, -⟩ := run_numbered hstart replacement hbound
  exact ⟨start, hstart, hbound, v, hmade,
    (hfresh (replacement.take 2) "mock" { serviceName := "mock", name := "b" } [] v rfl hmade).1
      (replacement.take 1) ⟨[.remove "mock" "vol-003"], rfl⟩⟩

end VolumeOverlay.Inventory
