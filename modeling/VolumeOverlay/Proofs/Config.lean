import VolumeOverlay.Config

/-!
# Which configurations are accepted

A configuration is accepted when its store waits at all and its services have names that are not
empty, hold no separator and are all different. Otherwise the error is that of the first service that
is at fault, where an empty name comes before a separator and a separator before a repetition. The
check goes through the services once and keeps the names it has seen; a service is at fault because of
its own name and of those before it, whatever comes after it. Only when no service is at fault is the
store looked at.

## Main definitions

* `Config.AreServiceNames names`: names that are not empty, hold no separator and are all different
* `Config.Fault before name e`: what is wrong with a name behind others

## Main results

* `validateServices_eq_ok_iff`, `validateServices_eq_error_iff`: the check of the services
* `validate_eq_ok_iff`, `validate_eq_error_iff`: the check of a configuration
-/

namespace VolumeOverlay.Config

/-- Names that are not empty, hold no separator and are all different. -/
structure AreServiceNames (names : List String) : Prop where
  ne_empty : ∀ name ∈ names, name ≠ ""
  separator_notMem : ∀ name ∈ names, OverlayId.separator ∉ name.toList
  nodup : names.Nodup

/-- What is wrong with a name that stands behind others. -/
inductive Fault (before : List String) (name : String) : Error → Prop where
  | empty (h : name = "") : Fault before name (.invalid "service name must not be empty")
  | separator (hne : name ≠ "") (h : OverlayId.separator ∈ name.toList) :
      Fault before name (.illegalServiceName name)
  | repeated (hne : name ≠ "") (hsep : OverlayId.separator ∉ name.toList) (h : name ∈ before) :
      Fault before name (.duplicateService name)

variable {seen seen' names : List String} {name : String} {s : ServiceConfig}
  {services rest : List ServiceConfig} {e e' : Error}

theorem areServiceNames_cons_iff :
    AreServiceNames (name :: names) ↔
      (name ≠ "" ∧ OverlayId.separator ∉ name.toList ∧ name ∉ names) ∧ AreServiceNames names := by
  constructor
  · intro h
    obtain ⟨hnotMem, hnodup⟩ := List.nodup_cons.1 h.nodup
    obtain ⟨hne, hnes⟩ := List.forall_mem_cons.1 h.ne_empty
    obtain ⟨hsep, hseps⟩ := List.forall_mem_cons.1 h.separator_notMem
    exact ⟨⟨hne, hsep, hnotMem⟩, hnes, hseps, hnodup⟩
  · rintro ⟨⟨hne, hsep, hnotMem⟩, h⟩
    exact ⟨List.forall_mem_cons.2 ⟨hne, h.ne_empty⟩,
      List.forall_mem_cons.2 ⟨hsep, h.separator_notMem⟩, List.nodup_cons.2 ⟨hnotMem, h.nodup⟩⟩

/-! ### One service -/

theorem Fault.congr (h : name ∈ seen ↔ name ∈ seen') (hf : Fault seen name e) :
    Fault seen' name e := by
  cases hf with
  | empty hempty => exact .empty hempty
  | separator hne hsep => exact .separator hne hsep
  | repeated hne hsep hmem => exact .repeated hne hsep (h.1 hmem)

/-- A name that is not at fault is another service name. -/
theorem exists_fault_iff :
    (∃ e, Fault seen name e) ↔
      ¬ (name ≠ "" ∧ OverlayId.separator ∉ name.toList ∧ name ∉ seen) := by
  constructor
  · rintro ⟨e, he⟩ ⟨hne, hsep, hnew⟩
    cases he with
    | empty hempty => exact hne hempty
    | separator _ hmem => exact hsep hmem
    | repeated _ _ hmem => exact hnew hmem
  · intro h
    by_cases hne : name = ""
    · exact ⟨_, .empty hne⟩
    · by_cases hsep : OverlayId.separator ∈ name.toList
      · exact ⟨_, .separator hne hsep⟩
      · by_cases hmem : name ∈ seen
        · exact ⟨_, .repeated hne hsep hmem⟩
        · exact absurd ⟨hne, hsep, hmem⟩ h

/-- A service that is at fault ends the check. -/
theorem validateServices_of_fault (h : Fault seen s.name e) (rest : List ServiceConfig) :
    validateServices seen (s :: rest) = .error e := by
  unfold validateServices
  cases h with
  | empty hempty => rw [if_pos hempty]
  | separator hne hsep => rw [if_neg hne, if_pos (List.contains_iff_mem.2 hsep)]
  | repeated hne hsep hmem =>
    rw [if_neg hne, if_neg (fun h => hsep (List.contains_iff_mem.1 h)),
      if_pos (List.contains_iff_mem.2 hmem)]

/-- A service that is not at fault is one more name that was seen. -/
theorem validateServices_of_not_fault (h : ¬ ∃ e, Fault seen s.name e)
    (rest : List ServiceConfig) :
    validateServices seen (s :: rest) = validateServices (s.name :: seen) rest := by
  obtain ⟨hne, hsep, hnew⟩ := Decidable.not_not.1 (mt exists_fault_iff.2 h)
  conv => lhs; unfold validateServices
  rw [if_neg hne, if_neg (fun h => hsep (List.contains_iff_mem.1 h)),
    if_neg (fun h => hnew (List.contains_iff_mem.1 h))]

/-- There is one error for a fault. -/
theorem Fault.unique (h : Fault seen name e) (h' : Fault seen name e') : e = e' := by
  -- Both are the answer to a list of this one service.
  have heq := (validateServices_of_fault (s := { name }) h []).symm.trans
    (validateServices_of_fault h' [])
  exact Except.error.inj heq

/-! ### All services -/

/-- Services are accepted when their names are, and none of them was seen before. -/
theorem validateServices_eq_ok_iff :
    validateServices seen services = .ok () ↔
      AreServiceNames (services.map (·.name)) ∧ ∀ name ∈ services.map (·.name), name ∉ seen := by
  induction services generalizing seen with
  | nil =>
    refine iff_of_true rfl ⟨⟨?_, ?_, List.nodup_nil⟩, ?_⟩ <;>
      exact fun name hname => absurd hname List.not_mem_nil
  | cons s services ih =>
    rw [List.map_cons, areServiceNames_cons_iff, List.forall_mem_cons]
    by_cases hfault : ∃ e, Fault seen s.name e
    · obtain ⟨e, he⟩ := hfault
      rw [validateServices_of_fault he]
      refine iff_of_false (by simp) ?_
      rintro ⟨⟨⟨hne, hsep, -⟩, -⟩, hnew, -⟩
      exact exists_fault_iff.1 ⟨e, he⟩ ⟨hne, hsep, hnew⟩
    · obtain ⟨hne, hsep, hnew⟩ := Decidable.not_not.1 (mt exists_fault_iff.2 hfault)
      rw [validateServices_of_not_fault hfault, ih]
      -- That no later name was seen now includes the name of this service.
      have hseen : (∀ name ∈ services.map (·.name), name ∉ s.name :: seen) ↔
          s.name ∉ services.map (·.name) ∧ ∀ name ∈ services.map (·.name), name ∉ seen := by
        simp only [List.mem_cons, not_or, forall_and, List.forall_mem_ne']
      rw [hseen]
      exact ⟨fun ⟨hnames, hnotMem, hrest⟩ => ⟨⟨⟨hne, hsep, hnotMem⟩, hnames⟩, hnew, hrest⟩,
        fun ⟨⟨⟨_, _, hnotMem⟩, hnames⟩, _, hrest⟩ => ⟨hnames, hnotMem, hrest⟩⟩

/-- The error is that of the first service that is at fault. -/
theorem validateServices_eq_error_iff :
    validateServices seen services = .error e ↔
      ∃ before s after, services = before ++ s :: after ∧ validateServices seen before = .ok () ∧
        Fault (before.map (·.name) ++ seen) s.name e := by
  induction services generalizing seen with
  | nil => simp [validateServices]
  | cons s services ih =>
    by_cases hfault : ∃ e, Fault seen s.name e
    · -- This service is the first at fault.
      obtain ⟨e', he'⟩ := hfault
      rw [validateServices_of_fault he']
      constructor
      · intro h
        obtain rfl := Except.error.inj h
        exact ⟨[], s, services, rfl, rfl, he'⟩
      · rintro ⟨before, t, after, hservices, hbefore, ht⟩
        cases before with
        | nil =>
          obtain ⟨rfl, -⟩ := List.cons.inj hservices
          rw [he'.unique ht]
        | cons b before =>
          -- Services that begin with this one are not accepted.
          obtain ⟨rfl, -⟩ := List.cons.inj hservices
          rw [validateServices_of_fault he'] at hbefore
          cases hbefore
    · -- The first service at fault stands among the others, for which this one was seen.
      rw [validateServices_of_not_fault hfault, ih]
      have hsame : ∀ (before : List ServiceConfig) {name : String},
          name ∈ before.map (·.name) ++ s.name :: seen ↔
            name ∈ (s :: before).map (·.name) ++ seen := fun before name => by
        simp only [List.map_cons, List.mem_append, List.mem_cons, List.cons_append]
        exact or_left_comm
      constructor
      · rintro ⟨before, t, after, rfl, hbefore, ht⟩
        refine ⟨s :: before, t, after, rfl, ?_, ht.congr (hsame before)⟩
        rw [validateServices_of_not_fault hfault, hbefore]
      · rintro ⟨before, t, after, hservices, hbefore, ht⟩
        cases before with
        | nil =>
          obtain ⟨rfl, -⟩ := List.cons.inj hservices
          exact absurd ⟨e, ht⟩ hfault
        | cons b before =>
          obtain ⟨rfl, rfl⟩ := List.cons.inj hservices
          rw [validateServices_of_not_fault hfault] at hbefore
          exact ⟨before, t, after, rfl, hbefore, ht.congr (hsame before).symm⟩

/-! ### Configurations -/

variable {c : Config}

/-- The error of a store that would not wait at all. -/
def noTimeout : Error :=
  .invalid "store.connection_timeout_ms must be greater than zero"

theorem validate_eq (c : Config) :
    c.validate =
      match validateServices [] c.services with
      | .error e => .error e
      | .ok () => if c.store.connectionTimeoutMs = 0 then .error noTimeout else .ok () := by
  unfold validate
  cases validateServices [] c.services with
  | error e => rfl
  | ok u =>
    show (if c.store.connectionTimeoutMs = 0 then throw noTimeout else pure ()) = _
    rfl

theorem validateServices_nil_eq_ok_iff :
    validateServices [] services = .ok () ↔ AreServiceNames (services.map (·.name)) := by
  rw [validateServices_eq_ok_iff]
  simp

theorem validateServices_nil_eq_error_iff :
    validateServices [] services = .error e ↔
      ∃ before s after, services = before ++ s :: after ∧
        AreServiceNames (before.map (·.name)) ∧ Fault (before.map (·.name)) s.name e := by
  rw [validateServices_eq_error_iff]
  simp only [validateServices_nil_eq_ok_iff, List.append_nil]

/-- A configuration is accepted when its store waits and the names of its services are accepted. -/
theorem validate_eq_ok_iff :
    c.validate = .ok () ↔
      c.store.connectionTimeoutMs ≠ 0 ∧ AreServiceNames (c.services.map (·.name)) := by
  rw [validate_eq, ← validateServices_nil_eq_ok_iff]
  cases validateServices [] c.services with
  | error e => simp
  | ok u =>
    dsimp only
    by_cases htimeout : c.store.connectionTimeoutMs = 0
    · simp [htimeout]
    · simp [htimeout]

/-- A configuration is refused for the first service that is at fault, and for its store when no
service is. -/
theorem validate_eq_error_iff :
    c.validate = .error e ↔
      (∃ before s after, c.services = before ++ s :: after ∧
        AreServiceNames (before.map (·.name)) ∧ Fault (before.map (·.name)) s.name e) ∨
      AreServiceNames (c.services.map (·.name)) ∧ c.store.connectionTimeoutMs = 0 ∧
        e = noTimeout := by
  rw [validate_eq, ← validateServices_nil_eq_ok_iff, ← validateServices_nil_eq_error_iff]
  cases validateServices [] c.services with
  | error e' => simp
  | ok u =>
    dsimp only
    by_cases htimeout : c.store.connectionTimeoutMs = 0
    · simp [htimeout, eq_comm (a := e)]
    · simp [htimeout]

end VolumeOverlay.Config
