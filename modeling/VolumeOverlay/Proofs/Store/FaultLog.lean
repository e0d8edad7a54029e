import VolumeOverlay.Proofs.Store.Record

/-!
# Logs of failed calls

A source of faults that writes down which calls it has let fail. With it a statement can be made about
one run: as long as a certain call is not among those that failed, something holds. The call of
interest is the existence probe of a record. When it fails, the record is taken for absent, and what
follows may overwrite it; as long as it does not fail, a volume whose marker is there is never taken
for absent.

## Main definitions

* `Logged σ`: a source of faults with the calls that it has let fail
* `LogGrows m m'`: calls are added to the log, and none is taken away
* `Store.probe id`: the call that looks for the existence marker of an id

## Main results

* `Store.eq_of_exec_loadVolume_none`, `exec_loadVolume_none`: a volume that is registered is found
  absent only if the probe failed
-/

namespace VolumeOverlay

open Actions

/-- A source of faults with the calls that it has let fail, the latest first. -/
structure Logged (σ : Type) where
  source : σ
  failed : List Call := []

variable {σ : Type} [FaultSource σ]

/-- The source decides as before, and calls that fail are written down. -/
instance : FaultSource (Logged σ) where
  next l call :=
    match FaultSource.next l.source call with
    | (some fault, s) => (some fault, ⟨s, call :: l.failed⟩)
    | (none, s) => (none, ⟨s, l.failed⟩)

/-- A call that fails is written down; one that passes is not. -/
theorem Logged.next_eq (l : Logged σ) (call : Call) :
    FaultSource.next l call =
      ((FaultSource.next l.source call).1, ⟨(FaultSource.next l.source call).2,
        if (FaultSource.next l.source call).1.isSome then call :: l.failed else l.failed⟩) := by
  show (match FaultSource.next l.source call with
    | (some fault, s) => (some fault, (⟨s, call :: l.failed⟩ : Logged σ))
    | (none, s) => (none, ⟨s, l.failed⟩)) = _
  rcases FaultSource.next l.source call with ⟨_ | fault, s⟩ <;> rfl

/-! ### Growing logs -/

/-- The log goes on: calls are added to it, and none is taken away. -/
def LogGrows (m m' : Medium (Logged σ)) : Prop :=
  ∃ new, m'.faults.failed = new ++ m.faults.failed

omit [FaultSource σ] in
theorem LogGrows.refl (m : Medium (Logged σ)) : LogGrows m m :=
  ⟨[], rfl⟩

omit [FaultSource σ] in
theorem LogGrows.trans {m₁ m₂ m₃ : Medium (Logged σ)} (h₁ : LogGrows m₁ m₂)
    (h₂ : LogGrows m₂ m₃) : LogGrows m₁ m₃ := by
  obtain ⟨new₁, h₁⟩ := h₁
  obtain ⟨new₂, h₂⟩ := h₂
  exact ⟨new₂ ++ new₁, by rw [h₂, h₁, List.append_assoc]⟩

omit [FaultSource σ] in
theorem LogGrows.mem {m m' : Medium (Logged σ)} {call : Call} (h : LogGrows m m')
    (hc : call ∈ m.faults.failed) : call ∈ m'.faults.failed := by
  obtain ⟨new, h⟩ := h
  rw [h]
  exact List.mem_append_right _ hc

theorem logGrows_asked (m : Medium (Logged σ)) (call : Call) :
    LogGrows m { m with faults := (FaultSource.next m.faults call).2 } := by
  rw [Logged.next_eq]
  dsimp only [LogGrows]
  split
  · exact ⟨[call], rfl⟩
  · exact ⟨[], rfl⟩

instance : MediumOrder (LogGrows (σ := σ)) where
  refl := LogGrows.refl
  trans _ _ _ := LogGrows.trans
  asked := logGrows_asked

omit [FaultSource σ] in
theorem allows_logGrows (S : String → Prop) : Allows (LogGrows (σ := σ)) S where
  insert m _ _ _ := LogGrows.refl m
  erase m _ _ := LogGrows.refl m

/-! ### Records and their probes -/

namespace Store

variable (store : Store)

/-- The call that looks for the existence marker of an id. -/
def probe (id : String) : Call :=
  ⟨.exists, store.markerKey id⟩

variable {store}

/-- A volume that is found absent has been probed and nothing else: the probe failed, or found no
marker. -/
theorem eq_of_exec_loadVolume_none {v : Volume} {m m' : Medium σ}
    (h : exec (store.loadVolume v : StoreM σ _) m = (.ok none, m')) :
    let asked := FaultSource.next m.faults (store.probe v.overlayId.text)
    m' = { m with faults := asked.2 } ∧
      (asked.1.isSome ∨ m.entries.contains (store.markerKey v.overlayId.text) = false) := by
  rw [(inPlace_loadInto store v).loadVolume_eq] at h
  dsimp only at h
  rcases exec_bind_cases h with ⟨e, -, he⟩ | ⟨key, m₁, hkey, h⟩
  · cases he
  rw [exec_liftExcept] at hkey
  obtain ⟨hobject, rfl⟩ := Prod.mk.inj hkey
  obtain ⟨hid, -⟩ := KeyLayout.objectKey_eq_ok_iff.1 hobject
  rw [exec_bind_of_ok (exec_probe hid m)] at h
  cases hfault : (FaultSource.next m.faults ⟨.exists, store.markerKey v.overlayId.text⟩).1 with
  | some fault =>
    -- A failed probe is taken for absence.
    rw [hfault] at h
    obtain ⟨-, rfl⟩ := Prod.mk.inj h
    exact ⟨rfl, .inl (congrArg Option.isSome hfault)⟩
  | none =>
    rw [hfault] at h
    cases hmarker : m.entries.contains (store.markerKey v.overlayId.text) with
    | false =>
      rw [hmarker] at h
      obtain ⟨-, rfl⟩ := Prod.mk.inj h
      exact ⟨rfl, .inr rfl⟩
    | true =>
      rw [hmarker] at h
      -- The marker was found, and what remains answers with a volume or fails.
      rcases exec_bind_cases h with ⟨e, -, he⟩ | ⟨pairs, m₂, -, h⟩
      · cases he
      rcases exec_bind_cases h with ⟨e, -, he⟩ | ⟨entry, m₃, -, h⟩
      · cases he
      rcases exec_bind_cases h with ⟨e, -, he⟩ | ⟨labels, m₄, -, h⟩
      · cases he
      split at h
      · rcases exec_bind_cases h with ⟨e, -, he⟩ | ⟨fields, m₅, -, h⟩
        · cases he
        · cases h
      · cases h

/-- A volume that is registered is found absent only if its probe failed. -/
theorem exec_loadVolume_none {v : Volume} {m m' : Medium (Logged σ)}
    (h : exec (store.loadVolume v : StoreM (Logged σ) _) m = (.ok none, m'))
    (hmarker : m.entries.contains (store.markerKey v.overlayId.text) = true) :
    store.probe v.overlayId.text ∈ m'.faults.failed := by
  obtain ⟨rfl, hasked⟩ := eq_of_exec_loadVolume_none h
  rcases hasked with hfailed | habsent
  · rw [Logged.next_eq] at hfailed ⊢
    dsimp only at hfailed ⊢
    rw [if_pos hfailed]
    exact List.mem_cons_self
  · rw [hmarker] at habsent
    cases habsent

end Store

end VolumeOverlay
