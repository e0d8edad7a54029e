import Mathlib.Order.Defs.Unbundled

/-!
# Actions that may fail

An action on a state either answers or fails, and leaves a state behind in both cases. This module
says how the answer and the state of a composed action come from those of its parts, and gives the
rule for what every run of an action keeps: a relation between the state before and the state after
that is reflexive and transitive passes from the parts of an action to the whole, whether or not a
part fails.

## Main definitions

* `Actions.exec x s`: the answer of an action in a state, and the state after it
* `Actions.Moves ρ x`: every run of `x` leads from a state to one related to it by `ρ`
* `Actions.Ensures I Q x`: every run of `x` keeps the invariant `I`, and its answers are as `Q` says
* `Actions.Outcomes E Q x`: the failures of `x` are as `E` says, and its answers as `Q` says
* `Actions.Alike R Q x y`: from related states `x` and `y` give one answer and lead to related states

## Main results

* `Actions.exec_bind`, `exec_tryCatch`, `exec_forM_of_ok`: the runs of composed actions
* `Actions.exec_bind_cases`: an action in two parts fails in the first, or runs both
* `Actions.exec_forM_cases`: a loop runs to its end, or stops where an action fails
* `Actions.Moves.bind`, `Moves.tryCatch`, `Moves.forM`, `Moves.mapM`: what the parts keep, the whole
  keeps
* `Actions.Ensures.bind`, `Ensures.mapM`: the same of an invariant, where what one part answers is
  known to the next
* `Actions.Outcomes.bind`, `Outcomes.tryCatch`, `Outcomes.forM`, `Outcomes.mapM`: how the whole fails,
  from how its parts do
* `Actions.Alike.bind`, `Alike.tryCatch`, `Alike.forM`, `Alike.mapM`: the same of two actions that run
  side by side
-/

namespace VolumeOverlay.Actions

variable {ε ε' S α β : Type}

/-- The answer of an action in a state, and the state after it. -/
def exec (x : ExceptT ε (StateM S) α) (s : S) : Except ε α × S :=
  x.run.run s

/-! ### Runs -/

@[simp] theorem exec_pure (a : α) (s : S) :
    exec (pure a : ExceptT ε (StateM S) α) s = (.ok a, s) := rfl

theorem exec_bind (x : ExceptT ε (StateM S) α) (f : α → ExceptT ε (StateM S) β) (s : S) :
    exec (x >>= f) s =
      match exec x s with
      | (.ok a, s') => exec (f a) s'
      | (.error e, s') => (.error e, s') := by
  simp only [exec, ExceptT.run_bind, StateT.run_bind]
  rcases x.run.run s with ⟨_ | _, s'⟩ <;> rfl

theorem exec_bind_of_ok {x : ExceptT ε (StateM S) α} {f : α → ExceptT ε (StateM S) β} {s s' : S}
    {a : α} (h : exec x s = (.ok a, s')) : exec (x >>= f) s = exec (f a) s' := by
  rw [exec_bind, h]

theorem exec_bind_of_error {x : ExceptT ε (StateM S) α} {f : α → ExceptT ε (StateM S) β}
    {s s' : S} {e : ε} (h : exec x s = (.error e, s')) : exec (x >>= f) s = (.error e, s') := by
  rw [exec_bind, h]

theorem exec_bind_pure_snd (x : ExceptT ε (StateM S) α) (f : α → β) (s : S) :
    (exec (x >>= fun a => pure (f a)) s).2 = (exec x s).2 := by
  rw [exec_bind]
  rcases exec x s with ⟨_ | _, s'⟩ <;> rfl

/-- An action in two parts fails in the first, or runs both. -/
theorem exec_bind_cases {x : ExceptT ε (StateM S) α} {f : α → ExceptT ε (StateM S) β} {s s'' : S}
    {r : Except ε β} (h : exec (x >>= f) s = (r, s'')) :
    (∃ e, exec x s = (.error e, s'') ∧ r = .error e) ∨
      ∃ a s', exec x s = (.ok a, s') ∧ exec (f a) s' = (r, s'') := by
  rw [exec_bind] at h
  cases hx : exec x s with
  | mk answer s' =>
    cases answer with
    | error e =>
      rw [hx] at h
      obtain ⟨rfl, rfl⟩ := Prod.mk.inj h
      exact .inl ⟨e, rfl, rfl⟩
    | ok a =>
      rw [hx] at h
      exact .inr ⟨a, s', rfl, h⟩

theorem exec_tryCatch (x : ExceptT ε (StateM S) α) (handle : ε → ExceptT ε (StateM S) α) (s : S) :
    exec (tryCatch x handle) s =
      match exec x s with
      | (.ok a, s') => (.ok a, s')
      | (.error e, s') => exec (handle e) s' := by
  -- Catching is a match on the answer of the first run, whose state is kept.
  have h : exec (tryCatch x handle) s =
      ((x.run >>= fun
        | .ok a => pure (.ok a)
        | .error e => (handle e).run : StateM S (Except ε α)).run s : Except ε α × S) := rfl
  rw [h, StateT.run_bind]
  show _ = match x.run.run s with
    | (.ok a, s') => (Except.ok a, s')
    | (.error e, s') => (handle e).run.run s'
  rcases x.run.run s with ⟨_ | _, s'⟩ <;> rfl

/-- An answer is not changed by renaming errors. -/
theorem mapError_eq_ok_iff {r : Except ε α} {f : ε → ε'} {a : α} :
    r.mapError f = .ok a ↔ r = .ok a := by
  constructor
  · intro h
    cases r with
    | error e => cases h
    | ok b =>
      cases h
      rfl
  · rintro rfl
    rfl

/-- A failure whose error was renamed is one of the error before. -/
theorem mapError_eq_error_iff {r : Except ε α} {f : ε → ε'} {e' : ε'} :
    r.mapError f = .error e' ↔ ∃ e, r = .error e ∧ f e = e' := by
  constructor
  · intro h
    cases r with
    | error e => exact ⟨e, rfl, Except.error.inj h⟩
    | ok b => cases h
  · rintro ⟨e, rfl, rfl⟩
    rfl

theorem exec_adapt (f : ε → ε') (x : ExceptT ε (StateM S) α) (s : S) :
    exec (x.adapt f) s = ((exec x s).1.mapError f, (exec x s).2) := rfl

@[simp] theorem exec_liftExcept (x : Except ε α) (s : S) :
    exec (liftM x : ExceptT ε (StateM S) α) s = (x, s) := by
  cases x <;> rfl

@[simp] theorem exec_get (s : S) :
    exec (getThe S : ExceptT ε (StateM S) S) s = (.ok s, s) := rfl

@[simp] theorem exec_set (s' s : S) :
    exec (set s' : ExceptT ε (StateM S) PUnit) s = (.ok ⟨⟩, s') := rfl

theorem forM_cons (a : α) (as : List α) (f : α → ExceptT ε (StateM S) PUnit) :
    (a :: as).forM f = f a >>= fun _ => as.forM f := rfl

/-- A loop of actions that do not fail makes their changes one after the other. The changes are those
of a part `t` of the state, which is put in place by `v`. -/
theorem exec_forM_of_ok {T : Type} {f : α → ExceptT ε (StateM S) PUnit} {v : T → S}
    {change : T → α → T} (h : ∀ a t, exec (f a) (v t) = (.ok ⟨⟩, v (change t a))) (as : List α)
    (t : T) : exec (as.forM f) (v t) = (.ok ⟨⟩, v (as.foldl change t)) := by
  induction as generalizing t with
  | nil => rfl
  | cons a as ih => rw [forM_cons, exec_bind_of_ok (h a t), ih, List.foldl_cons]

/-- A loop that runs to its end has made the changes of its elements one after the other. Only a part of
the state has to be followed, which `view` reads off. -/
theorem view_of_exec_forM {T : Type} {f : α → ExceptT ε (StateM S) PUnit} {view : S → T}
    {change : T → α → T}
    (h : ∀ a s s', exec (f a) s = (.ok ⟨⟩, s') → view s' = change (view s) a) (as : List α)
    {s s' : S} (hrun : exec (as.forM f) s = (.ok ⟨⟩, s')) : view s' = as.foldl change (view s) := by
  induction as generalizing s with
  | nil =>
    cases hrun
    rfl
  | cons a as ih =>
    rw [forM_cons] at hrun
    rcases exec_bind_cases hrun with ⟨_, -, hfailed⟩ | ⟨_, s₁, hfirst, hrest⟩
    · cases hfailed
    · rw [List.foldl_cons, ← h a s s₁ hfirst, ih hrest]

/-- A loop runs to its end, or stops at an element whose action fails when those before it have run. -/
theorem exec_forM_cases (f : α → ExceptT ε (StateM S) PUnit) (as : List α) (s : S) :
    (∃ s', exec (as.forM f) s = (.ok ⟨⟩, s')) ∨
      ∃ before a after s₁ s₂ e, as = before ++ a :: after ∧
        exec (before.forM f) s = (.ok ⟨⟩, s₁) ∧ exec (f a) s₁ = (.error e, s₂) ∧
        exec (as.forM f) s = (.error e, s₂) := by
  induction as generalizing s with
  | nil => exact .inl ⟨s, rfl⟩
  | cons a as ih =>
    rw [forM_cons]
    cases hfirst : exec (f a) s with
    | mk answer s' =>
      cases answer with
      | error e => exact .inr ⟨[], a, as, s, s', e, rfl, rfl, hfirst, exec_bind_of_error hfirst⟩
      | ok _ =>
        rw [exec_bind_of_ok hfirst]
        rcases ih s' with hall | ⟨before, b, after, s₁, s₂, e, rfl, hbefore, hb, hrun⟩
        · exact .inl hall
        · refine .inr ⟨a :: before, b, after, s₁, s₂, e, rfl, ?_, hb, hrun⟩
          rw [forM_cons, exec_bind_of_ok hfirst, hbefore]

/-! ### What every run keeps -/

/-- Every run of an action, failed ones included, leads from a state to one related to it. -/
def Moves (ρ : S → S → Prop) (x : ExceptT ε (StateM S) α) : Prop :=
  ∀ s, ρ s (exec x s).2

namespace Moves

variable {ρ : S → S → Prop} {x : ExceptT ε (StateM S) α} {f : α → ExceptT ε (StateM S) β}

theorem run (h : Moves ρ x) {s s' : S} {r : Except ε α} (hrun : exec x s = (r, s')) : ρ s s' := by
  have hs := h s
  rw [hrun] at hs
  exact hs

theorem adapt (h : Moves ρ x) (g : ε → ε') : Moves ρ (x.adapt g) := h

/-- A function of the answer changes nothing. -/
theorem map (h : Moves ρ x) (g : α → β) : Moves ρ (x >>= fun a => Pure.pure (g a)) := fun s => by
  rw [exec_bind_pure_snd]
  exact h s

section Trans

variable [IsTrans S ρ]

/-- The second part of an action has to keep the relation only after the answers that the first part
gives. -/
theorem bind_of {P : α → Prop} (hx : Moves ρ x) (hP : ∀ s a s', exec x s = (.ok a, s') → P a)
    (hf : ∀ a, P a → Moves ρ (f a)) : Moves ρ (x >>= f) := fun s => by
  have hs := hx s
  rw [exec_bind]
  cases h : exec x s with
  | mk answer s' =>
    rw [h] at hs
    cases answer with
    | error e => exact hs -- The second part is not run.
    | ok a => exact IsTrans.trans _ _ _ hs (hf a (hP s a s' h) s')

theorem bind (hx : Moves ρ x) (hf : ∀ a, Moves ρ (f a)) : Moves ρ (x >>= f) :=
  bind_of hx (P := fun _ => True) (fun _ _ _ _ => trivial) fun a _ => hf a

theorem tryCatch {handle : ε → ExceptT ε (StateM S) α} (hx : Moves ρ x)
    (hh : ∀ e, Moves ρ (handle e)) : Moves ρ (tryCatch x handle) := fun s => by
  have hs := hx s
  rw [exec_tryCatch]
  cases h : exec x s with
  | mk answer s' =>
    rw [h] at hs
    cases answer with
    | error e => exact IsTrans.trans _ _ _ hs (hh e s')
    | ok a => exact hs

end Trans

section Refl

variable [Std.Refl ρ]

theorem pure (a : α) : Moves ρ (pure a : ExceptT ε (StateM S) α) :=
  fun s => Std.Refl.refl s

theorem throw (e : ε) : Moves ρ (throw e : ExceptT ε (StateM S) α) :=
  fun s => Std.Refl.refl s

theorem liftExcept (r : Except ε α) : Moves ρ (liftM r : ExceptT ε (StateM S) α) := fun s => by
  rw [exec_liftExcept]
  exact Std.Refl.refl s

end Refl

variable [Std.Refl ρ] [IsTrans S ρ]

theorem forM {as : List α} {f : α → ExceptT ε (StateM S) PUnit} (h : ∀ a ∈ as, Moves ρ (f a)) :
    Moves ρ (as.forM f) := by
  induction as with
  | nil => exact pure _
  | cons a as ih =>
    rw [forM_cons]
    exact (h a List.mem_cons_self).bind fun _ =>
      ih fun b hb => h b (List.mem_cons_of_mem _ hb)

theorem mapM {as : List α} (h : ∀ a ∈ as, Moves ρ (f a)) : Moves ρ (as.mapM f) := by
  induction as with
  | nil =>
    rw [List.mapM_nil]
    exact pure _
  | cons a as ih =>
    rw [List.mapM_cons]
    refine (h a List.mem_cons_self).bind fun b => ?_
    exact (ih fun b hb => h b (List.mem_cons_of_mem _ hb)).bind fun bs => pure _

end Moves

/-! ### Invariants and answers -/

/-- Every run of an action that starts where an invariant holds ends where it holds, whether or not it
fails, and what it answers is as a predicate says. -/
def Ensures (I : S → Prop) (Q : α → Prop) (x : ExceptT ε (StateM S) α) : Prop :=
  ∀ s, I s → I (exec x s).2 ∧ ∀ a, (exec x s).1 = .ok a → Q a

namespace Ensures

variable {I : S → Prop} {P Q : α → Prop} {x : ExceptT ε (StateM S) α}

theorem mono (h : Ensures I P x) (hQ : ∀ a, P a → Q a) : Ensures I Q x := by
  intro s hs
  obtain ⟨hkept, hanswer⟩ := h s hs
  exact ⟨hkept, fun a ha => hQ a (hanswer a ha)⟩

/-- An action whose runs lead from the invariant to itself, whatever it answers. -/
theorem of_moves {ρ : S → S → Prop} (h : Moves ρ x) (hI : ∀ s s', ρ s s' → I s → I s') :
    Ensures I (fun _ => True) x := by
  intro s hs
  exact ⟨hI s _ (h s) hs, fun _ _ => trivial⟩

theorem pure {a : α} (h : Q a) : Ensures I Q (pure a : ExceptT ε (StateM S) α) := by
  intro s hs
  refine ⟨hs, fun b hb => ?_⟩
  cases hb
  exact h

theorem throw (e : ε) : Ensures I Q (throw e : ExceptT ε (StateM S) α) := by
  intro s hs
  exact ⟨hs, fun b hb => nomatch hb⟩

theorem liftExcept (r : Except ε α) :
    Ensures I (fun a => r = .ok a) (liftM r : ExceptT ε (StateM S) α) := by
  intro s hs
  rw [exec_liftExcept]
  exact ⟨hs, fun a ha => ha⟩

/-- What the first part answers is known to the second. -/
theorem bind {R : β → Prop} {f : α → ExceptT ε (StateM S) β} (hx : Ensures I P x)
    (hf : ∀ a, P a → Ensures I R (f a)) : Ensures I R (x >>= f) := by
  intro s hs
  obtain ⟨hkept, hanswer⟩ := hx s hs
  rw [exec_bind]
  cases h : exec x s with
  | mk answer s' =>
    rw [h] at hkept hanswer
    cases answer with
    | error e => exact ⟨hkept, fun b hb => nomatch hb⟩
    | ok a => exact hf a (hanswer a rfl) s' hkept

theorem mapM {R : β → Prop} {as : List α} {f : α → ExceptT ε (StateM S) β}
    (h : ∀ a ∈ as, Ensures I R (f a)) : Ensures I (fun bs => ∀ b ∈ bs, R b) (as.mapM f) := by
  induction as with
  | nil =>
    rw [List.mapM_nil]
    exact pure fun b hb => absurd hb List.not_mem_nil
  | cons a as ih =>
    rw [List.mapM_cons]
    refine (h a List.mem_cons_self).bind fun b hb => ?_
    refine (ih fun c hc => h c (List.mem_cons_of_mem _ hc)).bind fun bs hbs => ?_
    exact pure (List.forall_mem_cons.2 ⟨hb, hbs⟩)

end Ensures

/-! ### Failures and answers -/

/-- Every run of an action that fails does so with an error of a class, and every run that answers
does so as a predicate says. -/
def Outcomes (E : ε → Prop) (Q : α → Prop) (x : ExceptT ε (StateM S) α) : Prop :=
  ∀ s, (∀ e, (exec x s).1 = .error e → E e) ∧ ∀ a, (exec x s).1 = .ok a → Q a

namespace Outcomes

variable {E E' : ε → Prop} {P Q : α → Prop} {x : ExceptT ε (StateM S) α}

theorem mono (h : Outcomes E P x) (hQ : ∀ a, P a → Q a) : Outcomes E Q x := fun s =>
  ⟨(h s).1, fun a ha => hQ a ((h s).2 a ha)⟩

/-- Nothing is known of an action that is not looked into. -/
theorem any : Outcomes (fun _ => True) (fun _ => True) x := fun _ =>
  ⟨fun _ _ => trivial, fun _ _ => trivial⟩

theorem pure {a : α} (h : Q a) : Outcomes E Q (pure a : ExceptT ε (StateM S) α) := by
  refine fun s => ⟨fun e he => (nomatch he), fun b hb => ?_⟩
  cases hb
  exact h

theorem throw {e : ε} (h : E e) : Outcomes E Q (throw e : ExceptT ε (StateM S) α) := by
  refine fun s => ⟨fun e' he => ?_, fun b hb => nomatch hb⟩
  cases he
  exact h

theorem liftExcept {r : Except ε α} (h : ∀ e, r = .error e → E e) :
    Outcomes E (fun a => r = .ok a) (liftM r : ExceptT ε (StateM S) α) := fun s => by
  rw [exec_liftExcept]
  exact ⟨h, fun a ha => ha⟩

/-- Where every error is renamed into the class, nothing has to be known of the action. -/
theorem adapt {F : ε' → Prop} {f : ε → ε'} (h : ∀ e, F (f e)) :
    Outcomes F (fun _ => True) (x.adapt f) := fun s => by
  rw [exec_adapt]
  refine ⟨fun e' he => ?_, fun _ _ => trivial⟩
  obtain ⟨e, -, rfl⟩ := mapError_eq_error_iff.1 he
  exact h e

/-- What the first part answers is known to the second. -/
theorem bind {R : β → Prop} {f : α → ExceptT ε (StateM S) β} (hx : Outcomes E P x)
    (hf : ∀ a, P a → Outcomes E R (f a)) : Outcomes E R (x >>= f) := fun s => by
  obtain ⟨herror, hanswer⟩ := hx s
  rw [exec_bind]
  cases h : exec x s with
  | mk r s' =>
    rw [h] at herror hanswer
    cases r with
    | error e =>
      refine ⟨fun e' he => ?_, fun b hb => nomatch hb⟩
      cases he
      exact herror e rfl
    | ok a => exact hf a (hanswer a rfl) s'

/-- Only how the handlers fail counts. -/
theorem tryCatch {handle : ε → ExceptT ε (StateM S) α} (hx : Outcomes E' Q x)
    (hh : ∀ e, E' e → Outcomes E Q (handle e)) : Outcomes E Q (tryCatch x handle) := fun s => by
  obtain ⟨herror, hanswer⟩ := hx s
  rw [exec_tryCatch]
  cases h : exec x s with
  | mk r s' =>
    rw [h] at herror hanswer
    cases r with
    | error e => exact hh e (herror e rfl) s'
    | ok a =>
      refine ⟨fun e he => (nomatch he), fun b hb => ?_⟩
      cases hb
      exact hanswer a rfl

theorem forM {as : List α} {f : α → ExceptT ε (StateM S) PUnit}
    (h : ∀ a ∈ as, Outcomes E (fun _ => True) (f a)) : Outcomes E (fun _ => True) (as.forM f) := by
  induction as with
  | nil => exact pure trivial
  | cons a as ih =>
    rw [forM_cons]
    exact (h a List.mem_cons_self).bind fun _ _ => ih fun b hb => h b (List.mem_cons_of_mem _ hb)

theorem mapM {R : β → Prop} {as : List α} {f : α → ExceptT ε (StateM S) β}
    (h : ∀ a ∈ as, Outcomes E R (f a)) : Outcomes E (fun bs => ∀ b ∈ bs, R b) (as.mapM f) := by
  induction as with
  | nil =>
    rw [List.mapM_nil]
    exact pure fun b hb => absurd hb List.not_mem_nil
  | cons a as ih =>
    rw [List.mapM_cons]
    refine (h a List.mem_cons_self).bind fun b hb => ?_
    refine (ih fun c hc => h c (List.mem_cons_of_mem _ hc)).bind fun bs hbs => ?_
    exact pure (List.forall_mem_cons.2 ⟨hb, hbs⟩)

end Outcomes

/-! ### Runs side by side -/

/-- From related states two actions give the same answer and lead to related states, whether or not
they fail, and what they answer is as a predicate says. -/
def Alike (R : S → S → Prop) (Q : α → Prop) (x y : ExceptT ε (StateM S) α) : Prop :=
  ∀ s t, R s t →
    (exec x s).1 = (exec y t).1 ∧ R (exec x s).2 (exec y t).2 ∧ ∀ a, (exec x s).1 = .ok a → Q a

namespace Alike

variable {R : S → S → Prop} {P Q : α → Prop} {x y : ExceptT ε (StateM S) α}

/-- Two runs whose results are known. -/
theorem of_exec {s t s' t' : S} {r : Except ε α} (hx : exec x s = (r, s')) (hy : exec y t = (r, t'))
    (hR : R s' t') (hQ : ∀ a, r = .ok a → Q a) :
    (exec x s).1 = (exec y t).1 ∧ R (exec x s).2 (exec y t).2 ∧
      ∀ a, (exec x s).1 = .ok a → Q a := by
  rw [hx, hy]
  exact ⟨rfl, hR, hQ⟩

theorem mono (h : Alike R P x y) (hQ : ∀ a, P a → Q a) : Alike R Q x y := by
  intro s t hst
  obtain ⟨hsame, hrelated, hanswer⟩ := h s t hst
  exact ⟨hsame, hrelated, fun a ha => hQ a (hanswer a ha)⟩

theorem pure {a : α} (h : Q a) :
    Alike R Q (pure a : ExceptT ε (StateM S) α) (pure a) := by
  intro s t hst
  refine of_exec (exec_pure a s) (exec_pure a t) hst fun b hb => ?_
  cases hb
  exact h

theorem throw (e : ε) : Alike R Q (throw e : ExceptT ε (StateM S) α) (throw e) := by
  intro s t hst
  exact ⟨rfl, hst, fun b hb => nomatch hb⟩

theorem liftExcept (r : Except ε α) :
    Alike R (fun a => r = .ok a) (liftM r : ExceptT ε (StateM S) α) (liftM r) := by
  intro s t hst
  exact of_exec (exec_liftExcept r s) (exec_liftExcept r t) hst fun a ha => ha

/-- The second parts have to run alike only after what the first parts answer. -/
theorem bind {T : β → Prop} {f g : α → ExceptT ε (StateM S) β} (hx : Alike R P x y)
    (hf : ∀ a, P a → Alike R T (f a) (g a)) : Alike R T (x >>= f) (y >>= g) := by
  intro s t hst
  obtain ⟨hsame, hrelated, hanswer⟩ := hx s t hst
  rw [exec_bind, exec_bind]
  cases hs : exec x s with
  | mk r s' =>
    cases ht : exec y t with
    | mk r' t' =>
      rw [hs, ht] at hsame hrelated
      rw [hs] at hanswer
      obtain rfl : r = r' := hsame
      cases r with
      | error e => exact ⟨rfl, hrelated, fun b hb => nomatch hb⟩
      | ok a => exact hf a (hanswer a rfl) s' t' hrelated

theorem tryCatch {handle : ε → ExceptT ε (StateM S) α} (hx : Alike R Q x y)
    (hh : ∀ e, Alike R Q (handle e) (handle e)) :
    Alike R Q (tryCatch x handle) (tryCatch y handle) := by
  intro s t hst
  obtain ⟨hsame, hrelated, hanswer⟩ := hx s t hst
  rw [exec_tryCatch, exec_tryCatch]
  cases hs : exec x s with
  | mk r s' =>
    cases ht : exec y t with
    | mk r' t' =>
      rw [hs, ht] at hsame hrelated
      rw [hs] at hanswer
      obtain rfl : r = r' := hsame
      cases r with
      | error e => exact hh e s' t' hrelated
      | ok a => exact ⟨rfl, hrelated, hanswer⟩

/-- Nothing is asked of a function of what two actions answer. -/
theorem map {f : α → β} (hx : Alike R P x y) :
    Alike R (fun _ => True) (x >>= fun a => Pure.pure (f a)) (y >>= fun a => Pure.pure (f a)) :=
  hx.bind fun _ _ => pure trivial

theorem forM {as : List α} {f g : α → ExceptT ε (StateM S) PUnit}
    (h : ∀ a ∈ as, Alike R (fun _ => True) (f a) (g a)) :
    Alike R (fun _ => True) (as.forM f) (as.forM g) := by
  induction as with
  | nil => exact pure trivial
  | cons a as ih =>
    rw [forM_cons, forM_cons]
    exact (h a List.mem_cons_self).bind fun _ _ => ih fun b hb => h b (List.mem_cons_of_mem _ hb)

theorem mapM {T : β → Prop} {as : List α} {f g : α → ExceptT ε (StateM S) β}
    (h : ∀ a ∈ as, Alike R T (f a) (g a)) :
    Alike R (fun bs => ∀ b ∈ bs, T b) (as.mapM f) (as.mapM g) := by
  induction as with
  | nil =>
    rw [List.mapM_nil, List.mapM_nil]
    exact pure fun b hb => absurd hb List.not_mem_nil
  | cons a as ih =>
    rw [List.mapM_cons, List.mapM_cons]
    refine (h a List.mem_cons_self).bind fun b hb => ?_
    refine (ih fun c hc => h c (List.mem_cons_of_mem _ hc)).bind fun bs hbs => ?_
    exact pure (List.forall_mem_cons.2 ⟨hb, hbs⟩)

end Alike

end VolumeOverlay.Actions
