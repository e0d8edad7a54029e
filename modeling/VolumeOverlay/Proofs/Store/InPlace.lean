import VolumeOverlay.Proofs.Actions
import VolumeOverlay.Proofs.KeyMap
import VolumeOverlay.Store.Record

/-!
# Loading in place

A volume is loaded in place: what is stored is assigned to it part by part. Everything that can fail
stands before the first assignment, so a run that fails or finds no record leaves the volume as it was,
and one that comes to its end has assigned all that is stored. This is the same as answering with a
merged volume and putting it in the place of the old one at once, and that is the form in which loading
is taken apart everywhere else.

## Main definitions

* `Store.merge v entry labels fields`: a volume with all that is stored of it
* `Store.InPlace v x y`: an action does to a volume in place what another one answers

## Main results

* `Store.inPlace_loadInto`, `InPlace.loadVolume_eq`: a volume is loaded by reading all that is stored and
  merging it
* `Store.exec_loadInto`: loading in place is loading a merged volume
-/

namespace VolumeOverlay

open Actions

namespace LoadM

variable {σ α : Type}

theorem exec_onMedium (x : StoreM σ α) (m : Medium σ) (v : Volume) :
    exec (onMedium x) (m, v) = ((exec x m).1, ((exec x m).2, v)) := rfl

theorem exec_volume (m : Medium σ) (v : Volume) :
    exec (volume : LoadM σ Volume) (m, v) = (.ok v, (m, v)) := rfl

theorem exec_assign (f : Volume → Volume) (m : Medium σ) (v : Volume) :
    exec (assign f : LoadM σ Unit) (m, v) = (.ok (), (m, f v)) := rfl

/-- A failure is caught on the medium or beside the volume. -/
theorem onMedium_tryCatch (x : StoreM σ α) (a : α) :
    onMedium (tryCatch x fun _ => pure a) = tryCatch (onMedium x) fun _ => pure a := by
  refine funext fun s => ?_
  show exec (onMedium (tryCatch x fun _ => pure a)) s = exec (tryCatch (onMedium x) fun _ => pure a) s
  rw [exec_tryCatch, exec_onMedium, exec_onMedium, exec_tryCatch]
  rcases exec x s.1 with ⟨_ | _, m⟩ <;> rfl

end LoadM

namespace Store

open LoadM (onMedium assign)

variable {σ : Type} [FaultSource σ] {store : Store} {v : Volume}

/-- A volume with a stored overlay. Live fields win over stored ones. -/
def merge (v : Volume) (entry : IndexEntry) (labels fields : LabelMap) : Volume :=
  { v with
    schedulers := entry.schedulers
    serviceName := entry.serviceName.getD v.serviceName
    labels
    external := { v.external with fields := v.external.fields.orElse fields } }

omit [FaultSource σ] in
/-- All that was read is assigned, and the volume is the merged one. -/
theorem exec_assignOverlay (entry : IndexEntry) (labels fields : LabelMap) (m : Medium σ) (v : Volume) :
    exec (store.assignOverlay entry labels fields : LoadM σ Unit) (m, v) =
      (.ok (), (m, merge v entry labels fields)) := by
  have hfields : ∀ (es : List (String × String)) (v : Volume),
      exec (es.forM fun t => assign fun v =>
          { v with external := { v.external with fields := v.external.fields.insertNew t.1 t.2 } } :
        LoadM σ Unit) (m, v) =
      (.ok (), (m, { v with external := { v.external with
        fields := es.foldl (fun fields e => fields.insertNew e.1 e.2) v.external.fields } })) := by
    intro es
    induction es with
    | nil => exact fun v => rfl
    | cons t es ih =>
      intro v
      rw [forM_cons, exec_bind_of_ok (LoadM.exec_assign _ m v), ih, List.foldl_cons]
  unfold assignOverlay
  rw [exec_bind_of_ok (LoadM.exec_assign _ m v)]
  cases hname : entry.serviceName with
  | none =>
    dsimp only
    rw [exec_bind_of_ok (LoadM.exec_assign _ m _), hfields,
      KeyMap.foldl_insertNew_of_perm _ (store.order.perm fields), merge, hname]
    rfl
  | some name =>
    dsimp only
    rw [exec_bind_of_ok (LoadM.exec_assign _ m _), exec_bind_of_ok (LoadM.exec_assign _ m _), hfields,
      KeyMap.foldl_insertNew_of_perm _ (store.order.perm fields), merge, hname]
    rfl

/-! ### In place and at once -/

/-- What is left of the answer of a load when it is put in place. -/
def placed (v : Volume) : Except StoreError (Option Volume) × Medium σ →
    Except StoreError Bool × (Medium σ × Volume)
  | (.ok (some w), m) => (.ok true, (m, w))
  | (.ok none, m) => (.ok false, (m, v))
  | (.error e, m) => (.error e, (m, v))

/-- An action that does to a volume in place what another one answers. -/
def InPlace (v : Volume) (x : LoadM σ Bool) (y : StoreM σ (Option Volume)) : Prop :=
  ∀ m, exec x (m, v) = placed v (exec y m)

namespace InPlace

omit [FaultSource σ] in
/-- What both read, they read alike, and the volume is not touched. -/
theorem bind {α : Type} {x : StoreM σ α} {f : α → LoadM σ Bool} {g : α → StoreM σ (Option Volume)}
    (h : ∀ a, InPlace v (f a) (g a)) : InPlace v (onMedium x >>= f) (x >>= g) := by
  intro m
  rw [exec_bind, exec_bind, LoadM.exec_onMedium]
  cases hx : exec x m with
  | mk answer m' =>
    cases answer with
    | error e => rfl
    | ok a => exact h a m'

omit [FaultSource σ] in
theorem liftExcept_bind {α : Type} {r : Except StoreError α} {f : α → LoadM σ Bool}
    {g : α → StoreM σ (Option Volume)} (h : ∀ a, InPlace v (f a) (g a)) :
    InPlace v ((liftM r : LoadM σ α) >>= f) ((liftM r : StoreM σ α) >>= g) := by
  intro m
  rw [exec_bind, exec_bind, exec_liftExcept, exec_liftExcept]
  cases r with
  | error e => rfl
  | ok a => exact h a m

omit [FaultSource σ] in
/-- What is put in place on a volume of its own is the answer. -/
theorem runOn_eq {x : LoadM σ Bool} {y : StoreM σ (Option Volume)} (h : InPlace v x y) :
    x.runOn v = y := by
  refine funext fun m => ?_
  have hrun : exec (x.runOn v) m =
      let run := exec x (m, v)
      (run.1.map fun changed => if changed then some run.2.2 else none, run.2.1) := rfl
  refine Eq.trans hrun ?_
  rw [h m]
  show _ = exec y m
  rcases exec y m with ⟨_ | _ | _, m'⟩ <;> rfl

end InPlace

/-- Loading is putting what is read and merged in place. -/
theorem inPlace_loadInto (store : Store) (v : Volume) :
    InPlace v (store.loadInto : LoadM σ Bool) (do
      let key ← store.layout.objectKey .index v.overlayId.text
      let registered ← tryCatch (store.isRegistered v.overlayId) fun _ => pure false
      if !registered then
        return none
      let pairs ← StoreM.list key
      let entry ← IndexEntry.ofEntries key pairs
      let labels ← store.loadTexts .adminLabels v.overlayId.text
      let fields ← if store.persistFields then store.loadTexts .externalFields v.overlayId.text
        else pure ∅
      return some (merge v entry labels fields)) := by
  intro m
  unfold loadInto
  rw [exec_bind_of_ok (LoadM.exec_volume m v)]
  dsimp only
  rw [← LoadM.onMedium_tryCatch]
  refine InPlace.liftExcept_bind (fun key => InPlace.bind fun registered => ?_) m
  cases registered with
  | false => exact fun m => rfl
  | true =>
    refine InPlace.bind fun pairs => InPlace.liftExcept_bind fun entry => InPlace.bind fun labels => ?_
    have hassign : ∀ fields, InPlace v
        (do store.assignOverlay entry labels fields; return true : LoadM σ Bool)
        (pure (some (merge v entry labels fields))) := by
      intro fields m
      rw [exec_bind_of_ok (exec_assignOverlay entry labels fields m v)]
      rfl
    by_cases hp : store.persistFields = true
    · rw [if_pos hp, if_pos hp]
      exact InPlace.bind hassign
    · rw [if_neg hp, if_neg hp]
      exact hassign ∅

/-- What loading in place does is what is answered. -/
theorem InPlace.loadVolume_eq {y : StoreM σ (Option Volume)}
    (h : InPlace v (store.loadInto : LoadM σ Bool) y) : store.loadVolume v = y :=
  h.runOn_eq

/-- Loading in place is loading a merged volume and putting it in place. -/
theorem exec_loadInto (m : Medium σ) (v : Volume) :
    exec (store.loadInto : LoadM σ Bool) (m, v) = placed v (exec (store.loadVolume v) m) := by
  have hplaced : InPlace v (store.loadInto : LoadM σ Bool) _ := inPlace_loadInto store v
  rw [hplaced.loadVolume_eq]
  exact hplaced m

end Store

end VolumeOverlay
