import VolumeOverlay.Proofs.Store.InPlace
import VolumeOverlay.Proofs.Store.Texts

/-!
# How store actions fail

The store refuses an id of which nothing is left when it is sanitized, and it refuses a name that
cannot be a leaf. Everything else that it fails with comes from a backend call, or from a stored list
that cannot be read. The id of an object is looked at in one place only, where the key of the object
is made, so an action on an id of which something is left never fails for the id, whichever of its
calls fail.

## Main definitions

* `StoreError.RefusesId e`: the error with which some id is refused
* `StoreError.SparesId e`: an error that is about no id

## Main results

* `StoreError.SparesId.not_refusesId`: no error is of both kinds
* `Store.outcomes_loadVolume`, `outcomes_saveVolume`, `outcomes_removeVolume`: the life of a record
  fails for no id of which something is left
-/

namespace VolumeOverlay

open Actions

namespace StoreError

/-- The error with which the key of an object is refused, for some id. -/
def RefusesId (e : StoreError) : Prop :=
  ∃ (layout : KeyLayout) (category : Category) (id : String), layout.objectKey category id = .error e

/-- An error that is about no id: a backend call failed, a stored list cannot be read, or a name
cannot be a leaf. -/
inductive SparesId : StoreError → Prop
  | backend (op : Operation) (key : String) (source : BackendError) : SparesId (.backend op key source)
  | list (key : String) (source : BackendError) : SparesId (.list key source)
  | serialization (key : String) : SparesId (.serialization key)
  | leaf {name : String} {e : StoreError} (h : checkLeaf name = .error e) : SparesId e

/-- A refused leaf is named in the error, so it is no refused id. -/
theorem SparesId.not_refusesId {e : StoreError} (h : e.SparesId) : ¬ e.RefusesId := by
  rintro ⟨layout, category, id, hkey⟩
  obtain ⟨-, rfl⟩ := KeyLayout.objectKey_eq_error_iff.1 hkey
  cases h with
  | leaf h =>
    unfold checkLeaf at h
    split at h
    · cases h
    · have htext := invalidIdentifier.inj (Except.error.inj h)
      -- The two texts differ in their first letters.
      have hhead := congrArg (fun s : String => s.toList.head?) htext
      simp [toString] at hhead

/-- An invalid identifier that is no refused id is a refused leaf. -/
theorem SparesId.exists_leaf {detail : String} (h : (invalidIdentifier detail).SparesId) :
    ∃ leaf, checkLeaf leaf = .error (.invalidIdentifier detail) := by
  cases h with
  | leaf h => exact ⟨_, h⟩

end StoreError

variable {σ : Type} [FaultSource σ]

/-! ### Calls -/

namespace StoreM

omit [FaultSource σ] in
theorem outcomes_call {α : Type} (op : Operation) (key : String) (action : BackendM σ α) :
    Outcomes StoreError.SparesId (fun _ => True) (call op key action : StoreM σ α) :=
  Outcomes.adapt fun e => .backend op key e

theorem outcomes_list (key : String) :
    Outcomes StoreError.SparesId (fun _ => True) (list key : StoreM σ _) :=
  Outcomes.adapt fun e => .list key e

theorem outcomes_listOrNone (key : String) :
    Outcomes StoreError.SparesId (fun _ => True) (listOrNone key : StoreM σ _) := by
  refine Outcomes.tryCatch (outcomes_list key) fun e he => ?_
  split
  · exact Outcomes.pure trivial
  · exact Outcomes.throw he

end StoreM

namespace Store

variable {store : Store}

omit [FaultSource σ] in
/-- An id of which something is left has a key. -/
theorem outcomes_objectKey {category : Category} {id : String} (hid : sanitize id ≠ "") :
    Outcomes StoreError.SparesId (fun key => store.layout.objectKey category id = .ok key)
      (liftM (store.layout.objectKey category id) : StoreM σ String) :=
  Outcomes.liftExcept fun _ he => absurd (KeyLayout.objectKey_eq_error_iff.1 he).1 hid

omit [FaultSource σ] in
theorem outcomes_checkLeaves (names : List String) :
    Outcomes StoreError.SparesId (fun _ => checkLeaves names = .ok ())
      (liftM (checkLeaves names) : StoreM σ Unit) := by
  refine Outcomes.liftExcept fun e he => ?_
  obtain ⟨leaf, -, -, hleaf⟩ := exists_of_checkLeaves_eq_error he
  exact .leaf hleaf

/-! ### Texts -/

section Texts

variable {category : Category} {id : String} (hid : sanitize id ≠ "")

include hid

theorem outcomes_saveTexts (texts : List (String × String)) :
    Outcomes StoreError.SparesId (fun _ => True)
      (store.saveTexts category id texts : StoreM σ Unit) := by
  refine (outcomes_checkLeaves _).bind fun _ _ => (outcomes_objectKey hid).bind fun key _ => ?_
  refine (StoreM.outcomes_call _ _ _).bind fun _ _ => (StoreM.outcomes_list _).bind fun current _ => ?_
  refine Outcomes.bind (Outcomes.forM fun k _ => ?_) fun _ _ => Outcomes.forM fun t _ => ?_
  · split
    · exact StoreM.outcomes_call _ _ _
    · exact Outcomes.pure trivial
  · exact StoreM.outcomes_call _ _ _

theorem outcomes_loadTexts :
    Outcomes StoreError.SparesId (fun _ => True)
      (store.loadTexts category id : StoreM σ LabelMap) :=
  (outcomes_objectKey hid).bind fun key _ =>
    (StoreM.outcomes_listOrNone key).bind fun _ _ => Outcomes.pure trivial

end Texts

/-! ### Index entries -/

theorem sparesId_of_add {key : String} {entry : IndexEntry} {pair : String × Bytes} {e : StoreError}
    (h : IndexEntry.add key entry pair = .error e) : e.SparesId := by
  unfold IndexEntry.add at h
  split at h
  · cases h
  · split at h
    · -- The scheduler list is the one part of an index entry that may be unreadable.
      unfold Schedulers.decode at h
      split at h
      · cases h
      · cases h
        exact .serialization _
    · split at h <;> cases h

theorem sparesId_of_foldlM {key : String} {pairs : List (String × Bytes)} {entry : IndexEntry}
    {e : StoreError} (h : pairs.foldlM (IndexEntry.add key) entry = .error e) : e.SparesId := by
  induction pairs generalizing entry with
  | nil => cases h
  | cons pair pairs ih =>
    rw [List.foldlM_cons] at h
    cases hadd : IndexEntry.add key entry pair with
    | error e' =>
      rw [hadd] at h
      cases h
      exact sparesId_of_add hadd
    | ok entry' =>
      rw [hadd] at h
      exact ih h

/-! ### Records -/

section Record

variable {v : Volume} {id : OverlayId}

theorem outcomes_saveSchedulers (key : String) (names : List String) :
    Outcomes StoreError.SparesId (fun _ => True) (saveSchedulers key names : StoreM σ Unit) := by
  unfold saveSchedulers
  split
  · exact StoreM.outcomes_call _ _ _
  · exact StoreM.outcomes_call _ _ _

/-- Writing a record fails for no id of which something is left. -/
theorem outcomes_saveVolume (hid : sanitize v.overlayId.text ≠ "") :
    Outcomes StoreError.SparesId (fun _ => True) (store.saveVolume v : StoreM σ Unit) := by
  refine (outcomes_objectKey hid).bind fun key _ => (outcomes_checkLeaves _).bind fun _ _ => ?_
  refine (StoreM.outcomes_call _ _ _).bind fun _ _ => (StoreM.outcomes_call _ _ _).bind fun _ _ => ?_
  refine (outcomes_saveSchedulers _ _).bind fun _ _ => (StoreM.outcomes_call _ _ _).bind fun _ _ => ?_
  split
  · exact (outcomes_saveTexts hid _).bind fun _ _ => outcomes_saveTexts hid _
  · exact outcomes_saveTexts hid _

/-- Loading a volume fails for no id of which something is left, and what is loaded has the id. -/
theorem outcomes_loadVolume (hid : sanitize v.overlayId.text ≠ "") :
    Outcomes StoreError.SparesId (fun answer => ∀ w, answer = some w → w.overlayId = v.overlayId)
      (store.loadVolume v : StoreM σ (Option Volume)) := by
  rw [(inPlace_loadInto store v).loadVolume_eq]
  refine (outcomes_objectKey hid).bind fun key _ => ?_
  -- A check that fails, for whatever reason, counts as a volume that is not registered.
  refine (Outcomes.tryCatch Outcomes.any fun _ _ => Outcomes.pure trivial).bind fun b _ => ?_
  cases b with
  | false => exact Outcomes.pure fun w hw => nomatch hw
  | true =>
    refine (StoreM.outcomes_list _).bind fun pairs _ => ?_
    refine (Outcomes.liftExcept fun e he => sparesId_of_foldlM he).bind fun entry _ => ?_
    refine (outcomes_loadTexts hid).bind fun labels _ => ?_
    have hmerge : ∀ fields w, some (merge v entry labels fields) = some w →
        w.overlayId = v.overlayId := by
      rintro fields _ ⟨⟩
      rfl
    split
    · exact (outcomes_loadTexts hid).bind fun fields _ => Outcomes.pure (hmerge fields)
    · exact (Outcomes.pure (Q := fun _ => True) trivial).bind fun fields _ =>
        Outcomes.pure (hmerge fields)

/-- Removing a record fails for no id of which something is left. -/
theorem outcomes_removeVolume (hid : sanitize id.text ≠ "") :
    Outcomes StoreError.SparesId (fun _ => True) (store.removeVolume id : StoreM σ Unit) :=
  Outcomes.forM fun _ _ => (outcomes_objectKey hid).bind fun _ _ => StoreM.outcomes_call _ _ _

/-- A volume with an id of which nothing is left is not loaded. -/
theorem exec_loadVolume_of_blank (hid : sanitize v.overlayId.text = "") (m : Medium σ) :
    exec (store.loadVolume v : StoreM σ (Option Volume)) m =
      (.error (.invalidIdentifier "object id must not be empty"), m) := by
  rw [(inPlace_loadInto store v).loadVolume_eq, KeyLayout.objectKey_eq_error hid,
    exec_bind_of_error (exec_liftExcept _ _)]

end Record

end Store

end VolumeOverlay
