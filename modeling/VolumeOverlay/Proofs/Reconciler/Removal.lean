import Mathlib.Logic.ExistsUnique
import VolumeOverlay.Proofs.Reconciler.Run
import VolumeOverlay.Proofs.Provider.Inventory

/-!
# How a removal ends

A volume is destroyed at the provider first, and its record is dropped afterwards, category after
category. Whatever is stored, whatever the id and however the calls of the backend fail, a removal
ends in one of three ways: all of it was done; it was refused and nothing was done; or the provider
destroyed the volume, and the store failed on its way through the categories. An id that is accepted
keeps its separator when it is sanitized, so that the store does not find fault with it when the
volume is gone already.

## Main definitions

* `Store.Cleared text categories es es'`: entries that have lost the keys of an id in some categories
* `RemovalEnd`: the three ways; `RemovalEnd.Fits` says what was answered and what is left in each

## Main results

* `Store.cleared_of_exec_forM`: categories that were gone through are cleared
* `Store.exec_removeVolume_cases`: a record is dropped, or is left from the category on that failed
* `Reconciler.remove_ends`: every removal ends in just one of the three ways
-/

namespace VolumeOverlay

open Actions
open Text (hasPrefix)

variable {σ : Type}

/-! ### The store -/

namespace Store

variable [FaultSource σ] {store : Store} {text : String}

/-- Entries that have lost the keys under the object keys of an id in some categories, and are
otherwise the same. -/
structure Cleared (store : Store) (text : String) (categories : List Category) (es es' : Entries) :
    Prop where
  gone : ∀ c ∈ categories, ∃ key, store.layout.objectKey c text = .ok key ∧
    ∀ k, hasPrefix key k → es'.find? k = none
  others : ∀ k, (∀ c ∈ categories, ∀ key, store.layout.objectKey c text = .ok key →
    ¬ hasPrefix key k) → es'.find? k = es.find? k

/-- The part of a removal that concerns one category. -/
def clear (store : Store) (text : String) (c : Category) : StoreM σ Unit := do
  StoreM.deleteTree (← store.layout.objectKey c text)

theorem exec_clear (hid : sanitize text ≠ "") (c : Category) (m : Medium σ) :
    exec (store.clear text c : StoreM σ Unit) m =
      exec (StoreM.deleteTree (store.layout.subtree c text)) m :=
  exec_objectKey_bind hid _ m

/-- When it does not fail, the keys of the id in that category are gone. -/
theorem entries_of_exec_clear (hid : sanitize text ≠ "") (c : Category) (m m' : Medium σ)
    (h : exec (store.clear text c) m = (.ok (), m')) :
    m'.entries = m.entries.eraseStartingWith (store.layout.subtree c text) := by
  rw [exec_clear hid, StoreM.exec_deleteTree_eq] at h
  split at h
  · cases h
  · cases h
    rfl

/-- Categories that a removal has gone through are cleared. -/
theorem cleared_of_exec_forM (hid : sanitize text ≠ "") {categories : List Category}
    {m m' : Medium σ} (h : exec (categories.forM (store.clear text)) m = (.ok (), m')) :
    store.Cleared text categories m.entries m'.entries := by
  have hentries : m'.entries =
      categories.foldl (fun es c => es.eraseStartingWith (store.layout.subtree c text)) m.entries :=
    view_of_exec_forM (entries_of_exec_clear hid) categories h
  have hfind : ∀ k, m'.entries.find? k =
      if ∃ c ∈ categories, hasPrefix (store.layout.subtree c text) k then none
      else m.entries.find? k := fun k => by
    rw [hentries, KeyMap.find?_foldl_eraseStartingWith]
  constructor
  · intro c hc
    refine ⟨_, KeyLayout.objectKey_eq_ok hid, fun k hk => ?_⟩
    rw [hfind, if_pos ⟨c, hc, hk⟩]
  · intro k hk
    rw [hfind, if_neg]
    rintro ⟨c, hc, hprefix⟩
    exact hk c hc _ (KeyLayout.objectKey_eq_ok hid) hprefix

/-- Dropping a record clears all categories of volumes, or fails at one of them with the ones before it
cleared. -/
theorem exec_removeVolume_cases (store : Store) {id : OverlayId} (hid : sanitize id.text ≠ "")
    (m : Medium σ) :
    (∃ m', exec (store.removeVolume id) m = (.ok (), m') ∧
        store.Cleared id.text Category.ofVolumes m.entries m'.entries) ∨
      ∃ before c after key source m', Category.ofVolumes = before ++ c :: after ∧
        store.layout.objectKey c id.text = .ok key ∧
        exec (store.removeVolume id) m = (.error (.backend .deleteTree key source), m') ∧
        store.Cleared id.text before m.entries m'.entries := by
  have hloop : store.removeVolume id = Category.ofVolumes.forM (store.clear id.text : _ → StoreM σ _) :=
    rfl
  rw [hloop]
  rcases exec_forM_cases (store.clear id.text) Category.ofVolumes m with
    ⟨m', hall⟩ | ⟨before, c, after, m₁, m₂, e, hcategories, hbefore, hstep, hrun⟩
  · exact .inl ⟨m', hall, cleared_of_exec_forM hid hall⟩
  · rw [exec_clear hid, StoreM.exec_deleteTree_eq] at hstep
    split at hstep
    · -- The call that failed has left the entries as they were behind the categories before it.
      have hcleared := cleared_of_exec_forM hid hbefore
      cases hstep
      exact .inr ⟨before, c, after, _, _, _, hcategories, KeyLayout.objectKey_eq_ok hid, hrun,
        hcleared⟩
    · cases hstep

end Store

/-! ### The removal -/

/-- The ways in which a removal ends. -/
inductive RemovalEnd where
  | done
  | refused
  | halted
  deriving DecidableEq

/-- What a removal that ends in some way has answered, and what it has left behind: everything is
gone; nothing has changed, and the id, the volume or the provider is to blame; or the volume is gone
at the provider, and the store has failed at a category with only those before it cleared. -/
def RemovalEnd.Fits (store : Store) (text : String) (w : World Inventory σ)
    (answer : Except VolumeError Unit) (w' : World Inventory σ) : RemovalEnd → Prop
  | .done =>
    answer = .ok () ∧
      (∃ service volumeId, OverlayId.split ⟨text⟩ = some (service, volumeId) ∧
        w.provider.Lost w'.provider service volumeId) ∧
      store.Cleared text Category.ofVolumes w.medium.entries w'.medium.entries
  | .refused =>
    ((∃ source, answer = .error (.invalidId source)) ∨ answer = .error (.notFound text) ∨
        ∃ source, answer = .error (.provider source)) ∧
      w' = w
  | .halted =>
    (∃ service volumeId, OverlayId.split ⟨text⟩ = some (service, volumeId) ∧
        w.provider.Lost w'.provider service volumeId) ∧
      ∃ before c after key source, Category.ofVolumes = before ++ c :: after ∧
        store.layout.objectKey c text = .ok key ∧
        answer = .error (.store (.backend .deleteTree key source)) ∧
        store.Cleared text before w.medium.entries w'.medium.entries

namespace RemovalEnd

variable {store : Store} {text : String} {w w' : World Inventory σ}
  {answer : Except VolumeError Unit}

/-- The way that an answer tells of. -/
def ofAnswer : Except VolumeError Unit → RemovalEnd
  | .ok _ => .done
  | .error (.store _) => .halted
  | .error _ => .refused

theorem Fits.eq_ofAnswer {way : RemovalEnd} (h : way.Fits store text w answer w') :
    way = ofAnswer answer := by
  cases way with
  | done =>
    obtain ⟨rfl, -⟩ := h
    rfl
  | refused =>
    obtain ⟨⟨_, rfl⟩ | rfl | ⟨_, rfl⟩, -⟩ := h <;> rfl
  | halted =>
    obtain ⟨-, _, _, _, _, _, -, -, rfl, -⟩ := h
    rfl

/-- The store does not complain about the id. -/
theorem Fits.ne_invalidIdentifier {way : RemovalEnd} (h : way.Fits store text w answer w')
    (detail : String) : answer ≠ .error (.store (.invalidIdentifier detail)) := by
  rintro rfl
  cases way with
  | done => exact nomatch h.1
  | refused => exact nomatch h.1
  | halted =>
    obtain ⟨-, _, _, _, _, _, -, -, hanswer, -⟩ := h
    cases hanswer

end RemovalEnd

namespace Reconciler

open ReconcilerM

variable [FaultSource σ]

/-- A removal ends in one of the three ways. -/
theorem exists_fits (store : Store) (text : String) (w : World Inventory σ) :
    ∃ way : RemovalEnd, way.Fits store text w
      (exec (remove store text : ReconcilerM Inventory σ Unit) w).1
      (exec (remove store text : ReconcilerM Inventory σ Unit) w).2 := by
  cases hparse : OverlayId.parse text with
  | error e =>
    rw [exec_remove_of_refused hparse]
    exact ⟨.refused, .inl ⟨e, rfl⟩, rfl⟩
  | ok id =>
    obtain ⟨service, volumeId, hsplit⟩ := exists_split hparse
    obtain rfl := OverlayId.eq_of_parse hparse
    cases hasked : asked ⟨text⟩ (VolumeProvider.inspect w.provider service volumeId) with
    | error e =>
      rw [exec_remove_eq hparse hsplit, hasked]
      refine ⟨.refused, ?_, rfl⟩
      rcases asked_error_cases hasked with rfl | ⟨source, rfl⟩
      · exact .inr (.inl rfl)
      · exact .inr (.inr ⟨source, rfl⟩)
    | ok v =>
      obtain ⟨i', hremove, hlost⟩ := Inventory.remove_of_inspect (inspect_of_asked hasked)
      -- The separator is neither blank nor a slash, so the store finds something left of the id.
      have hid : sanitize (OverlayId.mk text).text ≠ "" :=
        OverlayId.sanitize_ne_empty_of_mem (OverlayId.separator_mem_of_split hsplit)
      have hprovider : VolumeProvider.remove w.provider service volumeId = (.ok (), i') := hremove
      rw [exec_remove_eq hparse hsplit, hasked, hprovider]
      rcases store.exec_removeVolume_cases hid w.medium with ⟨m', hrun, hcleared⟩ |
        ⟨before, c, after, key, source, m', hcategories, hkey, hrun, hcleared⟩
      · rw [hrun]
        exact ⟨.done, rfl, ⟨service, volumeId, hsplit, hlost⟩, hcleared⟩
      · rw [hrun]
        exact ⟨.halted, ⟨service, volumeId, hsplit, hlost⟩, before, c, after, key, source,
          hcategories, hkey, rfl, hcleared⟩

/-- Every removal ends in just one of three ways: with everything gone, with nothing changed, or with
the volume gone at the provider and its record cleared from some of the first categories only. The
store never complains about the id. -/
theorem remove_ends (store : Store) (text : String) (w : World Inventory σ) :
    (∃! way : RemovalEnd, way.Fits store text w
      (exec (remove store text : ReconcilerM Inventory σ Unit) w).1
      (exec (remove store text : ReconcilerM Inventory σ Unit) w).2) ∧
    ∀ detail, (exec (remove store text : ReconcilerM Inventory σ Unit) w).1 ≠
      .error (.store (.invalidIdentifier detail)) := by
  -- The answer alone tells the ways apart, so that the one that fits is the only one.
  obtain ⟨way, hfits⟩ := exists_fits store text w
  have hunique : ∀ other : RemovalEnd, other.Fits store text w
      (exec (remove store text : ReconcilerM Inventory σ Unit) w).1
      (exec (remove store text : ReconcilerM Inventory σ Unit) w).2 → other = way := by
    intro other hother
    rw [hother.eq_ofAnswer, hfits.eq_ofAnswer]
  exact ⟨⟨way, hfits, hunique⟩, hfits.ne_invalidIdentifier⟩

end Reconciler

end VolumeOverlay
