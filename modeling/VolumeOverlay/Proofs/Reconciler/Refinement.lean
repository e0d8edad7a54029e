import Mathlib.Data.List.Basic
import VolumeOverlay.Proofs.Reconciler.Encoding
import VolumeOverlay.Proofs.Reconciler.Run
import VolumeOverlay.Proofs.Store.Categories
import VolumeOverlay.Proofs.Store.Schedulers

/-!
# The reconciler keeps a map of overlays

Over an orderly inventory and a medium without faults, the reconciler of a store that mirrors no
fields cannot be told from the machine that keeps a map of overlays. The entries represent the map at
each moment: a request that meets them answers as the machine does, and leaves entries that represent
the map after it.

## Main definitions

* `Tracks store w m`: the provider is the same, and the entries represent the overlays
* `Follows store x w r m`: a run of an action answers `r` and leads to what `m` describes

## Main results

* `follows_establish`, `follows_inspect`, `follows_modify`: looking up and changing one volume
* `follows_step`: one request, put to the store and to the map
* `answers_eq_of_setUp`: all requests, put to a store that starts empty
-/

namespace VolumeOverlay

open Actions

namespace OverlayMap

open Reconciler (Answer asked joined)

/-- The provider of a world is that of a map, and the entries represent the overlays. -/
structure Tracks (store : Store) (w : World Inventory Reliable) (m : OverlayMap Inventory) : Prop where
  provider : w.provider = m.provider
  orderly : m.provider.Orderly
  represents : store.Represents w.medium.entries m.overlays

theorem tracks_inOrder {store : Store} (order : TextOrder) {w : World Inventory Reliable}
    {m : OverlayMap Inventory} : Tracks (store.inOrder order) w m ↔ Tracks store w m :=
  ⟨fun h => ⟨h.provider, h.orderly, (Store.represents_inOrder order).1 h.represents⟩,
    fun h => ⟨h.provider, h.orderly, (Store.represents_inOrder order).2 h.represents⟩⟩

/-- A run of an action gives an answer, and leads to what a map describes. -/
def Follows {α : Type} (store : Store) (x : ReconcilerM Inventory Reliable α)
    (w : World Inventory Reliable) (r : Except VolumeError α) (m : OverlayMap Inventory) : Prop :=
  ∃ w', exec x w = (r, w') ∧ Tracks store w' m

variable {store : Store} {w : World Inventory Reliable} {m m' : OverlayMap Inventory}

namespace Follows

variable {α β : Type} {x : ReconcilerM Inventory Reliable α}

theorem pure (h : Tracks store w m) (a : α) : Follows store (pure a) w (.ok a) m :=
  ⟨w, rfl, h⟩

theorem bind_ok {f : α → ReconcilerM Inventory Reliable β} {a : α} {r : Except VolumeError β}
    (hx : Follows store x w (.ok a) m) (hf : ∀ w', Tracks store w' m → Follows store (f a) w' r m') :
    Follows store (x >>= f) w r m' := by
  obtain ⟨w', hrun, htracks⟩ := hx
  obtain ⟨w'', hrun', htracks'⟩ := hf w' htracks
  exact ⟨w'', by rw [exec_bind_of_ok hrun, hrun'], htracks'⟩

theorem bind_error {f : α → ReconcilerM Inventory Reliable β} {e : VolumeError}
    (hx : Follows store x w (.error e) m) : Follows store (x >>= f) w (.error e) m := by
  obtain ⟨w', hrun, htracks⟩ := hx
  exact ⟨w', exec_bind_of_error hrun, htracks⟩

/-- A run that gives a function of what another gives. -/
theorem map {r : Except VolumeError α} (hx : Follows store x w r m) (g : α → β) :
    Follows store (x >>= fun a => Pure.pure (g a)) w (r.map g) m := by
  cases r with
  | error e => exact bind_error hx
  | ok a => exact bind_ok hx fun w' hw' => pure hw' (g a)

end Follows

/-! ### Single volumes -/

theorem overlay_register (m : OverlayMap Inventory) (v w : Volume) :
    (m.register v).overlay w = m.overlay w := by
  unfold register setOverlay overlay
  dsimp only
  rw [KeyMap.find?_insert]
  split
  · rename_i h
    rw [h]
    rfl
  · rfl

/-- Writing a plain volume sets its overlay. -/
theorem follows_save (hp : store.persistFields = false) (h : Tracks store w m) {v : Volume}
    (hv : v.IsPlain) (hlabels : ∀ leaf ∈ v.labels.keys, isLeaf leaf = true) :
    Follows store (ReconcilerM.onStore (store.saveVolume v)) w (.ok ())
      (m.setOverlay v ⟨v.schedulers, v.labels⟩) := by
  obtain ⟨p, es, s⟩ := w
  have hfields : store.checkMirrored v = .ok () := Store.checkMirrored_of_not hp
  refine ⟨⟨p, store.recorded v es, s⟩, ?_, h.provider, h.orderly,
    h.represents.recorded hp hv hlabels⟩
  rw [Reconciler.exec_save p es s hv.id.sanitize_ne_empty,
    Store.written_of_ok (Store.checkLeaves_eq_ok_iff.2 hlabels) hfields]
  rfl

/-- Loading a plain volume looks up its overlay. -/
theorem follows_load (hp : store.persistFields = false) (h : Tracks store w m) {v : Volume}
    (hv : v.IsPlain) :
    Follows store (ReconcilerM.onStore (store.loadVolume v)) w
      (.ok (m.known? v)) m := by
  obtain ⟨p, es, s⟩ := w
  refine ⟨⟨p, es, s⟩, ?_, h⟩
  rw [Reconciler.exec_load p es s hv.id.sanitize_ne_empty, h.represents.loaded hp hv]
  rfl

theorem follows_require (hp : store.persistFields = false) (h : Tracks store w m) {v : Volume}
    (hv : v.IsPlain) :
    Follows store (Reconciler.reconcile store v .required) w
      (.ok (m.known? v)) m := by
  refine (follows_load hp h hv).bind_ok fun w' hw' => ?_
  cases m.known? v <;> exact Follows.pure hw' _

/-- A plain volume of the provider is found with its overlay; if it has none, it gets the empty
one. -/
theorem follows_establish (hp : store.persistFields = false) (h : Tracks store w m)
    {service : String} {external : ExternalVolume}
    (hv : (Volume.ofExternal service external).IsPlain) :
    Follows store (Reconciler.reconcile store (.ofExternal service external) .establish) w
      (.ok (some ((m.overlay (.ofExternal service external)).on (.ofExternal service external))))
      (m.register (.ofExternal service external)) := by
  refine (follows_load hp h hv).bind_ok fun w' hw' => ?_
  unfold known?
  cases ho : m.overlays.find? (Volume.ofExternal service external).overlayId.text with
  | some o =>
    -- A known overlay is found, and registering it again changes nothing.
    have hoverlay : m.overlay (.ofExternal service external) = o := by rw [overlay, ho]; rfl
    have hknown : m.register (.ofExternal service external) = m := by
      rw [register, setOverlay, hoverlay, KeyMap.insert_of_find? ho]
    rw [hoverlay, hknown]
    exact Follows.pure hw' _
  | none =>
    have hoverlay : m.overlay (.ofExternal service external) = {} := by rw [overlay, ho]; rfl
    rw [register, hoverlay]
    refine (follows_save hp hw' hv fun leaf hleaf => ?_).bind_ok fun w'' hw'' => Follows.pure hw'' _
    exact absurd hleaf List.not_mem_nil

/-- Removing the record of a plain id forgets its overlay. -/
theorem follows_removeVolume (h : Tracks store w m) {id : OverlayId} (hid : id.IsPlain) :
    Follows store (ReconcilerM.onStore (store.removeVolume id)) w (.ok ())
      { m with overlays := m.overlays.erase id.text } := by
  obtain ⟨p, es, s⟩ := w
  refine ⟨⟨p, store.removed id.text es, s⟩, ?_, h.provider, h.orderly, h.represents.removed hid⟩
  rw [ReconcilerM.exec_onStore, Store.exec_removeVolume es s hid.sanitize_ne_empty]
  rfl

/-! ### Listings -/

/-- A volume of the listing is shown when it is known and accepted. -/
theorem follows_listOne (hp : store.persistFields = false) (h : Tracks store w m) (filter : Filter)
    {v : Volume} (hv : v.IsPlain) :
    Follows store (Reconciler.listOne store filter v) w
      (.ok ((m.known? v).filter filter.accepts)) m := by
  refine (follows_require hp h hv).bind_ok fun w' hw' => ?_
  unfold known?
  cases ho : m.overlays.find? v.overlayId.text with
  | none => exact Follows.pure hw' _
  | some o =>
    rw [Option.map_some]
    dsimp only
    by_cases haccepts : filter.accepts (o.on v) = true
    · -- A volume that is shown is written back as it was loaded, so the map stays the same.
      have hlabels : ∀ leaf ∈ (o.on v).labels.keys, isLeaf leaf = true :=
        hw'.represents.isLeaf _ _ ho
      have hsame : m.setOverlay (o.on v) ⟨(o.on v).schedulers, (o.on v).labels⟩ = m := by
        show { m with overlays := m.overlays.insert v.overlayId.text o } = m
        rw [KeyMap.insert_of_find? ho]
      rw [if_pos haccepts, Option.filter_some, if_pos haccepts, ← hsame]
      refine (follows_save hp hw' (v := o.on v) ⟨hv.id, hv.owner⟩ hlabels).bind_ok fun w'' hw'' => ?_
      exact Follows.pure hw'' _
    · rw [if_neg haccepts, Option.filter_some, if_neg haccepts]
      exact Follows.pure hw' _

/-- A loop leads from map to map, and answers what each step would have answered at first, when no step
changes the answers of those behind it. -/
theorem follows_mapM {α β : Type} {f : α → ReconcilerM Inventory Reliable β}
    {g : OverlayMap Inventory → α → β} {t : OverlayMap Inventory → α → OverlayMap Inventory}
    (hg : ∀ m a b, g (t m a) b = g m b) {as : List α}
    (hf : ∀ a ∈ as, ∀ w m, Tracks store w m → Follows store (f a) w (.ok (g m a)) (t m a))
    (h : Tracks store w m) :
    Follows store (as.mapM f) w (.ok (as.map (g m))) (as.foldl t m) := by
  induction as generalizing w m with
  | nil => exact Follows.pure h _
  | cons a as ih =>
    rw [List.mapM_cons, List.foldl_cons, List.map_cons]
    refine (hf a List.mem_cons_self w m h).bind_ok fun w' hw' => ?_
    have hrest := ih (fun b hb => hf b (List.mem_cons_of_mem _ hb)) hw'
    -- The rest of the loop starts from a changed map, whose answers are those of the first one.
    have hsame : as.map (g (t m a)) = as.map (g m) := List.map_congr_left fun b _ => hg m a b
    rw [hsame] at hrest
    exact hrest.bind_ok fun w'' hw'' => Follows.pure hw'' _

/-- Asking the provider for its volumes. -/
theorem follows_volumes (h : Tracks store w m) :
    Follows store (ReconcilerM.ask VolumeProvider.volumes) w
      ((VolumeProvider.volumes m.provider).mapError .provider) m := by
  refine ⟨w, ?_, h⟩
  rw [ReconcilerM.exec_ask, h.provider]

theorem follows_list (hp : store.persistFields = false) (h : Tracks store w m) (filter : Filter) :
    Follows store (Request.run store (.list filter)) w (step store.order (.list filter) m).1
      (step store.order (.list filter) m).2 := by
  have hask := follows_volumes h
  unfold step
  dsimp only
  cases hvs : VolumeProvider.volumes m.provider with
  | error e =>
    rw [hvs] at hask
    exact hask.bind_error.bind_error
  | ok vs =>
    rw [hvs] at hask
    have hloop : ∀ w', Tracks store w' m → Follows store (vs.mapM (Reconciler.listOne store filter))
        w' (.ok (vs.map fun v => (m.known? v).filter filter.accepts)) m := fun w' hw' => by
      have hmapM := follows_mapM (g := fun m v => (m.known? v).filter filter.accepts)
        (t := fun m (_ : Volume) => m) (fun _ _ _ => rfl) (fun v hv w m h =>
          follows_listOne hp h filter (hw'.orderly.isPlain_of_mem_volumes hvs hv).1) hw'
      rwa [List.foldl_fixed] at hmapM
    have hshown : (vs.map fun v => (m.known? v).filter filter.accepts).filterMap id =
        (vs.filterMap m.known?).filter filter.accepts := by
      rw [List.filterMap_map, List.filter_filterMap]
      rfl
    have hlist : Follows store (Reconciler.list store filter) w
        (.ok ((vs.filterMap m.known?).filter filter.accepts)) m := by
      rw [← hshown]
      exact hask.bind_ok fun w' hw' => (hloop w' hw').map fun listed => listed.filterMap id
    exact hlist.map Answer.volumes

theorem follows_listAll (hp : store.persistFields = false) (h : Tracks store w m)
    (filter : Filter) :
    Follows store (Request.run store (.listAll filter)) w (step store.order (.listAll filter) m).1
      (step store.order (.listAll filter) m).2 := by
  have hask := follows_volumes h
  unfold step
  dsimp only
  cases hvs : VolumeProvider.volumes m.provider with
  | error e =>
    rw [hvs] at hask
    exact hask.bind_error.bind_error
  | ok vs =>
    rw [hvs] at hask
    have hloop : ∀ w', Tracks store w' m →
        Follows store (vs.mapM fun v => Reconciler.reconcile store v .establish) w'
          (.ok (vs.map fun v => some ((m.overlay v).on v))) (vs.foldl register m) := fun w' hw' => by
      refine follows_mapM (g := fun m v => some ((m.overlay v).on v)) (fun m v u => ?_)
        (fun v hv w m h => ?_) hw'
      · rw [overlay_register]
      · obtain ⟨hplain, service, external, rfl⟩ := hw'.orderly.isPlain_of_mem_volumes hvs hv
        exact follows_establish hp h hplain
    have hshown : (vs.map fun v => some ((m.overlay v).on v)).filterMap id =
        vs.map fun v => (m.overlay v).on v := by
      rw [List.filterMap_map]
      exact congrFun List.filterMap_eq_map vs
    have hall : Follows store (Reconciler.listAll store filter) w
        (.ok ((vs.map fun v => (m.overlay v).on v).filter filter.accepts)) (vs.foldl register m) := by
      rw [← hshown]
      exact hask.bind_ok fun w' hw' =>
        (hloop w' hw').map fun all => filter.apply (all.filterMap id)
    exact hall.map Answer.volumes

/-! ### Requests for one volume -/

/-- What is found out about an id before its volume is touched. -/
theorem live_eq {p : Inventory} {text service volumeId : String} {id : OverlayId}
    (hparse : OverlayId.parse text = .ok id) (hsplit : id.split = some (service, volumeId)) :
    live p text =
      (asked id (VolumeProvider.inspect p service volumeId)).map (.ofExternal service) := by
  have htext : id.text = text := congrArg OverlayId.text (OverlayId.eq_of_parse hparse)
  unfold live
  rw [hparse]
  dsimp only
  rw [hsplit]
  dsimp only
  cases VolumeProvider.inspect p service volumeId with
  | ok external => rfl
  | error e => cases e <;> simp [asked, htext, Except.map]

/-- A live volume of an orderly inventory is plain, and goes by the text that names it. -/
theorem exists_of_live {p : Inventory} (hp : p.Orderly) {text : String} {v : Volume}
    (h : live p text = .ok v) :
    ∃ id service external, OverlayId.parse text = .ok id ∧
      id.split = some (service, external.id) ∧
      VolumeProvider.inspect p service external.id = .ok external ∧
      v = .ofExternal service external ∧ v.overlayId = id ∧ v.IsPlain := by
  cases hparse : OverlayId.parse text with
  | error e =>
    unfold live at h
    rw [hparse] at h
    cases h
  | ok id =>
    obtain ⟨service, volumeId, hsplit⟩ := Reconciler.exists_split hparse
    rw [live_eq hparse hsplit] at h
    cases hasked : asked id (VolumeProvider.inspect p service volumeId) with
    | error e =>
      rw [hasked] at h
      cases h
    | ok external =>
      rw [hasked] at h
      cases h
      have hinspect := Reconciler.inspect_of_asked hasked
      obtain ⟨rfl, hplain⟩ := hp.isPlain_of_inspect hinspect
      exact ⟨id, service, external, rfl, hsplit, hinspect, rfl, OverlayId.of_of_split hsplit, hplain⟩

theorem isPlain_of_live {p : Inventory} (hp : p.Orderly) {text : String} {v : Volume}
    (h : live p text = .ok v) : v.IsPlain := by
  obtain ⟨_, _, _, -, -, -, -, -, hplain⟩ := exists_of_live hp h
  exact hplain

theorem follows_askVolume (h : Tracks store w m) (id : OverlayId) (service volumeId : String) :
    Follows store (Reconciler.askVolume id service volumeId) w
      (asked id (VolumeProvider.inspect m.provider service volumeId)) m := by
  refine ⟨w, ?_, h⟩
  rw [Reconciler.exec_askVolume, h.provider]

theorem follows_parseId (h : Tracks store w m) (text : String) :
    Follows store (Reconciler.parseId text) w ((OverlayId.parse text).mapError .invalidId) m :=
  ⟨w, ReconcilerM.exec_ofResult w _ _, h⟩

theorem follows_splitId (h : Tracks store w m) {id : OverlayId} {service volumeId : String}
    (hsplit : id.split = some (service, volumeId)) :
    Follows store (Reconciler.splitId id) w (.ok (service, volumeId)) m :=
  ⟨w, Reconciler.exec_splitId hsplit w, h⟩

/-- What names no live volume is refused before anything else is done. -/
theorem follows_of_live_error (h : Tracks store w m) {text : String} {e : VolumeError}
    (hlive : live m.provider text = .error e) {β : Type}
    (k : OverlayId → String × String → ExternalVolume → ReconcilerM Inventory Reliable β) :
    Follows store (do
      let id ← Reconciler.parseId text
      let parts ← Reconciler.splitId id
      let external ← Reconciler.askVolume id parts.1 parts.2
      k id parts external) w (.error e) m := by
  have hid := follows_parseId h text
  cases hparse : OverlayId.parse text with
  | error e' =>
    unfold live at hlive
    rw [hparse] at hid hlive
    cases hlive
    exact hid.bind_error
  | ok id =>
    obtain ⟨service, volumeId, hsplit⟩ := Reconciler.exists_split hparse
    rw [hparse] at hid
    rw [live_eq hparse hsplit] at hlive
    refine hid.bind_ok fun w₁ h₁ => (follows_splitId h₁ hsplit).bind_ok fun w₂ h₂ => ?_
    have hask := follows_askVolume h₂ id service volumeId
    cases hasked : asked id (VolumeProvider.inspect m.provider service volumeId) with
    | ok external =>
      rw [hasked] at hlive
      cases hlive
    | error e' =>
      rw [hasked] at hlive hask
      cases hlive
      exact hask.bind_error

/-- What names a live volume is told its parts and the volume. -/
theorem follows_of_live (h : Tracks store w m) {text service volumeId : String} {id : OverlayId}
    {external : ExternalVolume} (hparse : OverlayId.parse text = .ok id)
    (hsplit : id.split = some (service, volumeId))
    (hinspect : VolumeProvider.inspect m.provider service volumeId = .ok external) {β : Type}
    {k : OverlayId → String × String → ExternalVolume → ReconcilerM Inventory Reliable β}
    {r : Except VolumeError β}
    (hk : ∀ w', Tracks store w' m → Follows store (k id (service, volumeId) external) w' r m') :
    Follows store (do
      let id ← Reconciler.parseId text
      let parts ← Reconciler.splitId id
      let external ← Reconciler.askVolume id parts.1 parts.2
      k id parts external) w r m' := by
  have hid := follows_parseId h text
  rw [hparse] at hid
  refine hid.bind_ok fun w₁ h₁ => (follows_splitId h₁ hsplit).bind_ok fun w₂ h₂ => ?_
  have hask := follows_askVolume h₂ id service volumeId
  rw [hinspect] at hask
  exact hask.bind_ok hk

/-- A live volume is found under its id, with its overlay. -/
theorem follows_inspect (hp : store.persistFields = false) (h : Tracks store w m) {text : String}
    {v : Volume} (hlive : live m.provider text = .ok v) :
    Follows store (Reconciler.inspect store text) w (.ok ((m.overlay v).on v)) (m.register v) := by
  obtain ⟨id, service, external, hparse, hsplit, hinspect, rfl, -, hplain⟩ :=
    exists_of_live h.orderly hlive
  exact follows_of_live h hparse hsplit hinspect fun w₁ h₁ =>
    (follows_establish hp h₁ hplain).bind_ok fun w₂ h₂ => Follows.pure h₂ _

theorem follows_inspect_of_error (h : Tracks store w m) {text : String} {e : VolumeError}
    (hlive : live m.provider text = .error e) :
    Follows store (Reconciler.inspect store text) w (.error e) m :=
  follows_of_live_error h hlive _

/-- A request that inspects a volume. -/
theorem follows_inspected (hp : store.persistFields = false) (h : Tracks store w m) (text : String) :
    Follows store (Request.run store (.inspect text)) w (m.update text fun o => o).1
      (m.update text fun o => o).2 := by
  unfold update
  cases hlive : live m.provider text with
  | error e => exact (follows_inspect_of_error h hlive).bind_error
  | ok v => exact (follows_inspect hp h hlive).map Answer.volume

/-- A change of a volume is a change of its overlay. -/
theorem follows_modify (hp : store.persistFields = false) (h : Tracks store w m) (text : String)
    {change : Overlay → Overlay} {change' : Volume → Volume}
    (hchange : ∀ o v, change' (Overlay.on o v) = (change o).on v)
    (hlabels : ∀ o, (∀ leaf ∈ o.labels.keys, isLeaf leaf = true) →
      ∀ leaf ∈ (change o).labels.keys, isLeaf leaf = true) :
    Follows store (Reconciler.modify store text change' >>= fun v => Pure.pure (Answer.volume v)) w
      (m.update text change).1 (m.update text change).2 := by
  rw [Reconciler.modify_eq]
  unfold update
  cases hlive : live m.provider text with
  | error e => exact (follows_inspect_of_error h hlive).bind_error.bind_error
  | ok v =>
    have hplain := isPlain_of_live h.orderly hlive
    have hleaves : ∀ leaf ∈ (change (m.overlay v)).labels.keys, isLeaf leaf = true := by
      refine hlabels _ ?_
      unfold overlay
      cases ho : m.overlays.find? v.overlayId.text with
      | none => exact fun leaf hleaf => absurd hleaf List.not_mem_nil
      | some o => exact h.represents.isLeaf _ _ ho
    -- Registering the volume first is not seen behind the overlay that is written over it.
    have hset : (m.register v).setOverlay ((change (m.overlay v)).on v)
        ⟨(change (m.overlay v)).schedulers, (change (m.overlay v)).labels⟩ =
          m.setOverlay v (change (m.overlay v)) :=
      congrArg (OverlayMap.mk m.provider) (KeyMap.insert_insert _ _ _ _)
    have hmodify : Follows store (Reconciler.inspect store text >>= fun v =>
        ReconcilerM.onStore (store.saveVolume (change' v)) >>= fun _ => Pure.pure (change' v)) w
          (.ok ((change (m.overlay v)).on v)) (m.setOverlay v (change (m.overlay v))) := by
      refine (follows_inspect hp h hlive).bind_ok fun w₁ h₁ => ?_
      rw [hchange, ← hset]
      exact (follows_save hp h₁ (v := (change (m.overlay v)).on v) ⟨hplain.id, hplain.owner⟩
        hleaves).bind_ok fun w₂ h₂ => Follows.pure h₂ _
    exact hmodify.map Answer.volume

/-! ### Label keys -/

/-- The check of label keys complains about the first one that is no leaf. -/
theorem mapError_checkLeaves (names : List String) :
    (Store.checkLeaves names).mapError VolumeError.store =
      match (names.find? fun key => !isLeaf key) with
      | some key => .error (.store
          (.invalidIdentifier s!"label key '{key}' must be non-empty and contain no '/'"))
      | none => .ok () := by
  induction names with
  | nil => rfl
  | cons name names ih =>
    have hstep : Store.checkLeaves (name :: names) =
        checkLeaf name >>= fun _ => Store.checkLeaves names := rfl
    rw [hstep, checkLeaf]
    by_cases hname : isLeaf name = true
    · rw [if_pos hname, List.find?_cons_of_neg (by simp [hname])]
      exact ih
    · rw [if_neg hname, List.find?_cons_of_pos (by simp [hname])]
      rfl

theorem follows_checkLabels (h : Tracks store w m) (labels : LabelMap) :
    Follows store (Reconciler.checkLabels store labels) w
      (match refusedLabel store.order labels with
        | some e => .error e
        | none => .ok ()) m := by
  refine ⟨w, ?_, h⟩
  rw [Reconciler.checkLabels, ReconcilerM.exec_ofResult, mapError_checkLeaves, refusedLabel]
  cases (store.order.names labels).find? fun key => !isLeaf key <;> rfl

theorem isLeaf_of_refusedLabel {order : TextOrder} {labels : LabelMap}
    (h : refusedLabel order labels = none) : ∀ leaf ∈ labels.keys, isLeaf leaf = true := by
  intro leaf hleaf
  rw [refusedLabel, Option.map_eq_none_iff, List.find?_eq_none] at h
  simpa using h leaf (TextOrder.mem_names.2 hleaf)

/-- A request that labels a volume. -/
theorem follows_label (hp : store.persistFields = false) (h : Tracks store w m) (text : String)
    (labels : LabelMap) :
    Follows store (Request.run store (.label text labels)) w (step store.order (.label text labels) m).1
      (step store.order (.label text labels) m).2 := by
  have hcheck := follows_checkLabels h labels
  show Follows store ((Reconciler.checkLabels store labels >>= fun _ => Reconciler.modify store text
    fun v => { v with labels := v.labels.insertMany labels.toList }) >>= fun v =>
      Pure.pure (Answer.volume v)) w _ _
  unfold step
  dsimp only
  cases hrefused : refusedLabel store.order labels with
  | some e =>
    rw [hrefused] at hcheck
    exact hcheck.bind_error.bind_error
  | none =>
    rw [hrefused] at hcheck
    rw [bind_assoc]
    -- The keys of the union were keys before or have just been checked.
    refine hcheck.bind_ok fun w₁ h₁ => follows_modify hp h₁ text (fun o v => rfl) ?_
    intro o ho leaf hleaf
    exact (KeyMap.mem_keys_orElse_iff.1 hleaf).elim (isLeaf_of_refusedLabel hrefused leaf) (ho leaf)

/-! ### Requests that change the provider -/

theorem follows_onProvider {α : Type} (h : Tracks store w m)
    (change : Inventory → Except ProviderError α × Inventory)
    (hp : (change m.provider).2.Orderly) :
    Follows store (ReconcilerM.onProvider change) w ((change m.provider).1.mapError .provider)
      { m with provider := (change m.provider).2 } := by
  obtain ⟨_, es, s⟩ := w
  obtain rfl := h.provider
  exact ⟨_, ReconcilerM.exec_onProvider _ change, rfl, hp, h.represents⟩

/-- The provider creates a volume, and the overlay that was asked for is written. -/
theorem follows_created (hp : store.persistFields = false) (h : Tracks store w m)
    {request : CreateRequest} (hname : Config.isServiceName request.serviceName = true)
    (hrefused : refusedLabel store.order request.labels = none) :
    Follows store (Request.run store (.create request)) w (m.create request).1
      (m.create request).2 := by
  -- The provider is called after the labels have passed, and writing the record cannot fail then.
  have hcheck := follows_checkLabels h request.labels
  rw [hrefused] at hcheck
  have hprovider := fun w₁ (h₁ : Tracks store w₁ m) => follows_onProvider h₁
    (fun p => VolumeProvider.create p request.serviceName request) (h.orderly.create _ _)
  unfold OverlayMap.create
  cases hc : VolumeProvider.create m.provider request.serviceName request with
  | mk answer p =>
    simp only [hc] at hprovider
    cases answer with
    | error e =>
      have hcreate : Follows store (Reconciler.create store request) w (.error (.provider e))
          { m with provider := p } := by
        rw [Reconciler.create_of_isServiceName hname]
        exact hcheck.bind_ok fun w₁ h₁ => (hprovider w₁ h₁).bind_error
      exact hcreate.bind_error
    | ok external =>
      have hplain := h.orderly.isPlain_of_create hc
      let o : Overlay := ⟨request.schedulers.eraseDups, request.labels⟩
      have hcreate : Follows store (Reconciler.create store request) w
          (.ok (o.on (.ofExternal request.serviceName external)))
          (setOverlay { m with provider := p } (.ofExternal request.serviceName external) o) := by
        rw [Reconciler.create_of_isServiceName hname]
        unfold Reconciler.created
        rw [Schedulers.dedup_eq_eraseDups]
        refine hcheck.bind_ok fun w₁ h₁ => (hprovider w₁ h₁).bind_ok fun w₂ h₂ => ?_
        exact (follows_save hp h₂ (v := o.on (.ofExternal request.serviceName external))
          ⟨hplain.id, hplain.owner⟩ (isLeaf_of_refusedLabel hrefused)).bind_ok fun w₃ h₃ =>
            Follows.pure h₃ _
      exact hcreate.map Answer.volume

/-- A request that creates a volume. -/
theorem follows_create (hp : store.persistFields = false) (h : Tracks store w m)
    (request : CreateRequest) :
    Follows store (Request.run store (.create request)) w (step store.order (.create request) m).1
      (step store.order (.create request) m).2 := by
  unfold step
  dsimp only
  by_cases hname : Config.isServiceName request.serviceName = true
  · rw [if_pos hname]
    cases hrefused : refusedLabel store.order request.labels with
    | some e =>
      have hcheck := follows_checkLabels h request.labels
      rw [hrefused] at hcheck
      have hcreate : Follows store (Reconciler.create store request) w (.error e) m := by
        rw [Reconciler.create_of_isServiceName hname]
        exact hcheck.bind_error
      exact hcreate.bind_error
    | none => exact follows_created hp h hname hrefused
  · have hcreate : Follows store (Reconciler.create store request) w
        (.error (.provider (.invalidServiceName request.serviceName))) m :=
      ⟨w, Reconciler.exec_create_of_not_isServiceName hname w, h⟩
    rw [if_neg hname]
    exact hcreate.bind_error

theorem follows_remove (h : Tracks store w m) (text : String) :
    Follows store (Request.run store (.remove text)) w (m.remove text).1 (m.remove text).2 := by
  unfold OverlayMap.remove
  cases hlive : live m.provider text with
  | error e =>
    have hremove : Follows store (Reconciler.remove store text) w (.error e) m :=
      follows_of_live_error h hlive _
    exact hremove.bind_error
  | ok v =>
    obtain ⟨id, service, external, hparse, hsplit, hinspect, rfl, hid, hplain⟩ :=
      exists_of_live h.orderly hlive
    have hprovider := fun w₁ (h₁ : Tracks store w₁ m) => follows_onProvider h₁
      (fun p => VolumeProvider.remove p service external.id) (h.orderly.remove _ _)
    dsimp only [Volume.ofExternal]
    cases hr : VolumeProvider.remove m.provider service external.id with
    | mk answer p =>
      simp only [hr] at hprovider
      cases answer with
      | error e =>
        have hremove : Follows store (Reconciler.remove store text) w (.error (.provider e))
            { m with provider := p } :=
          follows_of_live h hparse hsplit hinspect fun w₁ h₁ => (hprovider w₁ h₁).bind_error
        exact hremove.bind_error
      | ok _ =>
        have hremove : Follows store (Reconciler.remove store text) w (.ok ())
            ⟨p, m.overlays.erase id.text⟩ :=
          follows_of_live h hparse hsplit hinspect fun w₁ h₁ =>
            (hprovider w₁ h₁).bind_ok fun w₂ h₂ => follows_removeVolume h₂ (hid ▸ hplain.id)
        have hmap := hremove.map fun _ => Answer.done
        rw [← hid] at hmap
        exact hmap

/-- Erasing the store forgets every overlay. -/
theorem follows_eraseStore (h : Tracks store w m) :
    Follows store (Request.run store .eraseStore) w (.ok .done) { m with overlays := ∅ } := by
  obtain ⟨p, es, s⟩ := w
  have herase : Follows store (ReconcilerM.onStore store.eraseAll) ⟨p, es, s⟩ (.ok ())
      { m with overlays := ∅ } := by
    refine ⟨⟨p, store.erased es, s⟩, ?_, h.provider, h.orderly, ?_⟩
    · rw [ReconcilerM.exec_onStore, Store.exec_eraseAll]
      rfl
    · exact Store.represents_empty fun _ _ _ _ leaf =>
        Store.find?_erased leaf
  exact herase.map fun _ => Answer.done

/-! ### Runs -/

/-- One request, put to the store and to the map. -/
theorem follows_step (hp : store.persistFields = false) (h : Tracks store w m) (request : Request) :
    Follows store (request.run store) w (step store.order request m).1 (step store.order request m).2 := by
  cases request with
  | list filter => exact follows_list hp h filter
  | listAll filter => exact follows_listAll hp h filter
  | inspect id => exact follows_inspected hp h id
  | offer id requested =>
    refine follows_modify hp h id (fun o v => ?_) fun o ho => ho
    rw [Schedulers.offer, Schedulers.dedup_eq_eraseDups]
    rfl
  | revoke id revoked =>
    refine follows_modify hp h id (fun o v => ?_) fun o ho => ho
    -- Revoking asks for membership as a Boolean, the map for the proposition.
    have hkept : Schedulers.revoke o.schedulers revoked =
        o.schedulers.filter fun s => s ∉ revoked := by
      rw [Schedulers.revoke]
      congr 1
      funext s
      simp
    rw [← hkept]
    rfl
  | label id labels => exact follows_label hp h id labels
  | removeLabels id keys =>
    refine follows_modify hp h id (fun o v => ?_) fun o ho leaf hleaf => ?_
    · rw [← KeyMap.eraseMany_eq_filter]
      rfl
    · exact ho leaf (KeyMap.mem_keys_of_mem_filter (p := fun k => k ∉ keys) hleaf)
  | create request => exact follows_create hp h request
  | remove id => exact follows_remove h id
  | eraseStore => exact follows_eraseStore h

/-- From a state that a map describes, all requests are answered as the map answers them, in whatever
order texts are visited at each. -/
theorem answers_eq (hp : store.persistFields = false) (h : Tracks store w m)
    (requests : List (TextOrder × Request)) :
    answers (fun r => exec (r.2.run (store.inOrder r.1))) requests w =
      answers (fun r => step r.1 r.2) requests m := by
  induction requests generalizing w m with
  | nil => rfl
  | cons r requests ih =>
    obtain ⟨w', hrun, htracks⟩ :=
      follows_step (show (store.inOrder r.1).persistFields = false from hp)
        ((tracks_inOrder r.1).2 h) r.2
    rw [answers, answers, hrun, ih ((tracks_inOrder r.1).1 htracks)]
    rfl

/-- A store that is set up on no entries keeps no overlays. -/
theorem tracks_started (store : Store) {i : Inventory} (hi : i.Orderly) :
    Tracks store ⟨i, store.started, {}⟩ ⟨i, ∅⟩ where
  provider := rfl
  orderly := hi
  represents := Store.represents_empty fun _ _ _ _ leaf => Store.find?_started leaf

/-- A store that mirrors no fields is set up on no entries, under any root and for either backend, over
services whose names have no slash and no blank ends. Then every sequence of requests is answered as
by the map of overlays that begins empty, in whatever order labels and fields are visited at each
request. -/
theorem answers_eq_of_setUp {config : StoreConfig} (hp : config.persistFields = false)
    {services : List String} {i : Inventory} (hi : Inventory.ofServices services = .ok i)
    (hs : ∀ s ∈ services, '/' ∉ s.toList ∧ Text.trim s = s) :
    ∃ es, OpenStore.setUpOn (.ofConfig config) ∅ = .ok es ∧
      ∀ requests : List (TextOrder × Request),
        answers (fun r => exec (Request.run ((Store.ofConfig config).inOrder r.1) r.2)) requests
            (⟨i, es, {}⟩ : World Inventory Reliable) =
          answers (fun r => step r.1 r.2) requests ⟨i, ∅⟩ := by
  refine ⟨(Store.ofConfig config).started, Store.setUpOn_empty, fun requests => ?_⟩
  exact answers_eq hp (tracks_started _ (Inventory.orderly_ofServices hi hs)) requests

/-- The store in memory over a single service. -/
theorem answers_eq_of_setUp_single :
    let i : Inventory := ⟨.ofList [("mock", Inventory.initialVolumes)], 3⟩
    StoreConfig.memory.persistFields = false ∧ Inventory.ofServices ["mock"] = .ok i ∧
      (∀ s ∈ ["mock"], '/' ∉ s.toList ∧ Text.trim s = s) ∧
      ∃ es, OpenStore.setUpOn (.ofConfig .memory) ∅ = .ok es ∧
        ∀ requests : List (TextOrder × Request),
          answers (fun r => exec (Request.run ((Store.ofConfig .memory).inOrder r.1) r.2)) requests
              (⟨i, es, {}⟩ : World Inventory Reliable) =
            answers (fun r => step r.1 r.2) requests ⟨i, ∅⟩ := by
  have hi : Inventory.ofServices ["mock"] =
      .ok ⟨.ofList [("mock", Inventory.initialVolumes)], 3⟩ := by decide
  have hs : ∀ s ∈ ["mock"], '/' ∉ s.toList ∧ Text.trim s = s := by decide
  have hp : StoreConfig.memory.persistFields = false := rfl
  exact ⟨hp, hi, hs, answers_eq_of_setUp hp hi hs⟩

end OverlayMap

end VolumeOverlay
