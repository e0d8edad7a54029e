import Mathlib.Data.List.Basic
import Mathlib.Data.List.Nodup
import VolumeOverlay.Proofs.Config
import VolumeOverlay.Proofs.Provider.Inventory

/-!
# What a configuration starts with

A configuration that is accepted and names no other driver makes an inventory. The two checks, of the
configuration and of the inventory, agree: a name that the first has let pass is never refused by the
second, and since all names are different, no service takes the place of another. Each service starts
with the same three volumes. Their overlay ids are all different, because no service name holds the
separator, so that an id is split again into the service and the id that it was made of.

## Main results

* `Inventory.volumes_eq`: the volumes of an inventory, one service after the other
* `Inventory.find?_ofServices`: what every service starts with
* `Config.validate_fits_inventory`: what is accepted, why the rest is refused, and the inventory that
  an accepted configuration starts with
-/

namespace VolumeOverlay

theorem KeyMap.pairwise_keys {β : Type} (m : KeyMap β) : m.keys.Pairwise (· < ·) :=
  List.pairwise_map.2 m.ascending

/-- Calls that all succeed give the list of their results. -/
theorem mapM_map_eq_ok {ε α β γ : Type} {f : β → Except ε γ} {g : α → β} {h : α → γ} {as : List α}
    (hf : ∀ a ∈ as, f (g a) = .ok (h a)) : (as.map g).mapM f = .ok (as.map h) := by
  induction as with
  | nil => rfl
  | cons a as ih =>
    rw [List.map_cons, List.mapM_cons, hf a List.mem_cons_self,
      ih fun b hb => hf b (List.mem_cons_of_mem _ hb)]
    rfl

/-- Of elements that are listed under different names, those of one name are the ones listed
under it. -/
theorem filter_flatMap_of_nodup {α : Type} {names : List String} (hnames : names.Nodup)
    {f : String → List α} {nameOf : α → String} (hf : ∀ s, ∀ a ∈ f s, nameOf a = s) {s : String}
    (hs : s ∈ names) : (names.flatMap f).filter (fun a => nameOf a = s) = f s := by
  have hown : ∀ t, (f t).filter (fun a => nameOf a = s) = if t = s then f t else [] := by
    intro t
    split
    · rename_i ht
      exact List.filter_eq_self.2 fun a ha => decide_eq_true ((hf t a ha).trans ht)
    · rename_i ht
      exact List.filter_eq_nil_iff.2 fun a ha h => ht ((hf t a ha).symm.trans (of_decide_eq_true h))
  induction names with
  | nil => exact absurd hs List.not_mem_nil
  | cons t names ih =>
    obtain ⟨hnotMem, hnodup⟩ := List.nodup_cons.1 hnames
    rw [List.flatMap_cons, List.filter_append, hown]
    by_cases ht : t = s
    · -- No later name is this one.
      subst ht
      have hrest : (names.flatMap f).filter (fun a => nameOf a = t) = [] := by
        refine List.filter_eq_nil_iff.2 fun a ha h => ?_
        obtain ⟨u, hu, ha⟩ := List.mem_flatMap.1 ha
        rw [hf u a ha] at h
        exact hnotMem (of_decide_eq_true h ▸ hu)
      rw [if_pos rfl, hrest, List.append_nil]
    · rw [if_neg ht, List.nil_append]
      exact ih hnodup ((List.mem_cons.1 hs).resolve_left fun h => ht h.symm)

namespace Inventory

variable {i : Inventory} {services : List String}

/-- The volumes of an inventory are those of its services, and listing them never fails. -/
theorem volumes_eq (i : Inventory) :
    VolumeProvider.volumes i =
      .ok (i.volumes.entries.flatMap fun e => e.2.values.map (Volume.ofExternal e.1)) := by
  have hservice : ∀ e ∈ i.volumes.entries,
      (do return (← VolumeProvider.volumesOf i e.1).map (Volume.ofExternal e.1)) =
        (Except.ok (e.2.values.map (Volume.ofExternal e.1)) : Except ProviderError _) := by
    rintro ⟨s, volumes⟩ he
    have hvolumes : i.volumesOf s = .ok volumes :=
      volumesOf_eq_ok_iff.2 (KeyMap.find?_eq_some_iff.2 he)
    show (do return (← (i.volumesOf s).map KeyMap.values).map (Volume.ofExternal s)) = _
    rw [hvolumes]
    rfl
  have hall := mapM_map_eq_ok
    (f := fun s => do return (← VolumeProvider.volumesOf i s).map (Volume.ofExternal s))
    (g := fun e : String × KeyMap ExternalVolume => e.1) hservice
  -- The services that are listed are the keys of the entries, so none of them is unknown.
  show VolumeProvider.gather (i.volumes.entries.map (·.1)) (VolumeProvider.volumesOf i) = _
  rw [VolumeProvider.gather, hall]
  rfl

/-- Every service starts with the same volumes. -/
theorem find?_ofServices (h : ofServices services = .ok i) (s : String) :
    i.volumes.find? s = if s ∈ services then some initialVolumes else none := by
  have hcontains : i.volumes.contains s ↔ s ∈ services := by
    unfold ofServices at h
    split at h
    · cases h
    · cases h
      rw [KeyMap.contains_ofList_iff]
      simp
  cases hfind : i.volumes.find? s with
  | none =>
    have hnotMem : s ∉ services := fun hs => by
      obtain ⟨volumes, hvolumes⟩ := KeyMap.contains_iff.1 (hcontains.2 hs)
      rw [hfind] at hvolumes
      cases hvolumes
    rw [if_neg hnotMem]
  | some volumes =>
    obtain ⟨hs, -, rfl⟩ := of_find?_ofServices h hfind
    rw [if_pos hs]

/-- Names that are fine for a configuration make an inventory. -/
theorem exists_ofServices (h : Config.AreServiceNames services) :
    ∃ i, ofServices services = .ok i := by
  have hnone : (services.find? fun s => !Config.isServiceName s) = none := by
    refine List.find?_eq_none.2 fun s hs => ?_
    simp [Config.isServiceName, h.ne_empty s hs, h.separator_notMem s hs]
  unfold ofServices
  rw [hnone]
  exact ⟨_, rfl⟩

/-- The services of an inventory are listed in ascending order. -/
theorem services_perm (h : ofServices services = .ok i) (hnodup : services.Nodup) :
    (VolumeProvider.services i).Perm services := by
  have hkeys : i.volumes.keys.Nodup := i.volumes.nodup_keys
  refine (List.perm_ext_iff_of_nodup hkeys hnodup).2 fun s => ?_
  show s ∈ i.volumes.keys ↔ s ∈ services
  rw [KeyMap.mem_keys, find?_ofServices h]
  by_cases hs : s ∈ services <;> simp [hs]

/-! ### The volumes of services that start -/

/-- The volumes that services start with, one service after the other. -/
def initial (services : List String) : List Volume :=
  services.flatMap fun s => initialVolumes.values.map (Volume.ofExternal s)

theorem values_initialVolumes :
    initialVolumes.values = (List.range initialCount).map initialVolume := by
  decide +kernel

theorem volumes_ofServices (h : ofServices services = .ok i) :
    VolumeProvider.volumes i = .ok (initial (VolumeProvider.services i)) := by
  have hsame : ∀ e ∈ i.volumes.entries, e.2.values.map (Volume.ofExternal e.1) =
      initialVolumes.values.map (Volume.ofExternal e.1) := fun e he => by
    obtain ⟨-, -, hvolumes⟩ := of_find?_ofServices h (KeyMap.find?_eq_some_iff.2 he)
    rw [hvolumes]
  rw [volumes_eq, List.flatMap_congr hsame]
  show _ = Except.ok ((i.volumes.entries.map (·.1)).flatMap _)
  rw [List.flatMap_map]

theorem exists_of_mem_initial {v : Volume} (h : v ∈ initial services) :
    ∃ s ∈ services, ∃ n < initialCount, v = .ofExternal s (initialVolume n) := by
  obtain ⟨s, hs, hv⟩ := List.mem_flatMap.1 h
  rw [values_initialVolumes, List.map_map] at hv
  obtain ⟨n, hn, rfl⟩ := List.mem_map.1 hv
  exact ⟨s, hs, n, List.mem_range.1 hn, rfl⟩

theorem filter_initial (hnodup : services.Nodup) {s : String} (hs : s ∈ services) :
    (initial services).filter (fun v => v.serviceName = s) =
      initialVolumes.values.map (Volume.ofExternal s) := by
  refine filter_flatMap_of_nodup hnodup (fun t v hv => ?_) hs
  obtain ⟨external, -, rfl⟩ := List.mem_map.1 hv
  rfl

/-- Service names that hold no separator make different overlay ids of different parts. -/
theorem nodup_overlayIds_initial (h : Config.AreServiceNames services) :
    ((initial services).map (·.overlayId)).Nodup := by
  have hids : (initialVolumes.values.map (·.id)).Nodup := by
    decide +kernel
  -- Once the ids are split they are the pairs of a service and an id.
  have hsplit : ((initial services).map (·.overlayId)).map OverlayId.split =
      (services.product (initialVolumes.values.map (·.id))).map some := by
    have hservice : ∀ s ∈ services,
        ((initialVolumes.values.map (Volume.ofExternal s)).map (·.overlayId)).map OverlayId.split =
          ((initialVolumes.values.map (·.id)).map (Prod.mk s)).map some := by
      intro s hs
      simp only [List.map_map]
      exact List.map_congr_left fun v _ => OverlayId.split_of (h.separator_notMem s hs)
    rw [initial, List.product, List.map_flatMap, List.map_flatMap, List.map_flatMap]
    exact List.flatMap_congr hservice
  -- Ids that are different when they are split were different before.
  refine List.Nodup.of_map OverlayId.split ?_
  rw [hsplit]
  exact (h.nodup.product hids).map fun _ _ => Option.some.inj

end Inventory

/-! ### Configurations -/

theorem Config.AreServiceNames.of_perm {names names' : List String} (h : AreServiceNames names)
    (hperm : names'.Perm names) : AreServiceNames names' where
  ne_empty name hname := h.ne_empty name (hperm.mem_iff.1 hname)
  separator_notMem name hname := h.separator_notMem name (hperm.mem_iff.1 hname)
  nodup := hperm.nodup_iff.2 h.nodup

theorem Inventory.volumeId_ne_empty (n : Nat) : volumeId n ≠ "" := by
  intro h
  rw [← String.toList_inj] at h
  simp [volumeId] at h

namespace Config

/-- A configuration is accepted when its store waits and the names of its services are not empty, hold
no separator and are all different. It is refused for the first service that is at fault, and for its
store when no service is. An accepted configuration whose services all have the driver starts with an
inventory that lists the configured services in ascending order, three volumes for each of them, and
overlay ids that are all different and are split again into service and volume. -/
theorem validate_fits_inventory (c : Config) :
    (c.validate = .ok () ↔
        c.store.connectionTimeoutMs ≠ 0 ∧ AreServiceNames (c.services.map (·.name))) ∧
      (∀ e, c.validate = .error e ↔
        (∃ before s after, c.services = before ++ s :: after ∧
          AreServiceNames (before.map (·.name)) ∧ Fault (before.map (·.name)) s.name e) ∨
        AreServiceNames (c.services.map (·.name)) ∧ c.store.connectionTimeoutMs = 0 ∧
          e = noTimeout) ∧
      (c.validate = .ok () → (∀ s ∈ c.services, s.driver = Inventory.driver) →
        ∃ i, Inventory.ofConfig c.services = .ok i ∧
          (VolumeProvider.services i).Perm (c.services.map (·.name)) ∧
          (VolumeProvider.services i).Pairwise (· < ·) ∧
          ∃ vs, VolumeProvider.volumes i = .ok vs ∧ (vs.map (·.overlayId)).Nodup ∧
            (∀ s ∈ c.services, (vs.filter fun v => v.serviceName = s.name).length = 3) ∧
            ∀ v ∈ vs, v.serviceName ∈ c.services.map (·.name) ∧
              OverlayId.parse v.overlayId.text = .ok v.overlayId ∧
              v.overlayId.split = some (v.serviceName, v.external.id)) := by
  refine ⟨validate_eq_ok_iff, fun e => validate_eq_error_iff, fun hvalid hdriver => ?_⟩
  obtain ⟨-, hnames⟩ := validate_eq_ok_iff.1 hvalid
  obtain ⟨i, hi⟩ := Inventory.exists_ofServices hnames
  have hconfig : Inventory.ofConfig c.services = .ok i := by
    have hnone : (c.services.find? fun s => s.driver ≠ Inventory.driver) = none :=
      List.find?_eq_none.2 fun s hs => by simpa using hdriver s hs
    rw [Inventory.ofConfig, hnone]
    exact hi
  have hperm := Inventory.services_perm hi hnames.nodup
  have hlisted := hnames.of_perm hperm
  refine ⟨i, hconfig, hperm, KeyMap.pairwise_keys _, _, Inventory.volumes_ofServices hi,
    Inventory.nodup_overlayIds_initial hlisted, fun s hs => ?_, fun v hv => ?_⟩
  · have hmem : s.name ∈ VolumeProvider.services i :=
      hperm.mem_iff.2 (List.mem_map.2 ⟨s, hs, rfl⟩)
    rw [Inventory.filter_initial hlisted.nodup hmem, Inventory.values_initialVolumes,
      List.length_map, List.length_map, List.length_range]
    rfl
  · obtain ⟨s, hs, n, -, rfl⟩ := Inventory.exists_of_mem_initial hv
    have hsep := hlisted.separator_notMem s hs
    exact ⟨hperm.mem_iff.1 hs,
      OverlayId.parse_of (hlisted.ne_empty s hs) hsep (Inventory.volumeId_ne_empty n),
      OverlayId.split_of hsep⟩

/-- Two services, whose names are not in ascending order. -/
def twoServices : Config where
  services := [{ name := "mock" }, { name := "ebs" }]

theorem validate_fits_inventory_two :
    twoServices.validate = .ok () ∧ (∀ s ∈ twoServices.services, s.driver = Inventory.driver) ∧
      ∃ i, Inventory.ofConfig twoServices.services = .ok i ∧
        (VolumeProvider.services i).Perm ["mock", "ebs"] ∧
        (VolumeProvider.services i).Pairwise (· < ·) := by
  have hvalid : twoServices.validate = .ok () := by decide
  have hdriver : ∀ s ∈ twoServices.services, s.driver = Inventory.driver := by decide
  obtain ⟨-, -, hstart⟩ := validate_fits_inventory twoServices
  obtain ⟨i, hi, hperm, hascending, -⟩ := hstart hvalid hdriver
  exact ⟨hvalid, hdriver, i, hi, hperm, hascending⟩

end Config

end VolumeOverlay
