import VolumeOverlay.Proofs.KeyMap
import VolumeOverlay.Proofs.Store.Key
import VolumeOverlay.Provider.Inventory

/-!
# Ids in an inventory

An inventory numbers its volumes and keeps each under its own id. As long as the names of its services
have no slash, no separator and no blank ends, the overlay ids of its volumes are plain; creating and
removing volumes does not change that.

## Main definitions

* `Volume.IsPlain v`: the id of a volume is plain, and tells the service that owns it
* `Inventory.IsService s`: a name that makes plain ids
* `Inventory.Orderly i`: the services of an inventory have such names, and volumes are kept under
  their ids
* `Inventory.Has i v`: the external volume of a volume is kept under its id
* `Inventory.Lost i i' service volumeId`: an inventory that has lost one volume
* `Inventory.Storable i`: every field of every volume is named by a leaf

## Main results

* `Inventory.orderly_ofServices`, `Orderly.create`, `Orderly.remove`: every inventory that services
  start with is orderly, and stays so
* `Inventory.Orderly.isPlain_of_inspect`, `isPlain_of_mem_volumes`, `isPlain_of_create`: the volumes
  that an orderly inventory reports are plain
* `Inventory.Orderly.external_eq_of_has`: an overlay id belongs to one external volume
* `Inventory.remove_of_inspect`: a volume that is found is removed, and no other
* `Inventory.Has.of_create`, `Has.of_remove`: no other volumes come in than the one that is created
-/

namespace VolumeOverlay

/-- The id of a volume is plain, and tells the service that owns it. -/
structure Volume.IsPlain (v : Volume) : Prop where
  id : v.overlayId.IsPlain
  owner : v.overlayId.owner = v.serviceName

theorem Text.isBlank_of_isDigit {c : Char} (h : c.isDigit) : isBlank c = false := by
  have hn : 48 ≤ c.toNat ∧ c.toNat ≤ 57 := by
    simpa [Char.isDigit, Char.le_def, UInt32.le_iff_toNat_le] using h
  have hne : ∀ n, 57 < n → (c.toNat == n) = false := fun n hlt => by
    simp
    omega
  have hsp : (c.toNat == 0x20) = false := by
    simp
    omega
  -- Blanks are single code points and two ranges; digits are in neither.
  have hlow : ¬ c.toNat ≤ 0x0D := by omega
  have hhigh : ¬ 0x2000 ≤ c.toNat := by omega
  unfold isBlank
  simp [hne, hsp, hlow, hhigh]

namespace Inventory

/-- A name that makes plain ids. -/
structure IsService (s : String) : Prop where
  isServiceName : Config.isServiceName s = true
  slash_notMem : '/' ∉ s.toList
  trim_eq : Text.trim s = s

theorem IsService.separator_notMem {s : String} (h : IsService s) :
    OverlayId.separator ∉ s.toList := by
  have hname := h.isServiceName
  rw [Config.isServiceName, Bool.and_eq_true] at hname
  simpa using hname.2

theorem IsService.ne_empty {s : String} (h : IsService s) : s ≠ "" := by
  have hname := h.isServiceName
  rw [Config.isServiceName, Bool.and_eq_true] at hname
  simpa using hname.1

/-- The id of a volume has neither blanks nor slashes. -/
theorem of_mem_volumeId {n : Nat} {c : Char} (h : c ∈ (volumeId n).toList) :
    Text.isBlank c = false ∧ c ≠ '/' := by
  have hdigit : ∀ c : Char, c.isDigit → Text.isBlank c = false ∧ c ≠ '/' := fun c hc =>
    ⟨Text.isBlank_of_isDigit hc, fun h => absurd (h ▸ hc) (by decide)⟩
  -- An id is made of a few letters, of zeros, and of the digits of its number.
  have htext : (volumeId n).toList = ['v', 'o', 'l', '-'] ++ Text.Decimal.zeroPadded 3 n := by
    simp [volumeId]
  rw [htext, Text.Decimal.zeroPadded, List.mem_append, List.mem_append] at h
  rcases h with h | h | h
  · simp only [List.mem_cons, List.not_mem_nil, or_false] at h
    rcases h with rfl | rfl | rfl | rfl <;> decide
  · rw [List.eq_of_mem_replicate h]
    decide
  · exact hdigit c (Nat.isDigit_of_mem_toDigits (by decide) (by decide) h)

/-- Volumes that are kept under their ids, which are made from numbers. -/
def Kept (volumes : KeyMap ExternalVolume) : Prop :=
  ∀ id v, volumes.find? id = some v → v.id = id ∧ ∃ n, id = volumeId n

theorem Kept.insert {volumes : KeyMap ExternalVolume} (h : Kept volumes) {v : ExternalVolume}
    (hv : ∃ n, v.id = volumeId n) : Kept (volumes.insert v.id v) := by
  intro id w hw
  rw [KeyMap.find?_insert] at hw
  split at hw
  · rename_i hid
    cases hw
    exact ⟨hid.symm, hid ▸ hv⟩
  · exact h id w hw

theorem Kept.erase {volumes : KeyMap ExternalVolume} (h : Kept volumes) (id : String) :
    Kept (volumes.erase id) := by
  intro id' w hw
  rw [KeyMap.find?_erase] at hw
  split at hw
  · cases hw
  · exact h id' w hw

theorem exists_of_find?_initialVolumes {id : String} {v : ExternalVolume}
    (h : initialVolumes.find? id = some v) : ∃ n, id = volumeId n ∧ v = initialVolume n := by
  rcases KeyMap.mem_or_find?_of_insertMany h with hmem | hempty
  · obtain ⟨n, -, hn⟩ := List.mem_map.1 hmem
    obtain ⟨rfl, rfl⟩ := Prod.mk.inj hn
    exact ⟨n, rfl, rfl⟩
  · cases hempty

theorem kept_initialVolumes : Kept initialVolumes := by
  intro id v hv
  obtain ⟨n, rfl, rfl⟩ := exists_of_find?_initialVolumes hv
  exact ⟨rfl, n, rfl⟩

/-- The services of an inventory make plain ids, and volumes are kept under their ids. -/
def Orderly (i : Inventory) : Prop :=
  ∀ s volumes, i.volumes.find? s = some volumes → IsService s ∧ Kept volumes

/-- A volume of a service that makes plain ids is plain. -/
theorem isPlain_ofExternal {service : String} {v : ExternalVolume} (hs : IsService service)
    (hv : ∃ n, v.id = volumeId n) : (Volume.ofExternal service v).IsPlain where
  id := by
    obtain ⟨n, hn⟩ := hv
    refine OverlayId.isPlain_of hs.ne_empty hs.trim_eq hs.slash_notMem fun c hc => ?_
    rw [hn] at hc
    exact of_mem_volumeId hc
  owner := OverlayId.owner_of hs.separator_notMem

theorem volumesOf_eq_ok_iff {i : Inventory} {s : String} {volumes : KeyMap ExternalVolume} :
    i.volumesOf s = .ok volumes ↔ i.volumes.find? s = some volumes := by
  unfold volumesOf
  cases i.volumes.find? s <;> simp

/-- What is found under an id, or why nothing is. -/
theorem inspect_eq (i : Inventory) (s id : String) :
    i.inspect s id =
      match i.volumes.find? s with
      | none => .error (.serviceNotFound s)
      | some volumes =>
        match volumes.find? id with
        | some v => .ok v
        | none => .error (.volumeNotFound s id) := by
  unfold inspect volumesOf
  cases i.volumes.find? s with
  | none => rfl
  | some volumes =>
    show (match volumes.find? id with
      | some v => Except.ok v
      | none => Except.error (ProviderError.volumeNotFound s id)) = _
    rfl

theorem inspect_eq_ok_iff {i : Inventory} {s id : String} {v : ExternalVolume} :
    i.inspect s id = .ok v ↔
      ∃ volumes, i.volumes.find? s = some volumes ∧ volumes.find? id = some v := by
  unfold inspect volumesOf
  cases i.volumes.find? s with
  | none => simp [bind, Except.bind]
  | some volumes =>
    simp only [bind, Except.bind, Option.some.injEq, exists_eq_left']
    cases volumes.find? id <;> simp [pure, Except.pure, throw, throwThe, MonadExceptOf.throw]

/-- Services start with the same volumes, and their names are accepted. -/
theorem of_find?_ofServices {services : List String} {i : Inventory}
    (h : ofServices services = .ok i) {s : String} {volumes : KeyMap ExternalVolume}
    (hvolumes : i.volumes.find? s = some volumes) :
    s ∈ services ∧ Config.isServiceName s = true ∧ volumes = initialVolumes := by
  unfold ofServices at h
  split at h
  · cases h
  · rename_i hnone
    cases h
    rcases KeyMap.mem_or_find?_of_insertMany hvolumes with hmem | hempty
    · obtain ⟨s', hs', heq⟩ := List.mem_map.1 hmem
      obtain ⟨rfl, rfl⟩ := Prod.mk.inj heq
      exact ⟨hs', by simpa using List.find?_eq_none.1 hnone s' hs', rfl⟩
    · cases hempty

/-- What services start with is orderly. -/
theorem orderly_ofServices {services : List String} {i : Inventory}
    (h : ofServices services = .ok i)
    (hs : ∀ s ∈ services, '/' ∉ s.toList ∧ Text.trim s = s) : i.Orderly := by
  intro s volumes hvolumes
  obtain ⟨hmem, hname, rfl⟩ := of_find?_ofServices h hvolumes
  exact ⟨⟨hname, (hs s hmem).1, (hs s hmem).2⟩, kept_initialVolumes⟩

namespace Orderly

variable {i : Inventory} {service : String}

/-- A service with other volumes that are kept under their ids. -/
theorem insert (hi : i.Orderly) (hs : IsService service) {volumes : KeyMap ExternalVolume}
    (hv : Kept volumes) (n : UInt64) : Orderly ⟨i.volumes.insert service volumes, n⟩ := by
  intro s vs hvs
  rw [KeyMap.find?_insert] at hvs
  split at hvs
  · rename_i hservice
    cases hvs
    exact ⟨hservice ▸ hs, hv⟩
  · exact hi s vs hvs

theorem create (hi : i.Orderly) (service : String) (request : CreateRequest) :
    (i.create service request).2.Orderly := by
  unfold Inventory.create
  cases h : i.volumesOf service with
  | error e => exact hi
  | ok volumes =>
    obtain ⟨hs, hv⟩ := hi service volumes (volumesOf_eq_ok_iff.1 h)
    exact hi.insert hs (hv.insert ⟨i.nextNumber.toNat, rfl⟩) _

theorem remove (hi : i.Orderly) (service volumeId : String) :
    (i.remove service volumeId).2.Orderly := by
  unfold Inventory.remove
  cases h : i.volumesOf service with
  | error e => exact hi
  | ok volumes =>
    obtain ⟨hs, hv⟩ := hi service volumes (volumesOf_eq_ok_iff.1 h)
    dsimp only
    split
    · exact hi.insert hs (hv.erase volumeId) _
    · exact hi

theorem isPlain_of_inspect (hi : i.Orderly) {volumeId : String} {v : ExternalVolume}
    (h : i.inspect service volumeId = .ok v) :
    v.id = volumeId ∧ (Volume.ofExternal service v).IsPlain := by
  obtain ⟨volumes, hvolumes, hfind⟩ := inspect_eq_ok_iff.1 h
  obtain ⟨hs, hv⟩ := hi service volumes hvolumes
  obtain ⟨rfl, hn⟩ := hv volumeId v hfind
  exact ⟨rfl, isPlain_ofExternal hs hn⟩

/-- A volume of the listing is found under its id. -/
theorem exists_of_mem_volumes (hi : i.Orderly) {vs : List Volume}
    (h : VolumeProvider.volumes i = .ok vs) {v : Volume} (hv : v ∈ vs) :
    ∃ service external, i.inspect service external.id = .ok external ∧
      v = .ofExternal service external := by
  obtain ⟨service, externals, external, hvolumes, hmem, rfl⟩ :=
    VolumeProvider.exists_of_mem_gather h hv
  obtain ⟨volumes, hfind, rfl⟩ : ∃ volumes, i.volumesOf service = .ok volumes ∧
      volumes.values = externals := by
    have hvalues : (i.volumesOf service).map KeyMap.values = .ok externals := hvolumes
    cases hfind : i.volumesOf service with
    | error e =>
      rw [hfind] at hvalues
      cases hvalues
    | ok volumes =>
      rw [hfind] at hvalues
      exact ⟨volumes, rfl, Except.ok.inj hvalues⟩
  obtain ⟨-, hkept⟩ := hi service volumes (volumesOf_eq_ok_iff.1 hfind)
  obtain ⟨⟨id, external⟩, hentry, rfl⟩ := List.mem_map.1 hmem
  have hid := KeyMap.find?_eq_some_iff.2 hentry
  obtain ⟨rfl, -⟩ := hkept id external hid
  exact ⟨service, external, inspect_eq_ok_iff.2 ⟨volumes, volumesOf_eq_ok_iff.1 hfind, hid⟩, rfl⟩

theorem isPlain_of_mem_volumes (hi : i.Orderly) {vs : List Volume}
    (h : VolumeProvider.volumes i = .ok vs) {v : Volume} (hv : v ∈ vs) :
    v.IsPlain ∧ ∃ service external, v = .ofExternal service external := by
  obtain ⟨service, external, hinspect, rfl⟩ := hi.exists_of_mem_volumes h hv
  exact ⟨(hi.isPlain_of_inspect hinspect).2, service, external, rfl⟩

theorem isPlain_of_create (hi : i.Orderly) {request : CreateRequest} {v : ExternalVolume}
    {i' : Inventory} (h : i.create service request = (.ok v, i')) :
    (Volume.ofExternal service v).IsPlain := by
  unfold Inventory.create at h
  cases hvolumes : i.volumesOf service with
  | error e =>
    rw [hvolumes] at h
    cases h
  | ok volumes =>
    rw [hvolumes] at h
    cases h
    exact isPlain_ofExternal (hi service volumes (volumesOf_eq_ok_iff.1 hvolumes)).1
      ⟨i.nextNumber.toNat, rfl⟩

end Orderly

/-! ### Volumes of an inventory -/

/-- The external volume of a volume is kept under its id. -/
def Has (i : Inventory) (v : Volume) : Prop :=
  ∃ service, i.inspect service v.external.id = .ok v.external ∧
    v.overlayId = .of service v.external.id

/-- Every field of every volume is named by a leaf. -/
def Storable (i : Inventory) : Prop :=
  ∀ service id v, i.inspect service id = .ok v → ∀ leaf ∈ v.fields.keys, isLeaf leaf = true

variable {i : Inventory} {service volumeId : String}

/-- What is found after the volumes of a service are replaced. -/
theorem inspect_insert_eq_ok_iff {volumes : KeyMap ExternalVolume} {n : UInt64} {s id : String}
    {v : ExternalVolume} :
    (Inventory.mk (i.volumes.insert service volumes) n).inspect s id = .ok v ↔
      if s = service then volumes.find? id = some v else i.inspect s id = .ok v := by
  rw [inspect_eq_ok_iff, KeyMap.find?_insert]
  split
  · simp
  · exact inspect_eq_ok_iff.symm

/-- What is found after a volume is created was there before, or is the new one. -/
theorem inspect_of_create {request : CreateRequest} {s id : String} {v : ExternalVolume}
    (h : (i.create service request).2.inspect s id = .ok v) :
    i.inspect s id = .ok v ∨
      s = service ∧ id = v.id ∧ (i.create service request).1 = .ok v := by
  unfold Inventory.create at h ⊢
  cases hvolumes : i.volumesOf service with
  | error e =>
    rw [hvolumes] at h
    exact .inl h
  | ok volumes =>
    rw [hvolumes] at h
    dsimp only at h ⊢
    rw [inspect_insert_eq_ok_iff] at h
    split at h
    · rename_i hs
      subst hs
      rw [KeyMap.find?_insert] at h
      split at h
      · rename_i hid
        obtain rfl := Option.some.inj h
        exact .inr ⟨rfl, hid, rfl⟩
      · exact .inl (inspect_eq_ok_iff.2 ⟨volumes, volumesOf_eq_ok_iff.1 hvolumes, h⟩)
    · exact .inl h

/-- The volume that is created has the fields that were asked for, and is found under its id. -/
theorem inspect_create {request : CreateRequest} {v : ExternalVolume}
    (h : (i.create service request).1 = .ok v) :
    v.fields = request.fields ∧ (i.create service request).2.inspect service v.id = .ok v := by
  unfold Inventory.create at h ⊢
  cases hvolumes : i.volumesOf service with
  | error e =>
    rw [hvolumes] at h
    cases h
  | ok volumes =>
    rw [hvolumes] at h
    obtain rfl := Except.ok.inj h
    refine ⟨rfl, ?_⟩
    rw [inspect_insert_eq_ok_iff, if_pos rfl, KeyMap.find?_insert_self]

/-- What is found after a volume is removed was there before. -/
theorem inspect_of_remove {s id : String} {v : ExternalVolume}
    (h : (i.remove service volumeId).2.inspect s id = .ok v) : i.inspect s id = .ok v := by
  unfold Inventory.remove at h
  cases hvolumes : i.volumesOf service with
  | error e =>
    rw [hvolumes] at h
    exact h
  | ok volumes =>
    rw [hvolumes] at h
    dsimp only at h
    split at h
    · rw [inspect_insert_eq_ok_iff] at h
      split at h
      · rename_i hs
        subst hs
        rw [KeyMap.find?_erase] at h
        split at h
        · cases h
        · exact inspect_eq_ok_iff.2 ⟨volumes, volumesOf_eq_ok_iff.1 hvolumes, h⟩
      · exact h
    · exact h

/-- An inventory that had a volume and has lost it, and is otherwise the same. -/
structure Lost (i i' : Inventory) (service volumeId : String) : Prop where
  had : ∃ v, i.inspect service volumeId = .ok v
  gone : i'.inspect service volumeId = .error (.volumeNotFound service volumeId)
  others : ∀ s id, (s, id) ≠ (service, volumeId) → i'.inspect s id = i.inspect s id
  nextNumber : i'.nextNumber = i.nextNumber

/-- A volume that is found is destroyed, and nothing else changes. -/
theorem remove_of_inspect {v : ExternalVolume} (h : i.inspect service volumeId = .ok v) :
    ∃ i', i.remove service volumeId = (.ok (), i') ∧ i.Lost i' service volumeId := by
  obtain ⟨volumes, hvolumes, hv⟩ := inspect_eq_ok_iff.1 h
  have hremove : i.remove service volumeId =
      (.ok (), { i with volumes := i.volumes.insert service (volumes.erase volumeId) }) := by
    rw [remove, volumesOf_eq_ok_iff.2 hvolumes]
    exact if_pos (KeyMap.contains_iff.2 ⟨v, hv⟩)
  refine ⟨_, hremove, ⟨v, h⟩, ?_, fun s id hne => ?_, rfl⟩
  · rw [inspect_eq]
    dsimp only
    rw [KeyMap.find?_insert_self]
    dsimp only
    rw [KeyMap.find?_erase, if_pos rfl]
  · rw [inspect_eq, inspect_eq]
    dsimp only
    by_cases hs : s = service
    · subst hs
      have hid : id ≠ volumeId := fun hid => hne (by rw [hid])
      rw [KeyMap.find?_insert_self, hvolumes]
      dsimp only
      rw [KeyMap.find?_erase_of_ne _ hid]
    · rw [KeyMap.find?_insert_of_ne _ _ hs]

theorem Has.of_create {request : CreateRequest} {v : Volume}
    (h : (i.create service request).2.Has v) :
    i.Has v ∨ (i.create service request).1 = .ok v.external ∧
      v.overlayId = .of service v.external.id := by
  obtain ⟨s, hs, hid⟩ := h
  rcases inspect_of_create hs with hs | ⟨rfl, -, hmade⟩
  · exact .inl ⟨s, hs, hid⟩
  · exact .inr ⟨hmade, hid⟩

theorem Has.of_remove {v : Volume} (h : (i.remove service volumeId).2.Has v) : i.Has v := by
  obtain ⟨s, hs, hid⟩ := h
  exact ⟨s, inspect_of_remove hs, hid⟩

namespace Storable

theorem create (hi : i.Storable) (service : String) {request : CreateRequest}
    (hrequest : ∀ leaf ∈ request.fields.keys, isLeaf leaf = true) :
    (i.create service request).2.Storable := by
  intro s id v hv
  rcases inspect_of_create hv with hv | ⟨-, -, hmade⟩
  · exact hi s id v hv
  · rw [(inspect_create hmade).1]
    exact hrequest

theorem remove (hi : i.Storable) (service volumeId : String) :
    (i.remove service volumeId).2.Storable := by
  intro s id v hv
  exact hi s id v (inspect_of_remove hv)

end Storable

/-- The volumes that services start with have no fields. -/
theorem storable_ofServices {services : List String} (h : ofServices services = .ok i) :
    i.Storable := by
  intro s id v hv
  obtain ⟨volumes, hvolumes, hfind⟩ := inspect_eq_ok_iff.1 hv
  obtain ⟨-, -, rfl⟩ := of_find?_ofServices h hvolumes
  obtain ⟨n, -, rfl⟩ := exists_of_find?_initialVolumes hfind
  exact fun leaf hleaf => absurd hleaf List.not_mem_nil

namespace Orderly

theorem has_of_inspect (hi : i.Orderly) {v : ExternalVolume}
    (h : i.inspect service volumeId = .ok v) : i.Has (.ofExternal service v) := by
  obtain ⟨rfl, -⟩ := hi.isPlain_of_inspect h
  exact ⟨service, h, rfl⟩

theorem has_of_mem_volumes (hi : i.Orderly) {vs : List Volume}
    (h : VolumeProvider.volumes i = .ok vs) {v : Volume} (hv : v ∈ vs) : i.Has v := by
  obtain ⟨service, external, hinspect, rfl⟩ := hi.exists_of_mem_volumes h hv
  exact hi.has_of_inspect hinspect

theorem isPlain_of_has (hi : i.Orderly) {v : Volume} (h : i.Has v) : v.overlayId.IsPlain := by
  obtain ⟨service, hinspect, hid⟩ := h
  obtain ⟨-, hplain⟩ := hi.isPlain_of_inspect hinspect
  rw [hid]
  exact hplain.id

/-- An overlay id belongs to one external volume. -/
theorem external_eq_of_has (hi : i.Orderly) {v w : Volume} (hv : i.Has v) (hw : i.Has w)
    (h : v.overlayId = w.overlayId) : v.external = w.external := by
  obtain ⟨s, hs, hvid⟩ := hv
  obtain ⟨t, ht, hwid⟩ := hw
  have hsplit : ∀ {r id u}, i.inspect r id = .ok u → (OverlayId.of r id).split = some (r, id) := by
    intro r id u hu
    obtain ⟨volumes, hvolumes, -⟩ := inspect_eq_ok_iff.1 hu
    exact OverlayId.split_of (hi r volumes hvolumes).1.separator_notMem
  have hparts : some (s, v.external.id) = some (t, w.external.id) := by
    rw [← hsplit hs, ← hsplit ht, ← hvid, ← hwid, h]
  obtain ⟨rfl, hid⟩ := Prod.mk.inj (Option.some.inj hparts)
  rw [hid, ht] at hs
  exact (Except.ok.inj hs).symm

end Orderly

end Inventory

end VolumeOverlay
