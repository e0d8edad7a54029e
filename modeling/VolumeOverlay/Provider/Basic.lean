import VolumeOverlay.Volume

/-!
# Providers

A provider owns the volumes of some services. Overlays are kept beside them: nothing here changes a
volume, but creation and removal are passed on.

## Main definitions

* `ProviderError`: why a provider refuses
* `VolumeProvider.gather services volumesOf`: the volumes of services, one after the other
* `VolumeProvider π`: the provider whose state is of type `π`
-/

namespace VolumeOverlay

/-- Why a provider refuses a call. -/
inductive ProviderError where
  | serviceNotFound (service : String)
  | volumeNotFound (service volumeId : String)
  | invalidServiceName (name : String)
  | unsupportedDriver (service driver : String)
  deriving DecidableEq

namespace ProviderError

/-- The text of an error. -/
def message : ProviderError → String
  | .serviceNotFound service => s!"service not found: {service}"
  | .volumeNotFound service volumeId => s!"volume not found: {service}/{volumeId}"
  | .invalidServiceName name => s!"illegal character in service name '{name}'"
  | .unsupportedDriver service driver => s!"unsupported driver '{driver}' for service '{service}'"

/-- Whether the error means that a service or volume does not exist. -/
def isNotFound : ProviderError → Bool
  | .serviceNotFound _ | .volumeNotFound _ _ => true
  | _ => false

end ProviderError

/-- Each of the results of a list of calls is the result of one of them. -/
theorem exists_of_mapM_eq_ok {ε α β : Type} {f : α → Except ε β} {as : List α} {bs : List β}
    (h : as.mapM f = .ok bs) {b : β} (hb : b ∈ bs) : ∃ a ∈ as, f a = .ok b := by
  induction as generalizing bs with
  | nil =>
    rw [List.mapM_nil] at h
    cases h
    exact absurd hb List.not_mem_nil
  | cons a as ih =>
    rw [List.mapM_cons] at h
    cases ha : f a with
    | error e =>
      rw [ha] at h
      cases h
    | ok b' =>
      rw [ha] at h
      cases has : as.mapM f with
      | error e =>
        rw [has] at h
        cases h
      | ok bs' =>
        rw [has] at h
        cases h
        rcases List.mem_cons.1 hb with rfl | hb
        · exact ⟨a, List.mem_cons_self, ha⟩
        · obtain ⟨a', ha', hb'⟩ := ih has hb
          exact ⟨a', List.mem_cons_of_mem _ ha', hb'⟩

namespace VolumeProvider

/-- The volumes of some services, one service after the other, each with the name of its service. -/
def gather (services : List String) (volumesOf : String → Except ProviderError (List ExternalVolume)) :
    Except ProviderError (List Volume) := do
  let perService ← services.mapM fun service => do
    return (← volumesOf service).map (Volume.ofExternal service)
  return perService.flatten

/-- The volumes that are gathered are those of the services. -/
theorem exists_of_mem_gather {services : List String}
    {volumesOf : String → Except ProviderError (List ExternalVolume)} {vs : List Volume}
    (h : gather services volumesOf = .ok vs) {v : Volume} (hv : v ∈ vs) :
    ∃ service externals external, volumesOf service = .ok externals ∧ external ∈ externals ∧
      v = .ofExternal service external := by
  unfold gather at h
  obtain ⟨perService, hmap, rfl⟩ : ∃ perService,
      (services.mapM fun service => do
        return (← volumesOf service).map (Volume.ofExternal service)) = Except.ok perService ∧
        perService.flatten = vs := by
    cases hmap : services.mapM fun service => do
        return (← volumesOf service).map (Volume.ofExternal service) with
    | error e =>
      rw [hmap] at h
      cases h
    | ok perService =>
      rw [hmap] at h
      exact ⟨perService, rfl, Except.ok.inj h⟩
  -- The volume is among those of one service, and that service was asked.
  obtain ⟨ofService, hmem, hv⟩ := List.mem_flatten.1 hv
  obtain ⟨service, -, hservice⟩ := exists_of_mapM_eq_ok hmap hmem
  cases hvolumes : volumesOf service with
  | error e =>
    rw [hvolumes] at hservice
    cases hservice
  | ok externals =>
    rw [hvolumes] at hservice
    cases hservice
    obtain ⟨external, hexternal, rfl⟩ := List.mem_map.1 hv
    exact ⟨service, externals, external, hvolumes, hexternal, rfl⟩

theorem ofExternal_of_mem_gather {services : List String}
    {volumesOf : String → Except ProviderError (List ExternalVolume)} {vs : List Volume} {v : Volume}
    (h : gather services volumesOf = .ok vs) (hv : v ∈ vs) :
    ∃ service external, v = .ofExternal service external := by
  obtain ⟨service, _, external, -, -, heq⟩ := exists_of_mem_gather h hv
  exact ⟨service, external, heq⟩

end VolumeProvider

/-- A provider in a state of type `π`. Only creation and removal change the state. A provider may have
a listing of its own. Of that only one thing is assumed: a volume comes with the name of a service and
with nothing that is not the provider's own. -/
class VolumeProvider (π : Type) where
  /-- The name of the provider. -/
  name : π → String
  /-- The names of its services. -/
  services : π → List String
  /-- The volumes of a service. -/
  volumesOf : π → String → Except ProviderError (List ExternalVolume)
  /-- The volumes of all services. -/
  volumes : π → Except ProviderError (List Volume) := fun p =>
    VolumeProvider.gather (services p) (volumesOf p)
  /-- The volumes of the listing are external volumes with the names of their services. -/
  ofExternal_of_mem_volumes : ∀ {p : π} {vs : List Volume} {v : Volume}, volumes p = .ok vs → v ∈ vs →
      ∃ service external, v = .ofExternal service external := by
    exact VolumeProvider.ofExternal_of_mem_gather
  /-- The volume of a service with an id. -/
  inspect : π → String → String → Except ProviderError ExternalVolume
  /-- Creates a volume in a service. -/
  create : π → String → CreateRequest → Except ProviderError ExternalVolume × π
  /-- Destroys the volume of a service with an id. -/
  remove : π → String → String → Except ProviderError Unit × π

end VolumeOverlay
