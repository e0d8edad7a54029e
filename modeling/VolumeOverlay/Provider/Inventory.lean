import VolumeOverlay.Config
import VolumeOverlay.Provider.Basic

/-!
# An inventory in memory

The `mock` driver keeps its volumes in memory. Every service starts with three volumes, numbered from
zero; a volume created later takes the next number, which all services share.

## Main definitions

* `Inventory`: the volumes of each service by their ids, and the next number
* `Inventory.ofServices`, `Inventory.ofConfig`: the inventory that services start with
* `Inventory.volumeId n`: the id of the volume with a number
-/

namespace VolumeOverlay

/-- Volumes by service and id, and the number of the next one. -/
structure Inventory where
  volumes : KeyMap (KeyMap ExternalVolume)
  nextNumber : UInt64
  deriving DecidableEq, Inhabited

namespace Inventory

/-- The name of the driver. -/
def driver : String := "mock"

/-- The number of volumes that a service starts with. -/
def initialCount : Nat := 3

/-- The id of a volume: its number with at least three digits. -/
def volumeId (n : Nat) : String :=
  "vol-" ++ .ofList (Text.Decimal.zeroPadded 3 n)

/-- A volume that a service starts with. -/
def initialVolume (n : Nat) : ExternalVolume where
  id := volumeId n
  name := s!"Volume {n}"
  availabilityZone := "zone-a"
  size := 10
  iops := 100
  volumeType := "gold"
  status := "available"

/-- The volumes that a service starts with. -/
def initialVolumes : KeyMap ExternalVolume :=
  .ofList ((List.range initialCount).map fun n => (volumeId n, initialVolume n))

/-- Services with the volumes that they start with. A name that cannot be part of an overlay id is
refused. -/
def ofServices (services : List String) : Except ProviderError Inventory :=
  match services.find? fun s => !Config.isServiceName s with
  | some name => .error (.invalidServiceName name)
  | none => .ok {
      volumes := .ofList (services.map fun s => (s, initialVolumes))
      nextNumber := .ofNat initialCount }

/-- The inventory of configured services, all of which have to use this driver. -/
def ofConfig (services : List ServiceConfig) : Except ProviderError Inventory :=
  match services.find? fun s => s.driver ≠ driver with
  | some other => .error (.unsupportedDriver other.name other.driver)
  | none => ofServices (services.map (·.name))

/-- The volumes of a service by id. -/
def volumesOf (i : Inventory) (service : String) :
    Except ProviderError (KeyMap ExternalVolume) :=
  match i.volumes.find? service with
  | some volumes => .ok volumes
  | none => .error (.serviceNotFound service)

/-- The volume of a service with an id. -/
def inspect (i : Inventory) (service volumeId : String) : Except ProviderError ExternalVolume := do
  match (← i.volumesOf service).find? volumeId with
  | some v => return v
  | none => throw (.volumeNotFound service volumeId)

/-- Creates a volume with the next number. -/
def create (i : Inventory) (service : String) (request : CreateRequest) :
    Except ProviderError ExternalVolume × Inventory :=
  match i.volumesOf service with
  | .error e => (.error e, i)
  | .ok volumes =>
    let v : ExternalVolume :=
      { id := volumeId i.nextNumber.toNat
        name := request.name
        availabilityZone := request.availabilityZone
        size := request.size
        iops := request.iops
        volumeType := request.volumeType
        status := "available"
        fields := request.fields }
    (.ok v, { volumes := i.volumes.insert service (volumes.insert v.id v)
              nextNumber := i.nextNumber + 1 })

/-- Destroys a volume. Its number is not used again. -/
def remove (i : Inventory) (service volumeId : String) : Except ProviderError Unit × Inventory :=
  match i.volumesOf service with
  | .error e => (.error e, i)
  | .ok volumes =>
    if volumes.contains volumeId then
      (.ok (), { i with volumes := i.volumes.insert service (volumes.erase volumeId) })
    else (.error (.volumeNotFound service volumeId), i)

instance : VolumeProvider Inventory where
  name _ := driver
  services i := i.volumes.keys
  volumesOf i service := (i.volumesOf service).map KeyMap.values
  inspect
  create
  remove

end Inventory

end VolumeOverlay
