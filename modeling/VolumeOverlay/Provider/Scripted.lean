import VolumeOverlay.Provider.Basic

/-!
# A scripted provider

A provider that lists given volumes in a given order and refuses calls on demand. It shows how the
overlay behaves when volumes or whole services vanish or fail.

## Main definitions

* `ScriptedProvider`: services with their volumes in order, and the calls that fail
-/

namespace VolumeOverlay

/-- The calls of a provider that can be made to fail. -/
inductive ProviderCall where
  | volumesOf
  | inspect
  | create
  | remove
  deriving DecidableEq

/-- Services with their volumes in order, and the refusals of the calls that fail. A refusal is told
the service and the volume. -/
structure ScriptedProvider where
  volumes : List (String × List ExternalVolume)
  refusals : List (ProviderCall × (String → String → ProviderError)) := []

namespace ScriptedProvider

/-- Makes a call fail, or succeed again. -/
def refuse (p : ScriptedProvider) (call : ProviderCall)
    (refusal : Option (String → String → ProviderError)) : ScriptedProvider :=
  let others := p.refusals.filter fun r => r.1 ≠ call
  { p with refusals := (refusal.map (call, ·)).toList ++ others }

/-- Refuses a call that is to fail. -/
def check (p : ScriptedProvider) (call : ProviderCall) (service volumeId : String) :
    Except ProviderError Unit :=
  match p.refusals.lookup call with
  | some refusal => .error (refusal service volumeId)
  | none => .ok ()

/-- The volumes of a service. -/
def serviceVolumes (p : ScriptedProvider) (service : String) :
    Except ProviderError (List ExternalVolume) :=
  match p.volumes.lookup service with
  | some volumes => .ok volumes
  | none => .error (.serviceNotFound service)

/-- Replaces the volumes of a service. -/
def setVolumes (p : ScriptedProvider) (service : String) (volumes : List ExternalVolume) :
    ScriptedProvider :=
  { p with volumes := replaceFirst p.volumes }
where
  /-- The first service of that name with the new volumes. -/
  replaceFirst : List (String × List ExternalVolume) → List (String × List ExternalVolume)
    | [] => []
    | s :: rest => if s.1 = service then (service, volumes) :: rest else s :: replaceFirst rest

/-- The volumes of a service, unless the call fails. -/
def volumesOf (p : ScriptedProvider) (service : String) :
    Except ProviderError (List ExternalVolume) := do
  p.check .volumesOf service ""
  p.serviceVolumes service

/-- The first volume of a service with an id. -/
def inspect (p : ScriptedProvider) (service volumeId : String) :
    Except ProviderError ExternalVolume := do
  p.check .inspect service volumeId
  match (← p.serviceVolumes service).find? fun v => v.id = volumeId with
  | some v => return v
  | none => throw (.volumeNotFound service volumeId)

/-- Appends a volume whose id is the requested name. -/
def create (p : ScriptedProvider) (service : String) (request : CreateRequest) :
    Except ProviderError ExternalVolume × ScriptedProvider :=
  match (do p.check .create service request.name; p.serviceVolumes service) with
  | .error e => (.error e, p)
  | .ok volumes =>
    let v : ExternalVolume :=
      { id := request.name
        name := request.name
        availabilityZone := request.availabilityZone
        size := request.size
        iops := request.iops
        volumeType := request.volumeType
        status := "created"
        fields := request.fields }
    (.ok v, p.setVolumes service (volumes ++ [v]))

/-- Removes the first volume of a service with an id. -/
def remove (p : ScriptedProvider) (service volumeId : String) :
    Except ProviderError Unit × ScriptedProvider :=
  match (do p.check .remove service volumeId; p.serviceVolumes service) with
  | .error e => (.error e, p)
  | .ok volumes =>
    if volumes.any fun v => v.id = volumeId then
      (.ok (), p.setVolumes service (volumes.eraseP fun v => v.id = volumeId))
    else (.error (.volumeNotFound service volumeId), p)

instance : VolumeProvider ScriptedProvider where
  name _ := "stub"
  services p := p.volumes.map (·.1)
  volumesOf
  inspect
  create
  remove

end ScriptedProvider

end VolumeOverlay
