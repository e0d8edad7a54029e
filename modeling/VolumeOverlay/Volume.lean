import VolumeOverlay.Document.Basic
import VolumeOverlay.Label
import VolumeOverlay.OverlayId

/-!
# Volumes

An external volume is what a provider reports. A volume is an external volume together with its
overlay: overlay id, owning service, schedulers and labels.

Each record is read from a document and written as one. The names of the members are the same in
both directions; empty fields and schedulers of a volume are left out when written, and every member
but an id, a name to create or an owner may be missing when read. A volume is written flat: the
members of its external volume stand beside those of the overlay. It is therefore read from a table
only, and all of that table has to denote values.

## Main definitions

* `ExternalVolume`, `Volume`, `CreateRequest`, `SnapshotOverlay`: the records
* `ofDocument?`, `toDocument` of each: reading and writing
* `Volume.ofExternal service v`: a volume without schedulers and labels
-/

namespace VolumeOverlay

open Document (Members)

/-- A volume as its provider reports it. `fields` holds what the provider knows beyond the common
attributes. -/
structure ExternalVolume where
  id : String
  name : String := ""
  availabilityZone : String := ""
  size : Int64 := 0
  iops : Int64 := 0
  volumeType : String := ""
  status : String := ""
  fields : LabelMap := ∅
  deriving DecidableEq, Inhabited

/-- An external volume with its overlay. -/
structure Volume where
  external : ExternalVolume
  overlayId : OverlayId
  serviceName : String
  schedulers : List String := []
  labels : LabelMap := ∅
  deriving DecidableEq, Inhabited

/-- What a client asks a provider to create, with the overlay that the new volume starts with. -/
structure CreateRequest where
  serviceName : String
  name : String
  volumeType : String := ""
  size : Int64 := 0
  iops : Int64 := 0
  availabilityZone : String := ""
  schedulers : List String := []
  labels : LabelMap := ∅
  fields : LabelMap := ∅
  deriving DecidableEq, Inhabited

/-- The fields kept for a snapshot. -/
structure SnapshotOverlay where
  snapshotId : OverlayId
  serviceName : String
  fields : LabelMap := ∅
  deriving DecidableEq, Inhabited

/-- The volume of a service without schedulers and labels. -/
def Volume.ofExternal (service : String) (external : ExternalVolume) : Volume where
  external
  overlayId := .of service external.id
  serviceName := service

/-- The snapshot `external` of a service, without fields. -/
def SnapshotOverlay.of (service external : String) : SnapshotOverlay where
  snapshotId := .of service external
  serviceName := service

/-- The overlay id that a document is; any text will do. -/
def OverlayId.ofDocument? (d : Document) : Option OverlayId :=
  d.text?.map OverlayId.mk

/-! ### External volumes -/

namespace ExternalVolume

/-- The member names of an external volume. -/
def names : List String :=
  ["id", "name", "availabilityZone", "size", "iops", "type", "status", "fields"]

/-- An external volume from its members. -/
def ofMembers? (ms : Members) : Option ExternalVolume := do
  return {
    id := ← ms.required "id" Document.text?
    name := ← ms.optional "name" Document.text? ""
    availabilityZone := ← ms.optional "availabilityZone" Document.text? ""
    size := ← ms.optional "size" Document.int64? 0
    iops := ← ms.optional "iops" Document.int64? 0
    volumeType := ← ms.optional "type" Document.text? ""
    status := ← ms.optional "status" Document.text? ""
    fields := ← ms.optional "fields" Document.textMap? ∅ }

/-- The external volume that a document is. -/
def ofDocument? (d : Document) : Option ExternalVolume :=
  (d.members? names .refused).bind ofMembers?

/-- The members of an external volume; empty fields are left out. -/
def toMembers (v : ExternalVolume) : Members :=
  [("id", .text v.id), ("name", .text v.name), ("availabilityZone", .text v.availabilityZone),
    ("size", .ofInt64 v.size), ("iops", .ofInt64 v.iops), ("type", .text v.volumeType),
    ("status", .text v.status)] ++
  if v.fields.isEmpty then [] else [("fields", .ofTextMap v.fields)]

/-- An external volume as a document. -/
def toDocument (v : ExternalVolume) : Document :=
  .table v.toMembers

end ExternalVolume

/-! ### Volumes -/

namespace Volume

/-- The names of the overlay's members. -/
def overlayNames : List String :=
  ["volumeid", "serviceName", "schedulers", "labels"]

/-- A volume from its members. -/
def ofMembers? (ms : Members) : Option Volume := do
  return {
    external := ← ExternalVolume.ofMembers? ms
    overlayId := ← ms.required "volumeid" OverlayId.ofDocument?
    serviceName := ← ms.required "serviceName" Document.text?
    schedulers := ← ms.optional "schedulers" Document.texts? []
    labels := ← ms.optional "labels" Document.textMap? ∅ }

/-- How deep the document of a volume may nest. -/
def maxDepth : Nat := 127

/-- The volume that a document is. -/
def ofDocument? : Document → Option Volume
  | .table ms =>
    if Document.isSound maxDepth (.table ms) then
      ((Document.table ms).members? (ExternalVolume.names ++ overlayNames) .refused).bind ofMembers?
    else none
  | _ => none

/-- A volume as a document. -/
def toDocument (v : Volume) : Document :=
  .table <| v.external.toMembers ++
    [("volumeid", .text v.overlayId.text), ("serviceName", .text v.serviceName)] ++
    (if v.schedulers.isEmpty then [] else [("schedulers", .ofTexts v.schedulers)]) ++
    [("labels", .ofTextMap v.labels)]

end Volume

/-! ### Requests and snapshots -/

namespace CreateRequest

/-- The member names of a request. -/
def names : List String :=
  ["service", "name", "volumeType", "size", "iops", "availabilityZone", "schedulers", "labels",
    "fields"]

/-- The request that a document is. -/
def ofDocument? (d : Document) : Option CreateRequest := do
  let ms ← d.members? names .refused
  return {
    serviceName := ← ms.required "service" Document.text?
    name := ← ms.required "name" Document.text?
    volumeType := ← ms.optional "volumeType" Document.text? ""
    size := ← ms.optional "size" Document.int64? 0
    iops := ← ms.optional "iops" Document.int64? 0
    availabilityZone := ← ms.optional "availabilityZone" Document.text? ""
    schedulers := ← ms.optional "schedulers" Document.texts? []
    labels := ← ms.optional "labels" Document.textMap? ∅
    fields := ← ms.optional "fields" Document.textMap? ∅ }

/-- A request as a document. -/
def toDocument (r : CreateRequest) : Document :=
  .table [("service", .text r.serviceName), ("name", .text r.name),
    ("volumeType", .text r.volumeType), ("size", .ofInt64 r.size), ("iops", .ofInt64 r.iops),
    ("availabilityZone", .text r.availabilityZone), ("schedulers", .ofTexts r.schedulers),
    ("labels", .ofTextMap r.labels), ("fields", .ofTextMap r.fields)]

end CreateRequest

namespace SnapshotOverlay

/-- The member names of a snapshot overlay. -/
def names : List String :=
  ["snapshotid", "serviceName", "fields"]

/-- The snapshot overlay that a document is. -/
def ofDocument? (d : Document) : Option SnapshotOverlay := do
  let ms ← d.members? names .refused
  return {
    snapshotId := ← ms.required "snapshotid" OverlayId.ofDocument?
    serviceName := ← ms.required "serviceName" Document.text?
    fields := ← ms.optional "fields" Document.textMap? ∅ }

/-- A snapshot overlay as a document. -/
def toDocument (s : SnapshotOverlay) : Document :=
  .table [("snapshotid", .text s.snapshotId.text), ("serviceName", .text s.serviceName),
    ("fields", .ofTextMap s.fields)]

end SnapshotOverlay

end VolumeOverlay
