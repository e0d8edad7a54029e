import VolumeOverlay.Document.Basic
import VolumeOverlay.OverlayId

/-!
# Configuration

A configuration says which store to open, which services to serve and how much to log. Every part
of it has a default, so the empty configuration is a complete one.

## Main definitions

* `StoreConfig`, `ServiceConfig`, `LoggingConfig`, `Config`: the settings
* `Config.ofDocument? surplus`, `Config.toDocument`: reading and writing
* `Config.validate`: refuses settings that no store or provider could work with
* `Config.Error`: why a configuration is refused
-/

namespace VolumeOverlay

/-- Which store to open: the kind of backend, where it is, the bucket and root of its keys, how long
to wait for a file in use, and whether provider fields are mirrored. -/
structure StoreConfig where
  backend : String := "redb"
  endpoints : List String := ["/var/lib/polly/polly.redb"]
  bucket : String := "polly"
  root : String := "polly"
  connectionTimeoutMs : UInt64 := 10000
  persistFields : Bool := false
  deriving DecidableEq, Inhabited

/-- The settings of a store in memory. -/
def StoreConfig.memory : StoreConfig :=
  { backend := "memory", endpoints := [] }

/-- A service and the driver that provides its volumes. -/
structure ServiceConfig where
  name : String
  driver : String := "mock"
  deriving DecidableEq, Inhabited

/-- How much to log. -/
structure LoggingConfig where
  level : String := "info"
  deriving DecidableEq, Inhabited

/-- All settings. -/
structure Config where
  store : StoreConfig := {}
  services : List ServiceConfig := []
  logging : LoggingConfig := {}
  deriving DecidableEq, Inhabited

/-! ### Documents -/

namespace StoreConfig

/-- The member names of store settings. -/
def names : List String :=
  ["backend", "endpoints", "bucket", "root", "connection_timeout_ms", "persist_fields"]

/-- The store settings that a document is. -/
def ofDocument? (surplus : Document.Surplus) (d : Document) : Option StoreConfig := do
  let ms ← d.members? names surplus
  let default : StoreConfig := {}
  return {
    backend := ← ms.optional "backend" Document.text? default.backend
    endpoints := ← ms.optional "endpoints" Document.texts? default.endpoints
    bucket := ← ms.optional "bucket" Document.text? default.bucket
    root := ← ms.optional "root" Document.text? default.root
    connectionTimeoutMs :=
      ← ms.optional "connection_timeout_ms" Document.nat64? default.connectionTimeoutMs
    persistFields := ← ms.optional "persist_fields" Document.bool? default.persistFields }

/-- Store settings as a document. -/
def toDocument (c : StoreConfig) : Document :=
  .table [("backend", .text c.backend), ("endpoints", .ofTexts c.endpoints),
    ("bucket", .text c.bucket), ("root", .text c.root),
    ("connection_timeout_ms", .integer c.connectionTimeoutMs.toNat),
    ("persist_fields", .bool c.persistFields)]

end StoreConfig

namespace ServiceConfig

/-- The member names of a service. -/
def names : List String := ["name", "driver"]

/-- The service that a document is. -/
def ofDocument? (surplus : Document.Surplus) (d : Document) : Option ServiceConfig := do
  let ms ← d.members? names surplus
  return {
    name := ← ms.required "name" Document.text?
    driver := ← ms.optional "driver" Document.text? "mock" }

/-- A service as a document. -/
def toDocument (c : ServiceConfig) : Document :=
  .table [("name", .text c.name), ("driver", .text c.driver)]

end ServiceConfig

namespace LoggingConfig

/-- The logging settings that a document is. -/
def ofDocument? (surplus : Document.Surplus) (d : Document) : Option LoggingConfig := do
  let ms ← d.members? ["level"] surplus
  return { level := ← ms.optional "level" Document.text? "info" }

/-- Logging settings as a document. -/
def toDocument (c : LoggingConfig) : Document :=
  .table [("level", .text c.level)]

end LoggingConfig

namespace Config

/-- The member names of a configuration. -/
def names : List String := ["store", "services", "logging"]

/-- The configuration that a document is. -/
def ofDocument? (surplus : Document.Surplus) (d : Document) : Option Config := do
  let ms ← d.members? names surplus
  return {
    store := ← ms.optional "store" (StoreConfig.ofDocument? surplus) {}
    services := ← ms.optional "services" (Document.listOf? (ServiceConfig.ofDocument? surplus)) []
    logging := ← ms.optional "logging" (LoggingConfig.ofDocument? surplus) {} }

/-- A configuration as a document. -/
def toDocument (c : Config) : Document :=
  .table [("store", c.store.toDocument), ("services", .list (c.services.map (·.toDocument))),
    ("logging", c.logging.toDocument)]

/-! ### Validation -/

/-- Why a configuration is refused. -/
inductive Error where
  | unreadable (path detail : String)
  | malformed (detail : String)
  | illegalServiceName (name : String)
  | duplicateService (name : String)
  | invalid (detail : String)
  deriving DecidableEq

/-- The text of an error. -/
def Error.message : Error → String
  | .unreadable path detail => s!"failed to read config file {path}: {detail}"
  | .malformed detail => s!"failed to parse config: {detail}"
  | .illegalServiceName name =>
    s!"illegal character in service name '{name}': '-' separates overlay ids"
  | .duplicateService name => s!"duplicate service name '{name}'"
  | .invalid detail => s!"invalid configuration: {detail}"

/-- What led to an error. -/
def Error.causes : Error → List String
  | .unreadable _ detail | .malformed detail => [detail]
  | _ => []

/-- Whether a service name can be part of an overlay id. -/
def isServiceName (name : String) : Bool :=
  name ≠ "" && !name.toList.contains OverlayId.separator

/-- Checks services in order; `seen` holds the names before them. -/
def validateServices (seen : List String) : List ServiceConfig → Except Error Unit
  | [] => .ok ()
  | service :: rest =>
    if service.name = "" then .error (.invalid "service name must not be empty")
    else if service.name.toList.contains OverlayId.separator then
      .error (.illegalServiceName service.name)
    else if seen.contains service.name then .error (.duplicateService service.name)
    else validateServices (service.name :: seen) rest

/-- Refuses service names that are empty, hold a separator or repeat, and then a store that would not
wait at all. -/
def validate (c : Config) : Except Error Unit := do
  validateServices [] c.services
  if c.store.connectionTimeoutMs = 0 then
    throw (.invalid "store.connection_timeout_ms must be greater than zero")

end Config

end VolumeOverlay
