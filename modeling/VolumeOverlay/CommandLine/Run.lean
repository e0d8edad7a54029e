import VolumeOverlay.CommandLine.Invocation
import VolumeOverlay.CommandLine.Report
import VolumeOverlay.Config.File
import VolumeOverlay.Provider.Inventory
import VolumeOverlay.Reconciler.Basic
import VolumeOverlay.Store.Open

/-!
# Running the command line

An invocation loads the configuration, opens the store that it names and performs one action. What an
action did to the store before it failed stays done. A provider in memory starts afresh each time.

## Main definitions

* `Outcome`: exit code and texts of a run
* `Invocation.settings`: the configuration with the options of the program
* `StoreAction.perform`, `VolumeAction.perform`: an action and the text that it prints
* `run disk environment words`: the outcome of a command line, and the disk after it
-/

namespace VolumeOverlay.CommandLine

/-- What a run leaves for its caller. -/
structure Outcome where
  code : Nat
  output : String := ""
  diagnostics : String := ""
  deriving DecidableEq

/-! ### Settings -/

/-- Where the configuration is unless the command line or the environment says so. -/
def defaultConfigPath : String := "/etc/polly/polly.toml"

/-- The variable of the environment that names the configuration. -/
def configVariable : String := "POLLY_CONFIG"

namespace Invocation

/-- The path of the configuration. -/
def configPath (i : Invocation) (environment : List (String × String)) : String :=
  (i.config <|> environment.lookup configVariable).getD defaultConfigPath

/-- A configuration with the options of the program. Without services there is one of the driver in
memory. -/
def override (i : Invocation) (c : Config) : Config where
  store := { c.store with
    backend := i.backend.getD c.store.backend
    endpoints := (i.endpoint.map fun path => [path]).getD c.store.endpoints
    root := i.root.getD c.store.root }
  services := if c.services = [] then [⟨Inventory.driver, Inventory.driver⟩] else c.services
  logging := { level := i.logLevel.getD c.logging.level }

/-- The configuration of an invocation. -/
def settings (i : Invocation) (environment : List (String × String)) (disk : Disk) :
    Except Failure Config :=
  let path := i.configPath environment
  match Config.load disk path with
  | .ok c => .ok (i.override c)
  | .error e => .error ⟨s!"loading {path}", e.message :: e.causes⟩

/-- The path of the database that an invocation opens. -/
def databasePath? (i : Invocation) (environment : List (String × String)) (disk : Disk) :
    Option String :=
  match i.settings environment disk with
  | .ok c => if BackendKind.parse? c.store.backend = some .redb then c.store.endpoints.head? else none
  | .error _ => none

end Invocation

/-! ### Actions -/

/-- A failure of the store. -/
def Failure.ofStore (e : StoreError) : Failure := ⟨e.message, e.causes⟩

/-- A failure of a volume operation. -/
def Failure.ofVolume (e : VolumeError) : Failure := ⟨e.message, e.causes⟩

/-- Performs an action on the overlay store. -/
def StoreAction.perform {σ : Type} [FaultSource σ] (asJson : Bool) (store : Store) :
    StoreAction → ExceptT Failure (StateM (Medium σ)) String
  | .erase none => do
    store.eraseAll.adapt Failure.ofStore
    return Report.lines ["Store erased"]
  | .erase (some name) => do
    match Category.parse? name with
    | none => throw ⟨Category.unknownMessage name, []⟩
    | some category =>
      (store.eraseCategory category).adapt Failure.ofStore
      return Report.lines [s!"Category '{category.segment}' erased"]
  | .ids => return Report.ids asJson (← store.volumeIds.adapt Failure.ofStore)
  | .version => return Report.version asJson (← store.version.adapt Failure.ofStore)

/-- The pairs that texts `key=value` are. The first text that is none decides the failure. -/
def pairsOf (title : String) (texts : List String) : Except Failure (List (String × String)) :=
  texts.mapM fun s =>
    match parseLabel s with
    | some pair => .ok pair
    | none => .error ⟨s!"invalid {title} '{s}', want key=value", []⟩

/-- The filter that terms are. -/
def filterOf (terms : List String) : Except Failure Filter :=
  return .ofPairs (← pairsOf "filter term" terms)

/-- The labels that texts are; of two with one key the later counts. -/
def labelsOf (texts : List String) : Except Failure LabelMap :=
  return .ofList (← pairsOf "label" texts)

/-- Performs an action on volumes. What was written as filter or labels is read first. -/
def VolumeAction.perform {π σ : Type} [VolumeProvider π] [FaultSource σ] (asJson : Bool)
    (store : Store) : VolumeAction → ExceptT Failure (StateM (World π σ)) String
  | .list all terms => do
    let filter ← filterOf terms
    let action := if all then Reconciler.listAll store filter else Reconciler.list store filter
    return Report.volumes asJson (← action.adapt Failure.ofVolume)
  | .inspect id => describe (Reconciler.inspect store id)
  | .offer id schedulers => describe (Reconciler.offer store id schedulers)
  | .revoke id schedulers => describe (Reconciler.revoke store id schedulers)
  | .label id labels => do
    let labels ← labelsOf labels
    describe (Reconciler.label store id labels)
  | .unlabel id keys => describe (Reconciler.removeLabels store id keys)
  | .create request labels => do
    let labels ← labelsOf labels
    let description ← describe (Reconciler.create store { request with labels })
    if asJson then return description
    else return Report.lines ["Volume created successfully!", ""] ++ description
  | .remove id => do
    (Reconciler.remove store id).adapt Failure.ofVolume
    return Report.lines [s!"Volume '{id}' removed successfully"]
where
  /-- An action that answers with a volume. -/
  describe (action : ReconcilerM π σ Volume) : ExceptT Failure (StateM (World π σ)) String :=
    return Report.volume asJson (← action.adapt Failure.ofVolume)

/-- Performs an action on the entries of a store without faults. -/
def Action.perform (asJson : Bool) (services : List ServiceConfig) (store : Store)
    (entries : Entries) : Action → Except Failure String × Entries
  | .store action =>
    let action : ExceptT Failure (StateM (Medium Reliable)) String := action.perform asJson store
    let (result, medium) := action.run.run ⟨entries, {}⟩
    (result, medium.entries)
  | .volume action =>
    match Inventory.ofConfig services with
    | .error e => (.error ⟨e.message, []⟩, entries)
    | .ok inventory =>
      let action : ExceptT Failure (StateM (World Inventory Reliable)) String :=
        action.perform asJson store
      let (result, world) := action.run.run ⟨inventory, ⟨entries, {}⟩⟩
      (result, world.medium.entries)

/-! ### Runs -/

/-- Performs an invocation: the text that it prints, and the disk after it. -/
def Invocation.perform (i : Invocation) (environment : List (String × String)) (disk : Disk) :
    Except Failure String × Disk :=
  match i.settings environment disk with
  | .error f => (.error f, disk)
  | .ok c =>
    match OpenStore.ofConfig c.store disk with
    | (.error e, disk) => (.error ⟨"opening overlay store", e.message :: e.causes⟩, disk)
    | (.ok o, disk) =>
      -- The entries are kept whether the action succeeds or not.
      let (result, entries) := i.action.perform i.json c.services o.store (o.entries disk)
      (result, (o.keep disk entries).2)

/-- The name of the program and its version. -/
def versionText : String := "polly-admin 0.1.0"

/-- How the program is used. -/
def helpText : String :=
  Report.lines <| ["Usage: polly-admin [OPTIONS] <COMMAND>", "", "Commands:"] ++
    (groups.flatMap fun g => g.2.map fun name => s!"  {g.1} {name}") ++ ["", "Options:"] ++
    programRules.map fun r =>
      (match r.short with
        | some c => .ofList [' ', ' ', '-', c, ',', ' ']
        | none => "      ") ++ "--" ++ r.long ++ if r.takesValue then " <VALUE>" else ""

/-- The outcome of words that are no invocation. -/
def Stop.outcome : Stop → Outcome
  | .help => { code := 0, output := helpText }
  | .version => { code := 0, output := Report.lines [versionText] }
  | .usage fault => { code := 2, diagnostics := Report.lines ["error: " ++ fault.message] }

/-- The outcome of a command line, and the disk after it. -/
def run (disk : Disk) (environment : List (String × String)) (words : List String) :
    Outcome × Disk :=
  match Invocation.ofArguments words with
  | .error stop => (stop.outcome, disk)
  | .ok i =>
    match i.perform environment disk with
    | (.ok output, disk) => ({ code := 0, output }, disk)
    | (.error f, disk) => ({ code := 1, diagnostics := f.report }, disk)

end VolumeOverlay.CommandLine
