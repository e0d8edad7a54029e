import VolumeOverlay.Provider.Inventory
import VolumeOverlay.Provider.Scripted
import VolumeOverlay.Reconciler.Command
import VolumeOverlay.Store.Command
import VolumeOverlay.Store.Open

/-!
# Sessions

A session has a provider, a store that can be closed and opened again, and a rigged backend whose
calls fail on demand. What a store leaves behind when it is closed depends on its backend: entries in
memory are lost, those of a file and of the rigged backend stay.

## Main definitions

* `Provider`: an inventory or a scripted provider
* `SessionStore`: the store that is open
* `Session`, `Session.openStore`: the state of a session; opening the configured store
* `Step`, `Session.step`: a step of a session, its result and the session after it
-/

namespace VolumeOverlay

/-! ### Providers of a session -/

/-- The provider of a session. -/
inductive Provider where
  | inventory (i : Inventory)
  | scripted (p : ScriptedProvider)

/-- Keeps the provider in its form after a call. -/
def Provider.keep {π α : Type} (form : π → Provider) (r : Except ProviderError α × π) :
    Except ProviderError α × Provider :=
  (r.1, form r.2)

instance : VolumeProvider Provider where
  name
    | .inventory i => VolumeProvider.name i
    | .scripted p => VolumeProvider.name p
  services
    | .inventory i => VolumeProvider.services i
    | .scripted p => VolumeProvider.services p
  volumesOf
    | .inventory i => VolumeProvider.volumesOf i
    | .scripted p => VolumeProvider.volumesOf p
  volumes
    | .inventory i => VolumeProvider.volumes i
    | .scripted p => VolumeProvider.volumes p
  ofExternal_of_mem_volumes {p} _ _ h hv := by
    cases p with
    | inventory i => exact VolumeProvider.ofExternal_of_mem_volumes (p := i) h hv
    | scripted p => exact VolumeProvider.ofExternal_of_mem_volumes (p := p) h hv
  inspect
    | .inventory i => VolumeProvider.inspect i
    | .scripted p => VolumeProvider.inspect p
  create
    | .inventory i => fun s r => Provider.keep .inventory (VolumeProvider.create i s r)
    | .scripted p => fun s r => Provider.keep .scripted (VolumeProvider.create p s r)
  remove
    | .inventory i => fun s id => Provider.keep .inventory (VolumeProvider.remove i s id)
    | .scripted p => fun s id => Provider.keep .scripted (VolumeProvider.remove p s id)

/-! ### The open store -/

/-- The store of a session: the configured one, or one on the rigged backend. -/
inductive SessionStore where
  | configured (o : OpenStore)
  | rigged (store : Store)

namespace SessionStore

/-- The store itself. -/
def store : SessionStore → Store
  | .configured o => o.store
  | .rigged store => store

/-- The name of the rigged backend. -/
def riggedName : String := "faulty"

/-- The name of the backend. -/
def backendName : SessionStore → String
  | .configured o => o.kind.name
  | .rigged _ => riggedName

end SessionStore

/-- The state of a session. -/
structure Session where
  provider : Provider
  config : StoreConfig
  disk : Disk
  rigged : Medium ArmedFaults
  current : Option SessionStore := none

namespace Session

/-- Opens the configured store. -/
def openStore (s : Session) : Except StoreError SessionStore × Session :=
  if s.config.backend = SessionStore.riggedName then
    let store := Store.ofConfig s.config
    let action : StoreM ArmedFaults Unit := store.setUp
    let (result, rigged) := action.run.run s.rigged
    (result.map fun _ => .rigged store, { s with rigged })
  else
    let (result, disk) := OpenStore.ofConfig s.config s.disk
    (result.map .configured, { s with disk })

/-- Closes the store and opens the configured one. -/
def reopen (s : Session) : Except StoreError Unit × Session :=
  match openStore { s with current := none } with
  | (.ok o, s) => (.ok (), { s with current := some o })
  | (.error e, s) => (.error e, s)

/-- Opens the configured store a second time and closes it again. A file that is open is waited for in
vain. -/
def openAgain (s : Session) : Except StoreError Unit × Session :=
  match s.current with
  | some (.configured ⟨_, _, .file path _⟩) =>
    (.error (.backend .openFile path (.openTimeout path s.config.connectionTimeoutMs.toNat)), s)
  | _ =>
    let (result, s) := openStore s
    (result.map fun _ => (), s)

/-- The medium of an open store. Only the rigged backend has faults. -/
def medium (s : Session) : SessionStore → Medium ArmedFaults
  | .configured o => ⟨o.entries s.disk, []⟩
  | .rigged _ => s.rigged

/-- The session after an action on the medium of the open store. -/
def settle (s : Session) (o : SessionStore) (medium : Medium ArmedFaults) : Session :=
  match o with
  | .configured o =>
    let (o, disk) := o.keep s.disk medium.entries
    { s with current := some (.configured o), disk }
  | .rigged _ => { s with rigged := medium }

/-- Every stored entry, in key order. -/
def entries (s : Session) : List (String × Bytes) :=
  match s.current with
  | some o => (s.medium o).entries.toList
  | none => []

end Session

/-! ### Steps -/

/-- A question to the provider, or a call that goes to it directly. -/
inductive ProviderStep where
  | name
  | services
  | volumes
  | volumesOf (service : String)
  | inspect (service volumeId : String)
  | create (service : String) (request : CreateRequest)
  | remove (service volumeId : String)

/-- A step of a session. -/
inductive Step where
  | arm (fault : ArmedFault)
  | disarm
  | refuse (call : ProviderCall) (refusal : Option (String → String → ProviderError))
  | reopen (change : StoreConfig → StoreConfig)
  | openAgain
  | provider (step : ProviderStep)
  | info
  | store (command : Store.Command)
  | volume (command : Reconciler.Command) (times : Nat)

/-- What a step answers. -/
inductive StepAnswer where
  | done
  | name (s : String)
  | names (ss : List String)
  | external (v : ExternalVolume)
  | externals (vs : List ExternalVolume)
  | volumes (vs : List Volume)
  | info (backend : String) (persistFields : Bool) (rootMarker : String)
  | store (answer : Store.Answer)
  | volume (answer : Reconciler.Answer)

/-- Why a step failed. A volume that could not be loaded is given back as it was. -/
inductive StepError where
  | noStore
  | store (e : StoreError)
  | loading (e : StoreError) (v : Volume)
  | provider (e : ProviderError)
  | volume (e : VolumeError)

namespace Session

/-- A step of the provider. -/
def providerStep (p : Provider) : ProviderStep → Except ProviderError StepAnswer × Provider
  | .name => (.ok (.name (VolumeProvider.name p)), p)
  | .services => (.ok (.names (VolumeProvider.services p)), p)
  | .volumes => ((VolumeProvider.volumes p).map .volumes, p)
  | .volumesOf service => ((VolumeProvider.volumesOf p service).map .externals, p)
  | .inspect service volumeId => ((VolumeProvider.inspect p service volumeId).map .external, p)
  | .create service request =>
    let (result, p) := VolumeProvider.create p service request
    (result.map .external, p)
  | .remove service volumeId =>
    let (result, p) := VolumeProvider.remove p service volumeId
    (result.map fun _ => .done, p)

/-- The error of a store command. -/
def storeError : Store.Command → StoreError → StepError
  | .loadVolume v, e => .loading e v
  | _, e => .store e

/-- A command of the open store. -/
def storeStep (s : Session) (o : SessionStore) (command : Store.Command) :
    Except StepError StepAnswer × Session :=
  let action : StoreM ArmedFaults Store.Answer := command.run o.store
  let (result, medium) := action.run.run (s.medium o)
  ((result.map .store).mapError (storeError command), s.settle o medium)

/-- A command of the reconciler over the open store. -/
def volumeStep (s : Session) (o : SessionStore) (command : Reconciler.Command) :
    Except StepError StepAnswer × Session :=
  let action : ReconcilerM Provider ArmedFaults Reconciler.Answer := command.run o.store
  let (result, world) := action.run.run ⟨s.provider, s.medium o⟩
  ((result.map .volume).mapError .volume, { s with provider := world.provider }.settle o world.medium)

/-- A command of the reconciler, given several times; the last result counts. -/
def volumeSteps (s : Session) (command : Reconciler.Command) :
    Nat → Except StepError StepAnswer × Session
  | 0 => (.ok .done, s)
  | n + 1 =>
    match s.current with
    | none => (.error .noStore, s)
    | some o =>
      let (result, s) := s.volumeStep o command
      if n = 0 then (result, s) else s.volumeSteps command n

/-- A step of a session: its result and the session after it. -/
def step (s : Session) : Step → Except StepError StepAnswer × Session
  | .arm fault => (.ok .done, { s with rigged.faults := s.rigged.faults ++ [fault] })
  | .disarm => (.ok .done, { s with rigged.faults := [] })
  | .refuse call refusal =>
    match s.provider with
    | .scripted p => (.ok .done, { s with provider := .scripted (p.refuse call refusal) })
    | .inventory _ => (.ok .done, s)
  | .reopen change =>
    let (result, s) := reopen { s with config := change s.config }
    ((result.map fun _ => .done).mapError .store, s)
  | .openAgain =>
    let (result, s) := s.openAgain
    ((result.map fun _ => .done).mapError .store, s)
  | .provider step =>
    let (result, provider) := providerStep s.provider step
    (result.mapError .provider, { s with provider })
  | .info =>
    match s.current with
    | none => (.error .noStore, s)
    | some o => (.ok (.info o.backendName o.store.persistFields o.store.layout.rootMarker), s)
  | .store command =>
    match s.current with
    | none => (.error .noStore, s)
    | some o => s.storeStep o command
  | .volume command times => s.volumeSteps command times

end Session

end VolumeOverlay
