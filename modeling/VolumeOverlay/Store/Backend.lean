import VolumeOverlay.Store.Error
import VolumeOverlay.Text.Case
import VolumeOverlay.Text.Utf8

/-!
# Key-value backends

A backend holds bytes under keys and lists the keys under a prefix. Whether it lives in memory or in
a file, it behaves as one map in key order. Its calls may fail: a source of faults is asked before
each of them, and a call that fails has no effect.

## Main definitions

* `BackendKind`: the kinds of backend, and the names that stand for them
* `FaultSource σ`: how faults come about; `Reliable` has none, `ArmedFaults` has those armed in it
* `Medium σ`: the entries of a backend and the source of its faults
* `BackendM σ`: an action on a medium that may fail
* `Request`, `Request.perform`: the calls of a backend as data, and their effect
-/

namespace VolumeOverlay

/-! ### Kinds -/

/-- Where a backend keeps its entries: in a database file, or in memory. -/
inductive BackendKind where
  | redb
  | memory
  deriving DecidableEq, Inhabited

namespace BackendKind

/-- The name of a kind. -/
def name : BackendKind → String
  | .redb => "redb"
  | .memory => "memory"

/-- The names that stand for a kind. -/
def names : BackendKind → List String
  | .redb => ["redb", "boltdb", "bolt"]
  | .memory => ["memory", "mem", "inmemory"]

/-- The kind that a name stands for, in upper or lower case. -/
def parse? (s : String) : Option BackendKind :=
  [redb, memory].find? fun k => k.names.contains (Text.asciiLower s)

/-- The complaint about a name that stands for no kind. -/
def unknownMessage (s : String) : String :=
  s!"unknown backend kind: {s}"

end BackendKind

/-! ### Faults -/

/-- The calls of a backend. -/
inductive CallKind where
  | put
  | get
  | list
  | delete
  | deleteTree
  | exists
  deriving DecidableEq

/-- The name of a call in messages. -/
def CallKind.name : CallKind → String
  | .put => "put"
  | .get => "get"
  | .list => "list"
  | .delete => "delete"
  | .deleteTree => "delete_tree"
  | .exists => "exists"

/-- A call on a key or prefix. -/
structure Call where
  kind : CallKind
  key : String
  deriving DecidableEq

/-- How a call fails: by a failure of the medium, or as if the key held nothing. -/
inductive Fault where
  | io
  | notFound
  deriving DecidableEq

/-- The error of a call that fails. -/
def Fault.error (call : Call) : Fault → BackendError
  | .io => .io s!"injected {call.kind.name} failure at {call.key}"
  | .notFound => .keyNotFound call.key

/-- A source of faults: whether the next call fails, and the source after it. -/
class FaultSource (σ : Type) where
  next : σ → Call → Option Fault × σ

/-- The source without faults. -/
structure Reliable where
  deriving DecidableEq, Inhabited

instance : FaultSource Reliable := ⟨fun s _ => (none, s)⟩

/-- A fault that waits for calls of a kind on keys with an ending, and lets the first `after` of them
pass. -/
structure ArmedFault where
  kind : CallKind
  suffix : String := ""
  fault : Fault := .io
  after : Nat := 0
  deriving DecidableEq

/-- Whether a fault waits for a call. -/
def ArmedFault.concerns (a : ArmedFault) (call : Call) : Bool :=
  a.kind = call.kind && Text.hasSuffix a.suffix call.key

/-- Faults in the order in which they were armed. -/
abbrev ArmedFaults := List ArmedFault

/-- The first armed fault that concerns a call and lets no more pass makes it fail; those before it
that concern the call let one less pass. -/
def ArmedFaults.next : ArmedFaults → Call → Option Fault × ArmedFaults
  | [], _ => (none, [])
  | a :: rest, call =>
    if a.concerns call then
      match a.after with
      | 0 => (some a.fault, a :: rest)
      | n + 1 =>
        let (fault, rest) := ArmedFaults.next rest call
        (fault, { a with after := n } :: rest)
    else
      let (fault, rest) := ArmedFaults.next rest call
      (fault, a :: rest)

instance : FaultSource ArmedFaults := ⟨ArmedFaults.next⟩

/-! ### Media -/

/-- The contents of a backend. -/
abbrev Entries := KeyMap Bytes

/-- The contents of a backend and the source of its faults. -/
structure Medium (σ : Type) where
  entries : Entries
  faults : σ

/-- An action on a medium that may fail. What it did before it failed stays done. -/
abbrev BackendM (σ : Type) := ExceptT BackendError (StateM (Medium σ))

namespace BackendM

variable {σ : Type} [FaultSource σ]

/-- Asks the source of faults about a call. -/
def consult (kind : CallKind) (key : String) : BackendM σ Unit := do
  let medium ← getThe (Medium σ)
  let (fault, faults) := FaultSource.next medium.faults ⟨kind, key⟩
  set { medium with faults }
  match fault with
  | some fault => throw (fault.error ⟨kind, key⟩)
  | none => pure ()

/-- The entries. -/
def entries : BackendM σ Entries :=
  return (← getThe (Medium σ)).entries

/-- Changes the entries. -/
def change (f : Entries → Entries) : BackendM σ Unit :=
  modifyThe (Medium σ) fun medium => { medium with entries := f medium.entries }

/-- Stores bytes under a key. -/
def put (key : String) (value : Bytes) : BackendM σ Unit := do
  consult .put key
  change (·.insert key value)

/-- The bytes under a key. -/
def get (key : String) : BackendM σ Bytes := do
  consult .get key
  match (← entries).find? key with
  | some value => pure value
  | none => throw (.keyNotFound key)

/-- The entries under a prefix, in key order. There has to be one. -/
def list (key : String) : BackendM σ (List (String × Bytes)) := do
  consult .list key
  match (← entries).startingWith key with
  | [] => throw (.keyNotFound key)
  | pairs => pure pairs

/-- Removes a key, if it is there. -/
def delete (key : String) : BackendM σ Unit := do
  consult .delete key
  change (·.erase key)

/-- Removes all keys under a prefix. -/
def deleteTree (key : String) : BackendM σ Unit := do
  consult .deleteTree key
  change (·.eraseStartingWith key)

/-- Whether a key is there. -/
def exists? (key : String) : BackendM σ Bool := do
  consult .exists key
  return (← entries).contains key

end BackendM

/-! ### Calls as data -/

/-- A call of a backend with all its arguments. -/
inductive Request where
  | put (key : String) (value : Bytes)
  | get (key : String)
  | list (key : String)
  | delete (key : String)
  | deleteTree (key : String)
  | exists (key : String)
  deriving DecidableEq

/-- The answer to a request. -/
inductive Reply where
  | done
  | bytes (value : Bytes)
  | pairs (entries : List (String × Bytes))
  | truth (b : Bool)
  deriving DecidableEq

/-- The effect of a request. -/
def Request.perform {σ : Type} [FaultSource σ] : Request → BackendM σ Reply
  | .put key value => do BackendM.put key value; return .done
  | .get key => return .bytes (← BackendM.get key)
  | .list key => return .pairs (← BackendM.list key)
  | .delete key => do BackendM.delete key; return .done
  | .deleteTree key => do BackendM.deleteTree key; return .done
  | .exists key => return .truth (← BackendM.exists? key)

/-- What a request answers on entries without faults, and the entries after it. -/
def Request.performOn (request : Request) (entries : Entries) :
    Except BackendError Reply × Entries :=
  let action : BackendM Reliable Reply := request.perform
  let (answer, medium) := action.run.run ⟨entries, {}⟩
  (answer, medium.entries)

end VolumeOverlay
