import VolumeOverlay.Document.Basic

/-!
# Failures of the store

A call to the key-value backend fails with a backend error. The store adds which operation on which
key failed, and has errors of its own for ids, keys and settings.

## Main definitions

* `BackendError`: a failed backend call
* `StoreError`: a failed store operation
* `message`, `isNotFound`, `causes` of each: its text, whether it means that a key holds nothing,
  and the texts of what led to it
-/

namespace VolumeOverlay

/-- Why a backend call failed.

`blockedPath` and `unusableFile` are failures to open a database file: a directory of its path is
missing and cannot be made, or the file is a directory or no database. -/
inductive BackendError where
  | keyNotFound (key : String)
  | openTimeout (path : String) (milliseconds : Nat)
  | io (detail : String)
  | blockedPath (detail : String)
  | unusableFile (detail : String)
  deriving DecidableEq

/-- A duration in milliseconds: whole seconds with what remains as a decimal fraction, and below one
second the milliseconds. -/
def durationText (milliseconds : Nat) : String :=
  if milliseconds = 0 then "0ns"
  else if milliseconds < 1000 then s!"{milliseconds}ms"
  else
    let fraction := Text.Decimal.zeroPadded 3 (milliseconds % 1000)
    let shortest := (fraction.reverse.dropWhile (· == '0')).reverse
    if shortest = [] then s!"{milliseconds / 1000}s"
    else s!"{milliseconds / 1000}.{String.ofList shortest}s"

namespace BackendError

/-- The text of an error. -/
def message : BackendError → String
  | .keyNotFound key => s!"key not found: '{key}'"
  | .openTimeout path ms =>
    s!"timed out after {durationText ms} waiting for {path} to be released"
  | .io detail => s!"io error: {detail}"
  | .blockedPath detail => s!"io error: {detail}"
  | .unusableFile detail => s!"redb error: {detail}"

/-- Whether the error means that a key or prefix holds nothing. -/
def isNotFound : BackendError → Bool
  | .keyNotFound _ => true
  | _ => false

/-- What led to an error, outermost first. -/
def causes : BackendError → List String
  | .keyNotFound _ | .openTimeout _ _ => []
  | .io detail | .blockedPath detail | .unusableFile detail => [detail]

end BackendError

/-- The operation of the store that a backend call served. -/
inductive Operation where
  | openFile
  | put
  | get
  | delete
  | deleteTree
  | exists
  deriving DecidableEq

/-- The name of an operation in messages. -/
def Operation.name : Operation → String
  | .openFile => "open"
  | .put => "put"
  | .get => "get"
  | .delete => "delete"
  | .deleteTree => "delete_tree"
  | .exists => "exists"

/-- Why a store operation failed. A failed listing is told apart from the other failed calls. -/
inductive StoreError where
  | invalidIdentifier (detail : String)
  | malformedKey (key : String)
  | unsupportedBackend (name : String)
  | config (detail : String)
  | backend (op : Operation) (key : String) (source : BackendError)
  | list (key : String) (source : BackendError)
  | serialization (key : String)
  deriving DecidableEq

namespace StoreError

/-- The text of an error. -/
def message : StoreError → String
  | .invalidIdentifier detail => s!"invalid identifier: {detail}"
  | .malformedKey key => s!"malformed key: '{key}'"
  | .unsupportedBackend name => s!"unsupported backend: '{name}'"
  | .config detail => s!"invalid store configuration: {detail}"
  | .backend op key source => s!"{op.name} '{key}' failed: {source.message}"
  | .list key source => s!"list '{key}' failed: {source.message}"
  | .serialization key => s!"failed to (de)serialize '{key}'"

/-- Whether the error means that a key or prefix holds nothing. -/
def isNotFound : StoreError → Bool
  | .backend _ _ source => source.isNotFound
  | .list _ source => source.isNotFound
  | _ => false

/-- What led to an error, outermost first. -/
def causes : StoreError → List String
  | .backend _ _ source => source.message :: source.causes
  | .list _ source => source.message :: source.causes
  | _ => []

end StoreError

end VolumeOverlay
