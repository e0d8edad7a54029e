import VolumeOverlay.Store.Backend

/-!
# Raw backends

A backend by itself, without a store on it. A file keeps the entries of each of its buckets when it
is closed; memory keeps nothing.

## Main definitions

* `RawBackend`: a backend that is open, and what its file holds
* `RawBackend.perform`: a request to it
* `RawBackend.reopen`: closes it and opens it with a bucket
-/

namespace VolumeOverlay

/-- An open backend: its kind, the buckets of its file and the bucket in use. -/
structure RawBackend where
  kind : BackendKind
  buckets : KeyMap Entries
  bucket : String

namespace RawBackend

/-- A backend that has not been used before. -/
def start (kind : BackendKind) (bucket : String) : RawBackend :=
  ⟨kind, ∅, bucket⟩

/-- The entries of the bucket in use. -/
def entries (b : RawBackend) : Entries :=
  (b.buckets.find? b.bucket).getD ∅

/-- Closes a backend and opens it with a bucket. -/
def reopen (b : RawBackend) (bucket : String) : RawBackend :=
  match b.kind with
  | .redb => { b with bucket }
  | .memory => start .memory bucket

/-- A request to a backend. -/
def perform (b : RawBackend) (request : Request) : Except BackendError Reply × RawBackend :=
  let (reply, entries) := request.performOn b.entries
  (reply, { b with buckets := b.buckets.insert b.bucket entries })

end RawBackend

end VolumeOverlay
