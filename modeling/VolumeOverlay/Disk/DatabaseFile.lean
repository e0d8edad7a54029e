import VolumeOverlay.Disk
import VolumeOverlay.Document.Json.Printer
import VolumeOverlay.Document.Json.Reader

/-!
# Database files

A database file is a JSON document. Its members are buckets, the members of a bucket are entries, and
the value of an entry is the list of its bytes.

## Main definitions

* `DatabaseFile.write buckets`: the text of a database
* `DatabaseFile.read? s`: the database that a text is
-/

namespace VolumeOverlay.DatabaseFile

/-- The bytes of a value as a document. -/
def ofBytes (bytes : Bytes) : Document :=
  .list (bytes.map fun b => .integer b.toNat)

/-- The entries of a bucket as a document. -/
def ofEntries (entries : Entries) : Document :=
  .table (entries.toList.map fun e => (e.1, ofBytes e.2))

/-- The text of a database. -/
def write (buckets : KeyMap Entries) : String :=
  (Document.table (buckets.toList.map fun b => (b.1, ofEntries b.2))).compact

/-- The byte that a document is. -/
def byte? : Document → Option UInt8
  | .integer (.ofNat n) => if n < UInt8.size then some (.ofNat n) else none
  | _ => none

/-- The map whose values are read from the members of a document. -/
def mapOf? {β : Type} (read : Document → Option β) : Document → Option (KeyMap β)
  | .table members => do
    let entries ← members.mapM fun m => do return (m.1, ← read m.2)
    return .ofList entries
  | _ => none

/-- The database that a text is. -/
def read? (s : String) : Option (KeyMap Entries) :=
  (Document.ofJson? s).bind (mapOf? (mapOf? (Document.listOf? byte?)))

end VolumeOverlay.DatabaseFile
