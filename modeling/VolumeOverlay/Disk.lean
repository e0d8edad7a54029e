import VolumeOverlay.Disk.Path
import VolumeOverlay.Store.Backend

/-!
# Files

Configuration files and databases lie in a tree of directories. A database file holds the entries of
several buckets. Opening one makes the missing directories above it, the file and the bucket; what has
been made stays when the rest fails.

## Main definitions

* `Disk`: files and directories by their locations, and the directory that relative paths start from
* `Disk.step`, `Disk.walk`: following a path
* `Disk.node? path`: what a path leads to
* `Disk.openDatabase path bucket`: makes sure that a bucket is there
* `Disk.entries`, `Disk.setEntries`: the contents of a bucket
-/

namespace VolumeOverlay

/-- What a path leads to. -/
inductive FileNode where
  | directory
  | content (bytes : Bytes)
  | database (buckets : KeyMap Entries)

/-- Files and directories by their locations, as texts. At the top there always is a directory. -/
structure Disk where
  workingDirectory : Location
  nodes : KeyMap FileNode

namespace Disk

/-- A location as a text. -/
def joined (l : Location) : String :=
  "/".intercalate l

/-- What is at a location. -/
def nodeAt? (disk : Disk) (l : Location) : Option FileNode :=
  if l = [] then some .directory else disk.nodes.find? (joined l)

/-- Puts a node at a location. -/
def setNode (disk : Disk) (l : Location) (node : FileNode) : Disk :=
  { disk with nodes := disk.nodes.insert (joined l) node }

/-! ### Following paths -/

/-- Follows one segment from a location, where a directory has to be. -/
def step (disk : Disk) (here : Location) (segment : String) : Except PathError Location :=
  match disk.nodeAt? here with
  | none => .error .missing
  | some .directory =>
    if Path.stays segment then .ok here
    else if segment = ".." then .ok here.dropLast
    else if Path.maxNameBytes < segment.utf8ByteSize then .error .tooLong
    else .ok (here ++ [segment])
  | some _ => .error .notDirectory

/-- Follows segments from a location. What the last one leads to may be missing. -/
def walk (disk : Disk) (here : Location) (segments : List String) : Except PathError Location :=
  segments.foldlM disk.step here

/-- Where a path starts. -/
def start (disk : Disk) (p : Path) : Location :=
  if p.isAbsolute then [] else disk.workingDirectory

/-- Where a path leads. The empty path leads nowhere. -/
def locate (disk : Disk) (path : String) : Except PathError Location := do
  let p := Path.ofString path
  Path.check p.segments
  if path = "" then throw .missing
  disk.walk (disk.start p) p.segments

/-- What a path leads to. -/
def node? (disk : Disk) (path : String) : Option FileNode :=
  match disk.locate path with
  | .ok l => disk.nodeAt? l
  | .error _ => none

/-! ### Making directories and files -/

/-- Makes sure that the directory of some name is there, given those above it. -/
def ensureDirectory (disk : Disk) (start : Location) (above : List String) (name : String) :
    Except PathError Disk := do
  let here ← disk.walk start above
  let there ← disk.step here name
  match disk.nodeAt? there with
  | none => return disk.setNode there .directory
  | some .directory => return disk
  | some _ => throw .taken

/-- Makes sure that a directory and those above it are there; the names run from the innermost one
upward. Directories above are made only where they are missing. -/
def makeDirectories (disk : Disk) (start : Location) :
    List String → Except PathError Unit × Disk
  | [] => (.ok (), disk)
  | name :: above =>
    match disk.ensureDirectory start above.reverse name with
    | .ok disk => (.ok (), disk)
    | .error .missing =>
      match makeDirectories disk start above with
      | (.ok (), disk) =>
        match disk.ensureDirectory start above.reverse name with
        | .ok disk => (.ok (), disk)
        | .error e => (.error e, disk)
      | (.error e, disk) => (.error e, disk)
    | .error e => (.error e, disk)

/-- Makes the missing directories above a path. -/
def makeParents (disk : Disk) (p : Path) : Except PathError Unit × Disk :=
  let names := p.names.dropLast
  match Path.check names with
  | .ok () => disk.makeDirectories (disk.start p) names.reverse
  | .error e => (.error e, disk)

/-- Where a file is opened or made. -/
def locateFile (disk : Disk) (p : Path) : Except PathError Location := do
  Path.check p.segments
  if p.segments = [""] then throw .missing
  let there ← disk.walk (disk.start p) p.core
  if p.namesDirectory then throw .isDirectory
  return there

/-- The disk with a directory or a file, and the directories above it. -/
def add (disk : Disk) (path : String) (node : FileNode) : Disk :=
  let p := Path.ofString path
  let disk := (disk.makeParents p).2
  match disk.walk (disk.start p) p.names with
  | .ok l => disk.setNode l node
  | .error _ => disk

/-! ### Databases -/

/-- Makes sure that the file at a location is a database with a bucket. An empty file becomes one. -/
def ensureBucket (disk : Disk) (l : Location) (bucket : String) : Except String Disk :=
  let withBucket (buckets : KeyMap Entries) : Disk :=
    disk.setNode l (.database (buckets.insert bucket ((buckets.find? bucket).getD ∅)))
  match disk.nodeAt? l with
  | none => .ok (withBucket ∅)
  | some (.database buckets) => .ok (withBucket buckets)
  | some (.content []) => .ok (withBucket ∅)
  | some (.content _) => .error "invalid data"
  | some .directory => .error PathError.isDirectory.message

/-- Opens a database file: makes the missing directories above it, the file and the bucket. -/
def openDatabase (disk : Disk) (path bucket : String) : Except BackendError Unit × Disk :=
  let p := Path.ofString path
  match disk.makeParents p with
  | (.error e, disk) => (.error (.blockedPath e.message), disk)
  | (.ok (), disk) =>
    match ((disk.locateFile p).mapError PathError.message).bind (disk.ensureBucket · bucket) with
    | .ok disk => (.ok (), disk)
    | .error detail => (.error (.unusableFile ("I/O error: " ++ detail)), disk)

/-- The entries of a bucket. -/
def entries (disk : Disk) (path bucket : String) : Entries :=
  match disk.node? path with
  | some (.database buckets) => (buckets.find? bucket).getD ∅
  | _ => ∅

/-- Replaces the entries of a bucket of a database. -/
def setEntries (disk : Disk) (path bucket : String) (entries : Entries) : Disk :=
  match disk.locate path with
  | .ok l =>
    match disk.nodeAt? l with
    | some (.database buckets) => disk.setNode l (.database (buckets.insert bucket entries))
    | _ => disk
  | .error _ => disk

end Disk

end VolumeOverlay
