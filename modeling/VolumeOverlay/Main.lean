import VolumeOverlay.CommandLine.Run
import VolumeOverlay.Disk.DatabaseFile

/-!
# The program

Reads the files that a command line is about, runs it, writes the database back and prints.

## Main definitions

* `readNode`, `writeDatabase`: files of the machine
* `main`: the program
-/

namespace VolumeOverlay.CommandLine

/-- What a path of the machine leads to. -/
def readNode (path : String) : IO (Option FileNode) := do
  try
    return some (.content (← IO.FS.readBinFile path).toList)
  catch e =>
    match e with
    | .noFileOrDirectory _ _ _ => return none
    | _ => return some .directory

/-- A disk with what a path of the machine leads to, and with the directories that it leads through. -/
def withPath (disk : Disk) (path : String) (convert : FileNode → FileNode) : IO Disk := do
  let p := Path.ofString path
  let mut disk := disk
  -- The part in front of a leading slash is no path of its own.
  for n in [if p.isAbsolute then 2 else 1:p.segments.length + 1] do
    let part := "/".intercalate (p.segments.take n)
    match disk.locate part with
    | .ok l =>
      if let some node ← readNode part then disk := disk.setNode l (convert node)
    | .error _ => break
  return disk

/-- A file as a database, if it is one. -/
def asDatabase : FileNode → FileNode
  | .content bytes =>
    match (Text.Utf8.decode? bytes).bind DatabaseFile.read? with
    | some buckets => .database buckets
    | none => .content bytes
  | node => node

/-- Writes the directories of the disk and a database to the machine. -/
def writeDatabase (disk : Disk) (path : String) : IO Unit := do
  for (l, node) in disk.nodes.toList do
    if let .directory := node then IO.FS.createDirAll ("/" ++ l)
  match disk.node? path with
  | some (.database buckets) => IO.FS.writeFile path (DatabaseFile.write buckets)
  | _ => return ()

/-- Runs a command line on the files of the machine. -/
def runOnMachine (words : List String) : IO Outcome := do
  let environment := (← IO.getEnv configVariable).toList.map fun path => (configVariable, path)
  let empty : Disk := ⟨(Path.ofString (← IO.currentDir).toString).names, ∅⟩
  let home ← withPath empty (← IO.currentDir).toString id
  match Invocation.ofArguments words with
  | .error stop => return stop.outcome
  | .ok i =>
    let disk ← withPath home (i.configPath environment) id
    match i.databasePath? environment disk with
    | none => return (run disk environment words).1
    | some path =>
      let disk ← withPath disk path asDatabase
      let (outcome, disk) := run disk environment words
      writeDatabase disk path
      return outcome

end VolumeOverlay.CommandLine

/-- Runs the command line. -/
def main (words : List String) : IO UInt32 := do
  let outcome ← VolumeOverlay.CommandLine.runOnMachine words
  (← IO.getStdout).putStr outcome.output
  (← IO.getStderr).putStr outcome.diagnostics
  return outcome.code.toUInt32
