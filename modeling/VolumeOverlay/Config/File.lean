import VolumeOverlay.Config
import VolumeOverlay.Disk
import VolumeOverlay.Document.Toml.Reader
import VolumeOverlay.Document.Toml.Shape

/-!
# Configuration files

A configuration file is TOML. Where there is no file, the defaults apply.

## Main definitions

* `Config.shape`: what the contents of a file have to look like
* `Config.ofToml s`: the configuration that a text denotes, if it is valid
* `Config.load disk path`: the configuration in a file
-/

namespace VolumeOverlay.Config

open Document (Toml.Shape)
open Document.Toml

/-- What the contents of a file have to look like. -/
def shape : Shape :=
  let store := Shape.record "StoreConfig" [("backend", false, .text),
    ("endpoints", false, .list .text), ("bucket", false, .text), ("root", false, .text),
    ("connection_timeout_ms", false, .natural), ("persist_fields", false, .truth)]
  let service := Shape.record "ServiceConfig" [("name", true, .text), ("driver", false, .text)]
  let logging := Shape.record "LoggingConfig" [("level", false, .text)]
  .record "Config" [("store", false, store), ("services", false, .list service),
    ("logging", false, logging)]

/-- Why well-formed contents are no configuration. -/
def misfit (text : List Char) (members : Members) : String :=
  ((shape.membersMismatch? members).map fun m => m.report text).getD ""

/-- The configuration that the text of a file denotes. -/
def ofToml (s : String) : Except Error Config :=
  match Document.Toml.read s.toList with
  | .error f => .error (.malformed (f.report s.toList))
  | .ok members =>
    match ofDocument? .skipped (.table (membersToDocuments members)) with
    | none => .error (.malformed (misfit s.toList members))
    | some c => do
      c.validate
      return c

/-- What is wrong with a file that is no text. -/
def notText : String := "stream did not contain valid UTF-8"

/-- The configuration in a file, or the default one where there is no file. -/
def load (disk : Disk) (path : String) : Except Error Config :=
  match disk.node? path with
  | none => .ok {}
  | some (.content bytes) =>
    match Text.Utf8.decode? bytes with
    | some s => ofToml s
    | none => .error (.unreadable path notText)
  | some (.database _) => .error (.unreadable path notText)
  | some .directory => .error (.unreadable path PathError.isDirectory.message)

end VolumeOverlay.Config
