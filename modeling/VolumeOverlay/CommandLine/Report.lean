import VolumeOverlay.Document.Json.Printer
import VolumeOverlay.Volume

/-!
# Reports

What the command line prints: a listing of volumes as a table, one volume as a list of attributes,
and failures with what led to them. On request a report is JSON instead.

## Main definitions

* `Report.volumes`, `Report.volume`, `Report.ids`, `Report.version`: the reports of actions
* `Failure`: what went wrong, and what led to it
* `Failure.report`: its text
-/

namespace VolumeOverlay.CommandLine

namespace Report

/-- Some lines of text. -/
def lines (ls : List String) : String :=
  .join (ls.map (· ++ "\n"))

/-- A document as a report. -/
def json (d : Document) : String :=
  lines [d.pretty]

/-- A text, or a dash in place of the empty one. -/
def orDash (s : String) : String :=
  if s = "" then "-" else s

/-- Names between separators, or a dash where there is none. -/
def namesOrDash (sep : String) (names : List String) : String :=
  if names = [] then "-" else sep.intercalate names

/-- An integer in decimal digits. -/
def integer (n : Int64) : String :=
  .ofList (Text.Decimal.ofInt n.toInt)

/-! ### Tables -/

/-- A text with spaces after it, up to a number of characters. -/
def padded (width : Nat) (s : String) : String :=
  s ++ .ofList (List.replicate (width - s.length) ' ')

/-- The columns of a listing with their widths. -/
def columns : List (String × Nat) :=
  [("VOLUME ID", 28), ("NAME", 20), ("SIZE", 8), ("IOPS", 8), ("SCHEDULERS", 24), ("LABELS", 6)]

/-- The length of the rule below the names of the columns. -/
def ruleLength : Nat := 98

/-- A row of a listing. -/
def row (cells : List String) : String :=
  " ".intercalate (List.zipWith padded (columns.map (·.2)) cells)

/-- A rule of some character. -/
def rule (c : Char) (length : Nat) : String :=
  .ofList (List.replicate length c)

/-- The cells of a volume. -/
def cells (v : Volume) : List String :=
  [v.overlayId.text, v.external.name, integer v.external.size, integer v.external.iops,
    namesOrDash "," v.schedulers, toString v.labels.size]

/-- A listing of volumes. -/
def listing (vs : List Volume) : String :=
  lines <| ["Volumes", "======="] ++
    if vs = [] then ["No volumes found"]
    else row (columns.map (·.1)) :: rule '-' ruleLength :: vs.map fun v => row (cells v)

/-- Volumes as a listing or as JSON. -/
def volumes (asJson : Bool) (vs : List Volume) : String :=
  if asJson then json (.list (vs.map (·.toDocument))) else listing vs

/-! ### Single volumes -/

/-- The attributes of a volume by their titles. -/
def attributes (v : Volume) : List (String × String) :=
  [("Service:", v.serviceName), ("External ID:", v.external.id), ("Name:", v.external.name),
    ("Size:", integer v.external.size ++ " GiB"), ("IOPS:", integer v.external.iops),
    ("Type:", orDash v.external.volumeType),
    ("Availability Zone:", orDash v.external.availabilityZone),
    ("Schedulers:", namesOrDash ", " v.schedulers)]

/-- The width of the titles of attributes. -/
def titleWidth : Nat := 18

/-- The labels of a volume, in the order of their keys. -/
def labelLines (labels : LabelMap) : List String :=
  if labels.isEmpty then []
  else "" :: "Labels:" :: labels.toList.map fun l => s!"  {l.1} = {l.2}"

/-- A volume with its attributes and labels. The rule below the title has a character for each byte
of the title. -/
def description (v : Volume) : String :=
  let title := "Volume: " ++ v.overlayId.text
  lines <| [title, rule '=' title.utf8ByteSize] ++
    (attributes v).map (fun a => padded titleWidth a.1 ++ " " ++ a.2) ++ labelLines v.labels

/-- A volume as a description or as JSON. -/
def volume (asJson : Bool) (v : Volume) : String :=
  if asJson then json v.toDocument else description v

/-! ### The overlay store -/

/-- Overlay ids, one on each line, or as JSON. -/
def ids (asJson : Bool) (ids : List OverlayId) : String :=
  if asJson then json (.ofTexts (ids.map (·.text)))
  else if ids = [] then lines ["No volumes registered"]
  else lines (ids.map (·.text))

/-- The version of a store, as text or as JSON. -/
def version (asJson : Bool) (version : String) : String :=
  if asJson then lines [(Document.table [("version", .text version)]).compact]
  else lines [s!"Store version: {version}"]

end Report

/-! ### Failures -/

/-- What went wrong, and what led to it, outermost first. -/
structure Failure where
  message : String
  causes : List String := []
  deriving DecidableEq

namespace Failure

/-- A text whose lines after the first are indented. -/
def indented (indentation : String) (s : String) : String :=
  .ofList (s.toList.flatMap fun c => if c = '\n' then '\n' :: indentation.toList else [c])

/-- A number right-aligned in five places. -/
def number (n : Nat) : String :=
  let digits := Text.Decimal.digits n
  .ofList (List.replicate (5 - digits.length) ' ' ++ digits)

/-- The lines of causes. A single one is indented, several are numbered from zero. -/
def causeLines : List String → List String
  | [] => []
  | [cause] => ["", "Caused by:", "    " ++ indented "    " cause]
  | causes =>
    "" :: "Caused by:" ::
      causes.zipIdx.map fun c => number c.2 ++ ": " ++ indented "       " c.1

/-- The text of a failure. -/
def report (f : Failure) : String :=
  Report.lines (("Error: " ++ f.message) :: causeLines f.causes)

end Failure

end VolumeOverlay.CommandLine
