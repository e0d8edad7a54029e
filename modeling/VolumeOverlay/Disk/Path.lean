import VolumeOverlay.Text.Cut

/-!
# Paths

A path is followed segment by segment, from the top or from the working directory: an empty segment and
`.` stay, `..` goes up, any other one is a name.

## Main definitions

* `Location`: a place in the tree of directories, by the names on the way from the top
* `PathError`: why the machine refuses a path
* `Path.ofString`: the segments of a path
* `Path.names`: the segments that matter for the directories above
* `Path.check`: refuses what cannot be a path
-/

namespace VolumeOverlay

/-- A place in the tree of directories: the names on the way from the top. -/
abbrev Location := List String

/-- Why the machine refuses a path. -/
inductive PathError where
  | missing
  | taken
  | notDirectory
  | isDirectory
  | tooLong
  | holdsNul
  deriving DecidableEq

/-- The text of an error. -/
def PathError.message : PathError → String
  | .missing => "No such file or directory (os error 2)"
  | .taken => "File exists (os error 17)"
  | .notDirectory => "Not a directory (os error 20)"
  | .isDirectory => "Is a directory (os error 21)"
  | .tooLong => "File name too long (os error 36)"
  | .holdsNul => "file name contained an unexpected NUL byte"

/-- A path, from the top or from the working directory. -/
structure Path where
  isAbsolute : Bool
  segments : List String
  deriving DecidableEq

namespace Path

/-- The runs of characters between slashes. -/
def splitSlashes : List Char → List (List Char)
  | [] => [[]]
  | c :: cs =>
    if c = '/' then [] :: splitSlashes cs
    else
      match splitSlashes cs with
      | [] => [[c]]
      | s :: ss => (c :: s) :: ss

/-- The path that a text is. -/
def ofString (s : String) : Path where
  isAbsolute := Text.hasPrefix "/" s
  segments := (splitSlashes s.toList).map String.ofList

/-- Whether a segment stays where it is. -/
def stays (s : String) : Bool :=
  s == "" || s == "."

/-- The segments that matter for the directories above: names and `..`, and a leading `.`. -/
def names (p : Path) : List String :=
  match p.segments with
  | "." :: rest => "." :: rest.filter (!stays ·)
  | segments => segments.filter (!stays ·)

/-- The segments without the empty ones that slashes at the end make. -/
def core (p : Path) : List String :=
  (p.segments.reverse.dropWhile (· == "")).reverse

/-- Whether only a directory can be at a path: its last segment is empty or a detour. -/
def namesDirectory (p : Path) : Bool :=
  [some "", some ".", some ".."].contains p.segments.getLast?

/-- The greatest number of bytes in a name. -/
def maxNameBytes : Nat := 255

/-- The greatest number of bytes in a path. -/
def maxBytes : Nat := 4095

/-- Refuses segments that no path of the machine can have together. -/
def check (segments : List String) : Except PathError Unit :=
  let bytes := (segments.map fun s => s.utf8ByteSize + 1).foldl (· + ·) 0
  if segments.any fun s => s.toList.contains '\x00' then .error .holdsNul
  -- One slash less than there are segments.
  else if maxBytes + 1 < bytes then .error .tooLong
  else .ok ()

end Path

end VolumeOverlay
