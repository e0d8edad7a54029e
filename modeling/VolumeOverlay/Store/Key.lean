import VolumeOverlay.Store.Category
import VolumeOverlay.Store.Error
import VolumeOverlay.Text.Blank
import VolumeOverlay.Text.Cut

/-!
# The key layout

Every key of a store lies under its root. The entries of one object form a subtree, whose key ends
with a slash; a leaf of it is one more segment:

    <root>/                              root marker
    <root>/version                       schema version
    <root>/<category>/                   category root
    <root>/<category>/<id>/              subtree of an object
    <root>/<category>/<id>/<leaf>        an entry of the object

A root may have several segments, or none: then the categories stand at the top.

## Main definitions

* `KeyLayout.ofRoot root`: the layout under a root; blanks and slashes around it do not count
* `KeyLayout.rootMarker`, `versionKey`, `categoryRoot`, `objectKey`: the keys
* `leafOf key`: the last segment of a key
* `checkLeaf leaf`: a leaf name is one segment and not blank
-/

namespace VolumeOverlay

/-- The layout of the keys under a root. `path` is the root with a trailing slash, or empty. -/
structure KeyLayout where
  path : String
  deriving DecidableEq, Inhabited

/-- An id or root without the blanks around it and then the slashes around that. -/
def sanitize (s : String) : String :=
  Text.trimSlashes (Text.trim s)

namespace KeyLayout

/-- The layout under a root. -/
def ofRoot (root : String) : KeyLayout :=
  let root := sanitize root
  ⟨if root = "" then "" else root ++ "/"⟩

/-- The key that marks the root. -/
def rootMarker (layout : KeyLayout) : String :=
  layout.path

/-- The key of the schema version. -/
def versionKey (layout : KeyLayout) : String :=
  layout.path ++ "version"

/-- The root of a category. -/
def categoryRoot (layout : KeyLayout) (category : Category) : String :=
  layout.path ++ category.segment ++ "/"

/-- The subtree of an object. -/
def objectKey (layout : KeyLayout) (category : Category) (id : String) :
    Except StoreError String :=
  let id := sanitize id
  if id = "" then .error (.invalidIdentifier "object id must not be empty")
  else .ok (layout.categoryRoot category ++ id ++ "/")

/-- The number of segments in the key of an object's leaf. -/
def leafDepth (layout : KeyLayout) : Nat :=
  Text.countChar '/' layout.path + 3

/-- The root that a store has by default. -/
def defaultRoot : String := "polly"

end KeyLayout

/-- The number of segments of a key. -/
def segmentCount (key : String) : Nat :=
  Text.countChar '/' key + 1

/-- The last segment of a key. -/
def leafOf (key : String) : Except StoreError String :=
  match Text.afterLast '/' key with
  | some leaf => .ok leaf
  | none => .error (.malformedKey key)

/-- Whether a text can name a leaf: one segment, not blank. -/
def isLeaf (leaf : String) : Bool :=
  !Text.isBlankText leaf && !leaf.toList.contains '/'

/-- Refuses what cannot name a leaf. -/
def checkLeaf (leaf : String) : Except StoreError Unit :=
  if isLeaf leaf then .ok ()
  else .error (.invalidIdentifier s!"label key '{leaf}' must be non-empty and contain no '/'")

end VolumeOverlay
