/-!
# Blank characters

Ids, roots and leaf names are read with their surrounding blanks removed. A blank is a character
with the Unicode property `White_Space`; joiners, byte order marks and the control characters that
only look empty are not blank.

## Main definitions

* `isBlank`: the property `White_Space`
* `stripEnds p cs`: `cs` without the characters of class `p` at either end
* `trim`: a text without surrounding blanks
* `isBlankText`: whether a text has nothing but blanks
-/

namespace VolumeOverlay.Text

/-- The Unicode property `White_Space`. -/
def isBlank (c : Char) : Bool :=
  let n := c.toNat
  (0x09 ≤ n && n ≤ 0x0D) || n == 0x20 || n == 0x85 || n == 0xA0 || n == 0x1680 ||
    (0x2000 ≤ n && n ≤ 0x200A) || n == 0x2028 || n == 0x2029 || n == 0x202F || n == 0x205F ||
    n == 0x3000

/-- The characters left when those of class `p` are dropped at both ends. -/
def stripEnds (p : Char → Bool) (cs : List Char) : List Char :=
  ((cs.dropWhile p).reverse.dropWhile p).reverse

/-- A text without surrounding blanks. -/
def trim (s : String) : String :=
  .ofList (stripEnds isBlank s.toList)

/-- A text without surrounding slashes. -/
def trimSlashes (s : String) : String :=
  .ofList (stripEnds (· == '/') s.toList)

/-- Whether a text is empty or has nothing but blanks. -/
def isBlankText (s : String) : Bool :=
  s.toList.all isBlank

@[simp] theorem toList_trim (s : String) : (trim s).toList = stripEnds isBlank s.toList :=
  String.toList_ofList

@[simp] theorem toList_trimSlashes (s : String) :
    (trimSlashes s).toList = stripEnds (· == '/') s.toList :=
  String.toList_ofList

end VolumeOverlay.Text
