import VolumeOverlay.Document.Json.Printer
import VolumeOverlay.Document.Json.Reader
import VolumeOverlay.Store.Error
import VolumeOverlay.Text.Utf8

/-!
# Scheduler lists

A volume is offered to schedulers: names in the order in which they were given, each once. The list
is stored as a JSON list of texts, and an empty list is not stored at all.

## Main definitions

* `dedup names`: the first occurrence of each name
* `offer current requested`, `revoke current names`: the two ways in which a list changes
* `encode`, `decode`: the stored form
-/

namespace VolumeOverlay.Schedulers

/-- Appends the names that a list does not have yet, one by one. -/
def appendNew (known : List String) : List String → List String
  | [] => known
  | name :: names =>
    if known.contains name then appendNew known names else appendNew (known ++ [name]) names

/-- The first occurrence of each name. -/
def dedup (names : List String) : List String :=
  appendNew [] names

/-- An offer replaces whatever list there is. -/
def offer (_current requested : List String) : List String :=
  dedup requested

/-- Revoking removes the given names and ignores those that are not there. -/
def revoke (current names : List String) : List String :=
  current.filter fun name => !names.contains name

/-- The stored form of a list, unless it is empty. -/
def encode (names : List String) : Option Bytes :=
  if names = [] then none
  else some (Text.Utf8.encode (Document.ofTexts names).compact)

/-- The list whose stored form is under a key. -/
def decode (key : String) (value : Bytes) : Except StoreError (List String) :=
  match (Text.Utf8.decode? value).bind fun s => (Document.ofJson? s).bind Document.texts? with
  | some names => .ok names
  | none => .error (.serialization key)

end VolumeOverlay.Schedulers
