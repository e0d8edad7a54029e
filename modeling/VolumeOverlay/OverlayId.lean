import VolumeOverlay.KeyMap
import VolumeOverlay.Text.Quoted

/-!
# Overlay ids

A volume is known here by its overlay id: the name of the service that owns it, a `-`, and the id
that the service gave it. Service names hold no `-`, so the first one separates; an external id may
hold more of them.

## Main definitions

* `OverlayId`: an id, which need not be well formed
* `OverlayId.of service external`: the id of a service's volume
* `OverlayId.split`: the parts around the first `-`
* `OverlayId.parse`: accepts a text with something before and after its first `-`
* `OverlayId.Error`: why a text is no overlay id
-/

namespace VolumeOverlay

/-- The id of a volume across services. -/
structure OverlayId where
  text : String
  deriving DecidableEq, Inhabited

namespace OverlayId

/-- The character between service name and external id. -/
def separator : Char := '-'

/-- Why a text is no overlay id; all but the empty text are named in the message. -/
inductive Error where
  | empty
  | missingSeparator (id : String)
  | emptyService (id : String)
  | emptyVolume (id : String)
  deriving DecidableEq

/-- The text of an error. -/
def Error.message : Error → String
  | .empty => "volume id must not be empty"
  | .missingSeparator id => s!"valid volume id is service-volume, got '{id}'"
  | .emptyService id => s!"volume id '{id}' has an empty service name"
  | .emptyVolume id => s!"volume id '{id}' has an empty external volume id"

/-- The id of the volume `external` of `service`. -/
def of (service external : String) : OverlayId :=
  ⟨service ++ separator.toString ++ external⟩

/-- The service name and the external id. -/
def split (id : OverlayId) : Option (String × String) :=
  Text.cutFirst separator id.text

/-- The overlay id that a text is. -/
def parse (s : String) : Except Error OverlayId :=
  if s = "" then .error .empty
  else
    match split ⟨s⟩ with
    | none => .error (.missingSeparator s)
    | some (service, external) =>
      if service = "" then .error (.emptyService s)
      else if external = "" then .error (.emptyVolume s)
      else .ok ⟨s⟩

/-- Ids in the order of their texts, each once. -/
def sorted (ids : List OverlayId) : List OverlayId :=
  (KeyMap.ofList (ids.map fun id => (id.text, ()))).keys.map OverlayId.mk

/-- An id for inspection. -/
def inspected (id : OverlayId) : String :=
  "OverlayId(" ++ Text.quote id.text ++ ")"

end OverlayId

end VolumeOverlay
