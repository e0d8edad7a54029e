import VolumeOverlay.Provider.Basic
import VolumeOverlay.Store.Error

/-!
# Failures of volume operations

A volume operation fails because its id is malformed, because the volume does not exist, or because
the provider or the store fails.

## Main definitions

* `VolumeError`: a failed volume operation
* `VolumeError.message`, `causes`: its text and the texts of what led to it
* `VolumeError.isNotFound`: whether the volume or its service does not exist
* `VolumeError.status`: the HTTP status that a boundary would answer with
-/

namespace VolumeOverlay

/-- Why a volume operation failed. -/
inductive VolumeError where
  | invalidId (source : OverlayId.Error)
  | notFound (id : String)
  | provider (source : ProviderError)
  | store (source : StoreError)
  deriving DecidableEq

namespace VolumeError

/-- The text of an error. -/
def message : VolumeError → String
  | .invalidId source => s!"invalid volume id: {source.message}"
  | .notFound id => s!"volume not found: {id}"
  | .provider source => source.message
  | .store source => source.message

/-- What led to an error, outermost first. Errors of the provider and the store stand for
themselves. -/
def causes : VolumeError → List String
  | .invalidId source => [source.message]
  | .notFound _ | .provider _ => []
  | .store source => source.causes

/-- Whether the volume or its service does not exist. -/
def isNotFound : VolumeError → Bool
  | .notFound _ => true
  | .provider source => source.isNotFound
  | .invalidId _ | .store _ => false

/-- The HTTP status of an error: 400 for what the client got wrong, 404 for what does not exist, and
500 for all else. -/
def status : VolumeError → Nat
  | .invalidId _ => 400
  | .notFound _ => 404
  | .provider (.invalidServiceName _) => 400
  | .provider (.serviceNotFound _) => 404
  | .provider (.volumeNotFound _ _) => 404
  | .provider (.unsupportedDriver _ _) => 500
  | .store (.invalidIdentifier _) => 400
  | .store _ => 500

end VolumeError

end VolumeOverlay
