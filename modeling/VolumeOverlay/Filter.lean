import VolumeOverlay.Volume

/-!
# Filters

A filter is a conjunction of terms `key = value`. Some keys name attributes of a volume; every other
key names a provider field. Sizes and rates compare as numbers, and a value that is no number
matches no volume.

## Main definitions

* `Filter.ofPairs ps`: the terms of some pairs; of two with one key the first counts
* `Filter.accepts f v`: whether a volume satisfies every term
* `Filter.apply f vs`: the volumes that do
-/

namespace VolumeOverlay

/-- Terms `key = value`, all of which have to hold. -/
structure Filter where
  terms : List (String × String)
  deriving DecidableEq, Inhabited

namespace Filter

/-- The filter that every volume satisfies. -/
def all : Filter := ⟨[]⟩

/-- Appends the terms whose key is new. -/
def addTerms (terms : List (String × String)) : List (String × String) → List (String × String)
  | [] => terms
  | t :: ts =>
    if terms.any fun u => u.1 = t.1 then addTerms terms ts else addTerms (terms ++ [t]) ts

/-- The filter of some pairs. The first pair with a key counts. -/
def ofPairs (pairs : List (String × String)) : Filter :=
  ⟨addTerms [] pairs⟩

/-- Whether a filter has no terms. -/
def isEmpty (f : Filter) : Bool :=
  f.terms.isEmpty

/-- Whether a volume satisfies a term. -/
def termMatches (v : Volume) (key value : String) : Bool :=
  if key = "availabilityZone" then v.external.availabilityZone = value
  else if key = "iops" then Text.Decimal.int64? value = some v.external.iops
  else if key = "size" then Text.Decimal.int64? value = some v.external.size
  else if key = "serviceName" then v.serviceName = value
  else v.external.fields.find? key = some value

/-- Whether a volume satisfies every term. -/
def accepts (f : Filter) (v : Volume) : Bool :=
  f.terms.all fun t => termMatches v t.1 t.2

/-- The volumes that satisfy every term. -/
def apply (f : Filter) (volumes : List Volume) : List Volume :=
  volumes.filter f.accepts

end Filter

end VolumeOverlay
