import Mathlib.Tactic.MkIffOfInductiveProp
import VolumeOverlay.Filter
import VolumeOverlay.Proofs.KeyMap
import VolumeOverlay.Proofs.Text.Decimal

/-!
# What a filter keeps

A filter keeps, in their order, the volumes that meet the first value given for every key. Some keys
name attributes of a volume: the zone and the service have to be the value itself, the size and the
rate have to be the integer that the value denotes, and a value that denotes none is met by no volume.
Every other key names a provider field, which has to have exactly the value.

What is kept is therefore decided by the first value of each key. A later value of a key does not
matter, nor does the order in which different keys are given, nor how a number is written.

## Main definitions

* `Filter.Meets v key value`: what a pair asks of a volume
* `Filter.Wanted pairs v`: the volume meets the first value of every key

## Main results

* `termMatches_iff`: a term is tested for what the pair asks
* `mem_addTerms`: the terms of a filter are the first pairs of each key
* `apply_congr`: what the first values ask decides what is kept
* `apply_ofPairs`: the volumes that a filter keeps
-/

namespace VolumeOverlay.Filter

open Text.Decimal (Denotes IsDigits isDigits_digits)

variable {pairs pairs' : List (String × String)} {v : Volume} {key value : String}

/-! ### Terms -/

/-- The keys that name attributes of a volume. -/
def attributes : List String :=
  ["availabilityZone", "serviceName", "size", "iops"]

/-- What a pair asks of a volume. -/
@[mk_iff]
structure Meets (v : Volume) (key value : String) : Prop where
  zone : key = "availabilityZone" → v.external.availabilityZone = value
  service : key = "serviceName" → v.serviceName = value
  size : key = "size" → Denotes value.toList v.external.size.toInt
  iops : key = "iops" → Denotes value.toList v.external.iops.toInt
  field : key ∉ attributes → v.external.fields.find? key = some value

/-- A term is tested for what the pair asks. -/
theorem termMatches_iff : termMatches v key value ↔ Meets v key value := by
  rw [meets_iff]
  by_cases hkey : key ∈ attributes
  · -- An attribute is asked for by its own key only.
    simp only [attributes, List.mem_cons, List.not_mem_nil, or_false] at hkey
    rcases hkey with rfl | rfl | rfl | rfl <;>
      simp [termMatches, attributes, Text.Decimal.int64?_eq_some_iff]
  · have hne : key ≠ "availabilityZone" ∧ key ≠ "serviceName" ∧ key ≠ "size" ∧ key ≠ "iops" := by
      simpa [attributes] using hkey
    simp [termMatches, hne, hkey]

/-! ### First values -/

/-- The terms of a filter are those there were, and the first pair of each new key. -/
theorem mem_addTerms {terms ts : List (String × String)} :
    (key, value) ∈ addTerms terms ts ↔
      (key, value) ∈ terms ∨ key ∉ terms.map (·.1) ∧ ts.lookup key = some value := by
  induction ts generalizing terms with
  | nil => simp [addTerms]
  | cons t ts ih =>
    obtain ⟨name, first⟩ := t
    have hany : (terms.any fun u => u.1 = name) = true ↔ name ∈ terms.map (·.1) := by
      simp
    rw [addTerms, List.lookup_cons]
    by_cases hkey : key = name
    · subst hkey
      rw [beq_self_eq_true]
      split
      · -- The key has a term already, and its pair is skipped.
        rename_i hold
        rw [ih]
        simp [hany.1 hold]
      · rename_i hnew
        have hnotMem : key ∉ terms.map (·.1) := fun h => hnew (hany.2 h)
        rw [ih]
        simp [hnotMem, eq_comm (a := first)]
    · have hbeq : (key == name) = false := by simpa using hkey
      rw [hbeq]
      split
      · rw [ih]
      · rw [ih]
        simp [hkey]

/-- A volume is wanted when it meets the first value of every key. -/
def Wanted (pairs : List (String × String)) (v : Volume) : Prop :=
  ∀ key value, pairs.lookup key = some value → Meets v key value

theorem accepts_ofPairs_iff : (ofPairs pairs).accepts v ↔ Wanted pairs v := by
  have hterms : ∀ key value, (key, value) ∈ (ofPairs pairs).terms ↔
      pairs.lookup key = some value := fun key value => by
    rw [ofPairs, mem_addTerms]
    simp
  rw [accepts, List.all_eq_true]
  constructor
  · intro h key value hfirst
    exact termMatches_iff.1 (h (key, value) ((hterms key value).2 hfirst))
  · rintro h ⟨key, value⟩ hmem
    exact termMatches_iff.2 (h key value ((hterms key value).1 hmem))

instance (pairs : List (String × String)) (v : Volume) : Decidable (Wanted pairs v) :=
  decidable_of_iff _ accepts_ofPairs_iff

theorem apply_ofPairs_eq_filter (pairs : List (String × String)) (volumes : List Volume) :
    (ofPairs pairs).apply volumes = volumes.filter fun v => Wanted pairs v := by
  rw [apply]
  refine List.filter_congr fun v _ => ?_
  rw [Bool.eq_iff_iff, decide_eq_true_iff]
  exact accepts_ofPairs_iff

/-- What the first values ask decides what is kept. -/
theorem apply_congr (h : ∀ v, Wanted pairs v ↔ Wanted pairs' v) (volumes : List Volume) :
    (ofPairs pairs).apply volumes = (ofPairs pairs').apply volumes := by
  rw [apply_ofPairs_eq_filter, apply_ofPairs_eq_filter]
  exact List.filter_congr fun v _ => decide_eq_decide.2 (h v)

/-! ### What does not matter -/

section Changes

variable {before after : List (String × String)} {x y : String}

theorem wanted_congr (h : ∀ key, pairs.lookup key = pairs'.lookup key) :
    Wanted pairs v ↔ Wanted pairs' v := by
  simp only [Wanted, h]

/-- A value of a key that has one already does not matter. -/
theorem lookup_repeated (h : key ∈ before.map (·.1)) (k : String) :
    (before ++ (key, value) :: after).lookup k = (before ++ after).lookup k := by
  rw [List.lookup_append, List.lookup_append, List.lookup_cons]
  by_cases hk : k = key
  · subst hk
    obtain ⟨t, ht, hkey⟩ := List.mem_map.1 h
    have hsome : (before.lookup k).isSome := List.lookup_isSome_iff.2 ⟨t, ht, by simp [hkey]⟩
    obtain ⟨w, hw⟩ := Option.isSome_iff_exists.1 hsome
    rw [hw, Option.some_or, Option.some_or]
  · have hbeq : (k == key) = false := by simpa using hk
    rw [hbeq]

/-- The order of two neighbours with different keys does not matter. -/
theorem lookup_swapped {t u : String × String} (h : t.1 ≠ u.1) (k : String) :
    (before ++ t :: u :: after).lookup k = (before ++ u :: t :: after).lookup k := by
  obtain ⟨name, w⟩ := t
  obtain ⟨name', w'⟩ := u
  rw [List.lookup_append, List.lookup_append]
  congr 1
  simp only [List.lookup_cons]
  -- A key is that of one neighbour at most, and the other is skipped.
  by_cases hk : k = name
  · have hbeq : (k == name') = false := by simpa [hk] using h
    rw [hbeq]
  · have hbeq : (k == name) = false := by simpa using hk
    rw [hbeq]

/-- A value that asks for no less than another may stand in its place. -/
theorem Wanted.of_meets (h : Meets v key x → Meets v key y)
    (hw : Wanted (before ++ (key, x) :: after) v) : Wanted (before ++ (key, y) :: after) v := by
  intro k value hfirst
  by_cases hk : k = key
  · subst hk
    rw [List.lookup_append, List.lookup_cons_self] at hfirst
    cases hbefore : before.lookup k with
    | some w =>
      -- The first value of the key stands before, and is the same in both.
      rw [hbefore] at hfirst
      exact hw k value (by rw [List.lookup_append, hbefore]; exact hfirst)
    | none =>
      rw [hbefore] at hfirst
      obtain rfl := Option.some.inj hfirst
      exact h (hw k x (by rw [List.lookup_append, hbefore, List.lookup_cons_self]; rfl))
  · have hbeq : (k == key) = false := by simpa using hk
    refine hw k value ?_
    rw [List.lookup_append, List.lookup_cons, hbeq] at hfirst ⊢
    exact hfirst

/-- How the number of a size or a rate is written does not matter. -/
theorem meets_number_congr (hkey : key = "size" ∨ key = "iops")
    (h : ∀ n, Denotes x.toList n ↔ Denotes y.toList n) : Meets v key x ↔ Meets v key y := by
  rcases hkey with rfl | rfl <;> simp [meets_iff, attributes, h]

theorem apply_ofPairs_number (hkey : key = "size" ∨ key = "iops")
    (h : ∀ n, Denotes x.toList n ↔ Denotes y.toList n) {volumes : List Volume} :
    (ofPairs (before ++ (key, x) :: after)).apply volumes =
      (ofPairs (before ++ (key, y) :: after)).apply volumes := by
  have hmeets : ∀ v, Meets v key x ↔ Meets v key y := fun _ => meets_number_congr hkey h
  exact apply_congr (fun v => ⟨.of_meets (hmeets v).1, .of_meets (hmeets v).2⟩) volumes

end Changes

/-- A filter keeps, in their order, the volumes that meet the first value of every key: the zone or
the service is the value, the size or the rate is the integer that the value denotes, any other
provider field has the value. A later value of a key does not matter, nor the order of different keys,
nor a plus sign and zeros in front of a number or behind its minus sign, and what is kept is kept
again. -/
theorem apply_ofPairs (pairs : List (String × String)) (volumes : List Volume) :
    ((ofPairs pairs).apply volumes = volumes.filter fun v => Wanted pairs v) ∧
      (∀ before key value after, key ∈ before.map (·.1) →
        (ofPairs (before ++ (key, value) :: after)).apply volumes =
          (ofPairs (before ++ after)).apply volumes) ∧
      (∀ before t u after, t.1 ≠ u.1 →
        (ofPairs (before ++ t :: u :: after)).apply volumes =
          (ofPairs (before ++ u :: t :: after)).apply volumes) ∧
      (∀ pairs', pairs'.Perm pairs → (pairs.map (·.1)).Nodup →
        (ofPairs pairs').apply volumes = (ofPairs pairs).apply volumes) ∧
      (∀ before key digits zeros after, key = "size" ∨ key = "iops" → IsDigits digits →
        (ofPairs (before ++
              (key, .ofList ('+' :: (List.replicate zeros '0' ++ digits))) :: after)).apply volumes =
            (ofPairs (before ++ (key, .ofList digits) :: after)).apply volumes ∧
          (ofPairs (before ++
              (key, .ofList ('-' :: (List.replicate zeros '0' ++ digits))) :: after)).apply volumes =
            (ofPairs (before ++ (key, .ofList ('-' :: digits)) :: after)).apply volumes) ∧
      (ofPairs pairs).apply ((ofPairs pairs).apply volumes) = (ofPairs pairs).apply volumes := by
  refine ⟨apply_ofPairs_eq_filter pairs volumes, ?_, ?_, ?_, ?_, ?_⟩
  · intro before key value after hkey
    exact apply_congr (fun v => wanted_congr (lookup_repeated hkey)) volumes
  · intro before t u after hne
    exact apply_congr (fun v => wanted_congr (lookup_swapped hne)) volumes
  · intro pairs' hperm hnodup
    exact apply_congr (fun v => wanted_congr (KeyMap.lookup_eq_of_perm hperm hnodup)) volumes
  · intro before key digits zeros after hkey hdigits
    constructor
    · refine apply_ofPairs_number hkey fun n => ?_
      rw [String.toList_ofList, String.toList_ofList, hdigits.denotes_plus_zeros_iff]
    · refine apply_ofPairs_number hkey fun n => ?_
      rw [String.toList_ofList, String.toList_ofList, hdigits.denotes_minus_zeros_iff]
  · rw [apply, apply, List.filter_filter]
    simp only [Bool.and_self]

/-- A volume of ten units with a tier. -/
def goldVolume : Volume :=
  .ofExternal "mock" { id := "vol-000", size := 10, fields := .ofList [("tier", "gold")] }

/-- Its size may be asked for with a sign and a zero, and what is asked of the size once more is
ignored. A volume without the field is not kept. -/
theorem apply_ofPairs_repeated :
    "size" ∈ [("size", "+010"), ("tier", "gold")].map (·.1) ∧ IsDigits ['1', '0'] ∧
      (ofPairs [("size", "+010"), ("tier", "gold"), ("size", "99")]).apply
          [.ofExternal "mock" { id := "vol-001", size := 10 }, goldVolume] = [goldVolume] := by
  have hsize : "size" ∈ [("size", "+010"), ("tier", "gold")].map (·.1) := List.mem_cons_self
  have hdigits : IsDigits ['1', '0'] := isDigits_digits 10
  obtain ⟨-, hrepeated, -, -, hnumber, -⟩ := apply_ofPairs []
    [.ofExternal "mock" { id := "vol-001", size := 10 }, goldVolume]
  refine ⟨hsize, hdigits, ?_⟩
  calc (ofPairs [("size", "+010"), ("tier", "gold"), ("size", "99")]).apply _
    _ = (ofPairs [("size", "+010"), ("tier", "gold")]).apply _ :=
        hrepeated [("size", "+010"), ("tier", "gold")] "size" "99" [] hsize
    _ = (ofPairs [("size", "10"), ("tier", "gold")]).apply _ :=
        (hnumber [] "size" ['1', '0'] 1 [("tier", "gold")] (.inl rfl) hdigits).1
    _ = [goldVolume] := by decide

end VolumeOverlay.Filter
