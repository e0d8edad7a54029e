import VolumeOverlay.Proofs.Document.Json
import VolumeOverlay.Proofs.KeyMap
import VolumeOverlay.Volume

/-!
# Volumes are read back from JSON

A volume is written as one object, in which the members of the external volume stand beside those
of the overlay. Reading looks members up by their names, so their order does not matter, and neither
does that of the entries of a map, whose keys are all different. A member that is missing is read as
its default, so one that has its default may as well be dropped; that is what happens to empty fields
and schedulers when a volume is written.

The names of the external volume and of the overlay have nothing in common. Each half of a volume is
therefore decided by its own members alone.

## Main definitions

* `Document.ofEntries es`: the table of a map, with its entries in a given order
* `Volume.allMembers v fields labels`: the twelve members of a volume
* `Volume.defaults`: the members that may be missing, with what is then read
* `Volume.IsForm v ms`: members that stand for a volume, in any order and without some defaults
* `Volume.ofJson? s`: the volume that a JSON text denotes

## Main results

* `Volume.ofDocument?_perm`: the order of members does not matter
* `Volume.ofDocument?_append`: members that have their default do not matter
* `Volume.IsForm.ofDocument?_eq`: every form of a volume is read as it
* `Volume.external_eq_of_lookup_eq`, `Volume.overlay_eq_of_lookup_eq`: each half of a volume is
  decided by its own members
* `Volume.json_round_trip`: a volume is read back from the texts of all its forms
-/

namespace VolumeOverlay

/-! ### Values of members -/

namespace Document

/-- Entries of texts as a table, in their order. -/
def ofEntries (es : List (String × String)) : Document :=
  .table (es.map fun e => (e.1, .text e.2))

theorem textMap?_ofEntries {m : KeyMap String} {es : List (String × String)}
    (h : es.Perm m.entries) : (ofEntries es).textMap? = some m := by
  have hread : (es.map fun e => (e.1, Document.text e.2)).mapM namedText? = some es := by
    clear h
    induction es with
    | nil => rfl
    | cons e es ih =>
      rw [List.map_cons, List.mapM_cons, ih]
      rfl
  rw [ofEntries, textMap?, hread, Option.map_some,
    KeyMap.ofList_eq_of_mem_iff fun k v => by rw [h.mem_iff, KeyMap.find?_eq_some_iff]]

theorem int64?_ofInt64 (n : Int64) : (ofInt64 n).int64? = some n :=
  Text.Decimal.toInt64?_toInt n

theorem exact_ofEntries (es : List (String × String)) : (ofEntries es).Exact := by
  refine .table fun m hm => ?_
  obtain ⟨e, -, rfl⟩ := List.mem_map.1 hm
  exact .text e.2

theorem exact_ofInt64 (n : Int64) : (ofInt64 n).Exact := by
  have hlower : -2 ^ 63 ≤ n.toInt := n.le_toInt
  have hupper : n.toInt < 2 ^ 63 := n.toInt_lt
  have hsize : UInt64.size = 2 ^ 64 := rfl
  exact .integer (by omega)

theorem membersSound_eq_true_iff {depth : Nat} {ms : Members} :
    membersSound depth ms = true ↔ ∀ m ∈ ms, isSound depth m.2 = true := by
  induction ms with
  | nil => simp [membersSound]
  | cons m ms ih => rw [membersSound, Bool.and_eq_true, ih, List.forall_mem_cons]

theorem isSound_ofEntries (depth : Nat) (es : List (String × String)) :
    (ofEntries es).isSound (depth + 1) = true := by
  rw [ofEntries, isSound, Bool.and_eq_true, membersSound_eq_true_iff]
  refine ⟨rfl, fun m hm => ?_⟩
  obtain ⟨e, -, rfl⟩ := List.mem_map.1 hm
  rfl

theorem isSound_ofTexts (depth : Nat) (ss : List String) :
    (ofTexts ss).isSound (depth + 1) = true := by
  rw [ofTexts, isSound, Bool.and_eq_true]
  refine ⟨rfl, ?_⟩
  induction ss with
  | nil => rfl
  | cons s ss ih =>
    rw [List.map_cons, allSound, ih]
    rfl

end Document

open Document (Members ofEntries texts?_ofTexts textMap?_ofEntries int64?_ofInt64 exact_ofTexts
  exact_ofEntries exact_ofInt64 isSound_ofTexts isSound_ofEntries)

/-! ### External volumes -/

namespace ExternalVolume

theorem ofMembers?_eq_some_iff {ms : Members} {v : ExternalVolume} :
    ofMembers? ms = some v ↔
      ms.required "id" Document.text? = some v.id ∧
      ms.optional "name" Document.text? "" = some v.name ∧
      ms.optional "availabilityZone" Document.text? "" = some v.availabilityZone ∧
      ms.optional "size" Document.int64? 0 = some v.size ∧
      ms.optional "iops" Document.int64? 0 = some v.iops ∧
      ms.optional "type" Document.text? "" = some v.volumeType ∧
      ms.optional "status" Document.text? "" = some v.status ∧
      ms.optional "fields" Document.textMap? ∅ = some v.fields := by
  obtain ⟨id, name, zone, size, iops, type, status, fields⟩ := v
  simp [ofMembers?, Option.bind_eq_some_iff]

/-- An external volume is read from its own members. -/
theorem ofMembers?_congr {ms ms' : Members} (h : ∀ name ∈ names, ms.lookup name = ms'.lookup name) :
    ofMembers? ms = ofMembers? ms' := by
  simp only [names, List.forall_mem_cons] at h
  obtain ⟨hid, hname, hzone, hsize, hiops, htype, hstatus, hfields, -⟩ := h
  simp only [ofMembers?, Members.required, Members.optional, hid, hname, hzone, hsize, hiops, htype,
    hstatus, hfields]

end ExternalVolume

namespace Volume

/-! ### Members by name -/

/-- The names of a volume's members. -/
def names : List String :=
  ExternalVolume.names ++ overlayNames

theorem nodup_names : names.Nodup := by
  decide

theorem ofMembers?_eq_some_iff {ms : Members} {v : Volume} :
    ofMembers? ms = some v ↔
      ExternalVolume.ofMembers? ms = some v.external ∧
      ms.required "volumeid" OverlayId.ofDocument? = some v.overlayId ∧
      ms.required "serviceName" Document.text? = some v.serviceName ∧
      ms.optional "schedulers" Document.texts? [] = some v.schedulers ∧
      ms.optional "labels" Document.textMap? ∅ = some v.labels := by
  obtain ⟨external, overlayId, serviceName, schedulers, labels⟩ := v
  simp [ofMembers?, Option.bind_eq_some_iff]

theorem ofMembers?_congr {ms ms' : Members}
    (h : ∀ name ∈ names, ms.lookup name = ms'.lookup name) : ofMembers? ms = ofMembers? ms' := by
  simp only [names, List.forall_mem_append] at h
  obtain ⟨hexternal, hoverlay⟩ := h
  simp only [overlayNames, List.forall_mem_cons] at hoverlay
  obtain ⟨hid, hservice, hschedulers, hlabels, -⟩ := hoverlay
  simp only [ofMembers?, ExternalVolume.ofMembers?_congr hexternal, Members.required,
    Members.optional, hid, hservice, hschedulers, hlabels]

/-! ### Tables -/

/-- The members of a table that a volume is read from. -/
def known (ms : Members) : Members :=
  ms.filter fun m => names.contains m.1

/-- A table is read as a volume when all of it denotes values and no name of a member is repeated. -/
theorem ofDocument?_table (ms : Members) :
    ofDocument? (.table ms) =
      if (∀ m ∈ ms, Document.isSound (maxDepth - 1) m.2 = true) ∧ ((known ms).map (·.1)).Nodup then
        ofMembers? (known ms)
      else none := by
  have hsound : Document.isSound maxDepth (.table ms) = true ↔
      ∀ m ∈ ms, Document.isSound (maxDepth - 1) m.2 = true := by
    rw [Document.isSound, Bool.and_eq_true, Document.membersSound_eq_true_iff]
    exact and_iff_right rfl
  have hmembers : (Document.table ms).members? names .refused =
      if ((known ms).map (·.1)).Nodup then some (known ms) else none := rfl
  rw [ofDocument?, ← names, hmembers, ite_and]
  simp only [hsound]
  congr 1
  split
  · rfl
  · rfl

theorem known_perm {ms ms' : Members} (h : ms.Perm ms') : (known ms).Perm (known ms') :=
  h.filter _

/-- The order of the members of a volume does not matter. -/
theorem ofDocument?_perm {ms ms' : Members} (h : ms.Perm ms') :
    ofDocument? (.table ms) = ofDocument? (.table ms') := by
  have hknown : (known ms).Perm (known ms') := known_perm h
  have hsound : (∀ m ∈ ms, Document.isSound (maxDepth - 1) m.2 = true) ↔
      ∀ m ∈ ms', Document.isSound (maxDepth - 1) m.2 = true := by
    simp only [h.mem_iff]
  have hnodup : ((known ms).map (·.1)).Nodup ↔ ((known ms').map (·.1)).Nodup :=
    (hknown.map _).nodup_iff
  rw [ofDocument?_table, ofDocument?_table]
  simp only [hsound, hnodup]
  split
  · -- No name is repeated, so a lookup finds the same in both.
    rename_i h'
    exact ofMembers?_congr fun name _ => KeyMap.lookup_eq_of_perm hknown h'.2 name
  · rfl

/-! ### Defaults -/

/-- The members that have a default, each with its own. -/
def defaults : Members :=
  [("name", .text ""), ("availabilityZone", .text ""), ("size", .integer 0), ("iops", .integer 0),
    ("type", .text ""), ("status", .text ""), ("fields", .table []), ("schedulers", .list []),
    ("labels", .table [])]

section Dropping

variable {α : Type} {ms dropped : Members} {name : String} {read : Document → Option α}

theorem mem_defaults_of_lookup (h : dropped ⊆ defaults) {d : Document}
    (hlookup : dropped.lookup name = some d) : (name, d) ∈ defaults := by
  obtain ⟨before, after, rfl, -⟩ := List.lookup_eq_some_iff.1 hlookup
  exact h (List.mem_append_right _ List.mem_cons_self)

/-- A member is read alike whether it stands there with its default or is missing. -/
theorem optional_append (h : dropped ⊆ defaults) {default : α}
    (hread : ∀ m ∈ defaults, m.1 = name → read m.2 = some default) :
    Members.optional (ms ++ dropped) name read default =
      Members.optional ms name read default := by
  rw [Members.optional, Members.optional, List.lookup_append]
  cases ms.lookup name with
  | some d => rfl
  | none =>
    -- What was dropped under this name, if anything, is read as the default.
    rw [Option.none_or]
    cases hlookup : dropped.lookup name with
    | none => rfl
    | some d => exact hread (name, d) (mem_defaults_of_lookup h hlookup) rfl

/-- A member that has to be there has no default. -/
theorem required_append (h : dropped ⊆ defaults) (hname : name ∉ defaults.map (·.1)) :
    Members.required (ms ++ dropped) name read = Members.required ms name read := by
  have hnone : dropped.lookup name = none := by
    cases hlookup : dropped.lookup name with
    | none => rfl
    | some d => exact absurd (List.mem_map_of_mem (mem_defaults_of_lookup h hlookup)) hname
  rw [Members.required, Members.required, List.lookup_append, hnone, Option.or_none]

theorem ofMembers?_append (h : dropped ⊆ defaults) :
    ofMembers? (ms ++ dropped) = ofMembers? ms := by
  -- What each member is read as by default is compared with its entry in `defaults`.
  simp (disch := decide) only [ofMembers?, ExternalVolume.ofMembers?, optional_append h,
    required_append h]

/-- A member that has its default may as well be dropped. -/
theorem ofDocument?_append (h : dropped ⊆ defaults)
    (hnodup : ((known (ms ++ dropped)).map (·.1)).Nodup) :
    ofDocument? (.table (ms ++ dropped)) = ofDocument? (.table ms) := by
  have hknown : known (ms ++ dropped) = known ms ++ known dropped := List.filter_append ..
  have hdefaults : known dropped ⊆ defaults := fun m hm => h (List.mem_of_mem_filter hm)
  have hsound : ∀ m ∈ dropped, Document.isSound (maxDepth - 1) m.2 = true := by
    have hall : ∀ m ∈ defaults, Document.isSound (maxDepth - 1) m.2 = true := by decide
    exact fun m hm => hall m (h hm)
  have hnodup' : ((known ms).map (·.1)).Nodup := by
    rw [hknown, List.map_append] at hnodup
    exact (List.nodup_append.1 hnodup).1
  rw [ofDocument?_table, ofDocument?_table]
  simp only [hnodup, hnodup', and_true, List.forall_mem_append, and_iff_left hsound]
  rw [hknown, ofMembers?_append hdefaults]

end Dropping

/-! ### Forms -/

/-- The twelve members of a volume, with the entries of its maps in the order given. -/
def allMembers (v : Volume) (fields labels : List (String × String)) : Members :=
  [("id", .text v.external.id), ("name", .text v.external.name),
    ("availabilityZone", .text v.external.availabilityZone), ("size", .ofInt64 v.external.size),
    ("iops", .ofInt64 v.external.iops), ("type", .text v.external.volumeType),
    ("status", .text v.external.status), ("fields", ofEntries fields),
    ("volumeid", .text v.overlayId.text), ("serviceName", .text v.serviceName),
    ("schedulers", .ofTexts v.schedulers), ("labels", ofEntries labels)]

/-- Members that stand for a volume: all that it has, with the entries of its maps in any order; the
same in another order; and the same without a member that has its default. -/
inductive IsForm (v : Volume) : Members → Prop where
  | all {fields labels : List (String × String)} (hfields : fields.Perm v.external.fields.entries)
      (hlabels : labels.Perm v.labels.entries) : IsForm v (v.allMembers fields labels)
  | perm {ms ms' : Members} (h : IsForm v ms) (hperm : ms.Perm ms') : IsForm v ms'
  | drop {m : String × Document} {ms : Members} (h : IsForm v (m :: ms)) (hm : m ∈ defaults) :
      IsForm v ms

variable {v : Volume} {fields labels : List (String × String)} {ms : Members}

theorem nodup_allMembers : ((v.allMembers fields labels).map (·.1)).Nodup := nodup_names

theorem known_allMembers : known (v.allMembers fields labels) = v.allMembers fields labels := rfl

theorem ofMembers?_allMembers (hfields : fields.Perm v.external.fields.entries)
    (hlabels : labels.Perm v.labels.entries) :
    ofMembers? (v.allMembers fields labels) = some v := by
  rw [ofMembers?_eq_some_iff, ExternalVolume.ofMembers?_eq_some_iff]
  exact ⟨⟨rfl, rfl, rfl, int64?_ofInt64 _, int64?_ofInt64 _, rfl, rfl, textMap?_ofEntries hfields⟩,
    rfl, rfl, texts?_ofTexts _, textMap?_ofEntries hlabels⟩

/-- All the members of a volume together are read as it. -/
theorem ofDocument?_allMembers (hfields : fields.Perm v.external.fields.entries)
    (hlabels : labels.Perm v.labels.entries) :
    ofDocument? (.table (v.allMembers fields labels)) = some v := by
  have hsound : ∀ m ∈ v.allMembers fields labels, Document.isSound (maxDepth - 1) m.2 = true := by
    simp only [allMembers, List.forall_mem_cons]
    exact ⟨rfl, rfl, rfl, rfl, rfl, rfl, rfl, isSound_ofEntries _ _, rfl, rfl, isSound_ofTexts _ _,
      isSound_ofEntries _ _, fun _ h => nomatch h⟩
  rw [ofDocument?_table, known_allMembers, if_pos ⟨hsound, nodup_allMembers⟩,
    ofMembers?_allMembers hfields hlabels]

theorem IsForm.nodup (h : v.IsForm ms) : (ms.map (·.1)).Nodup := by
  induction h with
  | all => exact nodup_allMembers
  | perm _ hperm ih => exact (hperm.map _).nodup_iff.1 ih
  | drop _ _ ih => exact (List.nodup_cons.1 ih).2

/-- Every form of a volume is read as it. -/
theorem IsForm.ofDocument?_eq (h : v.IsForm ms) : ofDocument? (.table ms) = some v := by
  induction h with
  | all hfields hlabels => exact ofDocument?_allMembers hfields hlabels
  | perm _ hperm ih => rw [← ofDocument?_perm hperm, ih]
  | @drop m ms h hm ih =>
    -- A lookup prefers what stands in front, so the member is moved to the end first.
    have hperm : (ms ++ [m]).Perm (m :: ms) := List.perm_append_singleton m ms
    have hnodup : ((known (ms ++ [m])).map (·.1)).Nodup :=
      (((hperm.map _).nodup_iff.2 h.nodup).sublist (List.filter_sublist.map _))
    rw [← ofDocument?_append (List.cons_subset.2 ⟨hm, List.nil_subset _⟩) hnodup,
      ofDocument?_perm hperm, ih]

theorem IsForm.exact (h : v.IsForm ms) : ∀ m ∈ ms, m.2.Exact := by
  induction h with
  | all =>
    simp only [allMembers, List.forall_mem_cons]
    exact ⟨.text _, .text _, .text _, exact_ofInt64 _, exact_ofInt64 _, .text _, .text _,
      exact_ofEntries _, .text _, .text _, exact_ofTexts _, exact_ofEntries _,
      fun _ h => nomatch h⟩
  | perm _ hperm ih => exact fun m hm => ih m (hperm.mem_iff.2 hm)
  | drop _ _ ih => exact fun m hm => ih m (List.mem_cons_of_mem _ hm)

theorem IsForm.drop_append {dropped : Members} (h : v.IsForm (dropped ++ ms))
    (hdropped : ∀ m ∈ dropped, m ∈ defaults) : v.IsForm ms := by
  induction dropped with
  | nil => exact h
  | cons m dropped ih =>
    obtain ⟨hm, hdropped⟩ := List.forall_mem_cons.1 hdropped
    exact ih (.drop h hm) hdropped

/-- Any members that have their default may be dropped. -/
theorem IsForm.filter (h : v.IsForm ms) (keep : String × Document → Bool)
    (hkeep : ∀ m ∈ ms, keep m = false → m ∈ defaults) : v.IsForm (ms.filter keep) := by
  have hperm : ms.Perm ((ms.filter fun m => !keep m) ++ ms.filter keep) :=
    (List.filter_append_perm keep ms).symm.trans List.perm_append_comm
  refine (h.perm hperm).drop_append fun m hm => ?_
  obtain ⟨hmem, hdropped⟩ := List.mem_filter.1 hm
  exact hkeep m hmem (by simpa using hdropped)

/-- Whether a member of a volume is written: empty fields and schedulers are left out. -/
def isWritten (v : Volume) (m : String × Document) : Bool :=
  !(m.1 == "fields" && v.external.fields.isEmpty) && !(m.1 == "schedulers" && v.schedulers.isEmpty)

theorem toDocument_eq_filter (v : Volume) :
    v.toDocument =
      .table ((v.allMembers v.external.fields.entries v.labels.entries).filter v.isWritten) := by
  have htable : ∀ m : KeyMap String, Document.ofTextMap m = ofEntries m.entries := fun _ => rfl
  rw [toDocument, ExternalVolume.toMembers]
  -- Four cases: each of the two members that may be left out is there or not.
  cases hfields : v.external.fields.isEmpty <;> cases hschedulers : v.schedulers.isEmpty <;>
    simp [allMembers, isWritten, hfields, hschedulers, htable]

/-- What is written for a volume is a form of it. -/
theorem isForm_written (v : Volume) :
    v.IsForm ((v.allMembers v.external.fields.entries v.labels.entries).filter v.isWritten) := by
  refine IsForm.filter (.all (.refl _) (.refl _)) _ fun m hmem hdropped => ?_
  obtain ⟨name, d⟩ := m
  have hempty : name = "fields" ∧ v.external.fields.isEmpty = true ∨
      name = "schedulers" ∧ v.schedulers.isEmpty = true := by
    simpa [isWritten, imp_iff_not_or, -List.isEmpty_iff] using hdropped
  -- A name tells which member it is, and the member that is not written is empty.
  have hlookup := (KeyMap.lookup_eq_some_iff_mem nodup_allMembers).2 hmem
  rcases hempty with ⟨rfl, hempty⟩ | ⟨rfl, hempty⟩
  · obtain rfl : ofEntries v.external.fields.entries = d := Option.some.inj hlookup
    rw [List.isEmpty_iff.1 hempty]
    simp [defaults, ofEntries]
  · obtain rfl : Document.ofTexts v.schedulers = d := Option.some.inj hlookup
    rw [List.isEmpty_iff.1 hempty]
    simp [defaults, Document.ofTexts]

/-! ### Members apart -/

theorem lookup_known {name : String} (hname : name ∈ names) :
    (known ms).lookup name = ms.lookup name :=
  KeyMap.lookup_filter_of_pos (List.contains_iff_mem.2 hname) ms

theorem ofMembers?_of_ofDocument? (h : ofDocument? (.table ms) = some v) :
    ofMembers? (known ms) = some v := by
  rw [ofDocument?_table] at h
  split at h
  · exact h
  · cases h

/-- The overlay of a volume is read from its own members. -/
theorem overlay_congr {ms' : Members} {v' : Volume} (hv : ofMembers? ms = some v)
    (hv' : ofMembers? ms' = some v') (h : ∀ name ∈ overlayNames, ms.lookup name = ms'.lookup name) :
    { v with external := v'.external } = v' := by
  simp only [overlayNames, List.forall_mem_cons] at h
  obtain ⟨hid, hservice, hschedulers, hlabels, -⟩ := h
  simp only [ofMembers?_eq_some_iff, Members.required, Members.optional, hid, hservice, hschedulers,
    hlabels] at hv hv'
  obtain ⟨-, hid, hservice, hschedulers, hlabels⟩ := hv
  obtain ⟨-, hid', hservice', hschedulers', hlabels'⟩ := hv'
  obtain ⟨external, overlayId, serviceName, schedulers, labels⟩ := v'
  congr 1
  · exact Option.some.inj (hid.symm.trans hid')
  · exact Option.some.inj (hservice.symm.trans hservice')
  · exact Option.some.inj (hschedulers.symm.trans hschedulers')
  · exact Option.some.inj (hlabels.symm.trans hlabels')

/-- The members of the overlay do not reach into the external volume. -/
theorem external_eq_of_lookup_eq {ms' : Members} {v' : Volume}
    (hv : ofDocument? (.table ms) = some v) (hv' : ofDocument? (.table ms') = some v')
    (h : ∀ name ∈ ExternalVolume.names, ms.lookup name = ms'.lookup name) :
    v.external = v'.external := by
  have hexternal := (ofMembers?_eq_some_iff.1 (ofMembers?_of_ofDocument? hv)).1
  have hexternal' := (ofMembers?_eq_some_iff.1 (ofMembers?_of_ofDocument? hv')).1
  have hsame : ExternalVolume.ofMembers? (known ms) = ExternalVolume.ofMembers? (known ms') :=
    ExternalVolume.ofMembers?_congr fun name hname => by
      have hknown : name ∈ names := List.mem_append_left _ hname
      rw [lookup_known hknown, lookup_known hknown, h name hname]
  exact Option.some.inj (hexternal.symm.trans (hsame.trans hexternal'))

/-- The members of the external volume do not reach into the overlay. -/
theorem overlay_eq_of_lookup_eq {ms' : Members} {v' : Volume}
    (hv : ofDocument? (.table ms) = some v) (hv' : ofDocument? (.table ms') = some v')
    (h : ∀ name ∈ overlayNames, ms.lookup name = ms'.lookup name) :
    { v with external := v'.external } = v' :=
  overlay_congr (ofMembers?_of_ofDocument? hv) (ofMembers?_of_ofDocument? hv') fun name hname => by
    have hknown : name ∈ names := List.mem_append_right _ hname
    rw [lookup_known hknown, lookup_known hknown, h name hname]

/-! ### Texts of JSON -/

/-- The volume that a JSON text denotes. -/
def ofJson? (s : String) : Option Volume :=
  (Document.ofJson? s).bind ofDocument?

/-- Every JSON text that spells a form of a volume denotes it. -/
theorem IsForm.ofJson?_of_spells (h : v.IsForm ms) {s : String}
    (hs : Document.Json.Spells s.toList (.table ms)) : ofJson? s = some v := by
  rw [ofJson?, Document.ofJson?_of_spells hs, Option.bind_some, h.ofDocument?_eq]

/-- A volume is read back from its JSON texts. It is read as well from any object that has its
members in another order, or lacks some that have their default. The names of the external volume and
those of the overlay are different, and what stands under the ones decides nothing about what is read
from the others. -/
theorem json_round_trip (v : Volume) :
    (ofJson? v.toDocument.compact = some v ∧ ofJson? v.toDocument.pretty = some v) ∧
    (∃ ms, v.toDocument = .table ms ∧ v.IsForm ms ∧ (ms.map (·.1)).Nodup) ∧
    (∀ ms, v.IsForm ms → ofJson? (Document.table ms).compact = some v ∧
      ofJson? (Document.table ms).pretty = some v) ∧
    ExternalVolume.names.Disjoint overlayNames ∧
    ∀ ms ms' v', ofDocument? (.table ms) = some v → ofDocument? (.table ms') = some v' →
      ((∀ name ∈ ExternalVolume.names, ms.lookup name = ms'.lookup name) →
        v.external = v'.external) ∧
      ((∀ name ∈ overlayNames, ms.lookup name = ms'.lookup name) →
        { v with external := v'.external } = v') := by
  have hforms : ∀ ms, v.IsForm ms → ofJson? (Document.table ms).compact = some v ∧
      ofJson? (Document.table ms).pretty = some v := by
    intro ms h
    have hexact : (Document.table ms).Exact := .table h.exact
    exact ⟨h.ofJson?_of_spells (Document.spells_compact hexact),
      h.ofJson?_of_spells (Document.spells_pretty hexact)⟩
  have hwritten := isForm_written v
  refine ⟨?_, ⟨_, toDocument_eq_filter v, hwritten, hwritten.nodup⟩, hforms, ?_,
    fun ms ms' v' hv hv' => ?_⟩
  · rw [toDocument_eq_filter]
    exact hforms _ hwritten
  · exact fun name hexternal hoverlay =>
      (List.nodup_append.1 nodup_names).2.2 name hexternal name hoverlay rfl
  · exact ⟨external_eq_of_lookup_eq hv hv', overlay_eq_of_lookup_eq hv hv'⟩

/-- A volume whose id has a line break and a quote is read from an object that has its members in
reverse order and none of its defaults. Without the labels the external volume is the same. -/
theorem json_round_trip_reversed :
    ofJson? (Document.table
      [("labels", ofEntries [("tier", "2"), ("owner", "é")]), ("serviceName", .text "mock"),
        ("volumeid", .text "mock-v"), ("size", .integer (-8)), ("id", .text "v\n\"")]).compact =
      some ⟨{ id := "v\n\"", size := -8 }, ⟨"mock-v"⟩, "mock", [],
        .ofList [("owner", "é"), ("tier", "2")]⟩ ∧
    ∃ v, ofDocument? (.table [("serviceName", .text "mock"), ("volumeid", .text "mock-v"),
        ("size", .integer (-8)), ("id", .text "v\n\"")]) = some v ∧
      v.external = { id := "v\n\"", size := -8 } := by
  have hall : IsForm ⟨{ id := "v\n\"", size := -8 }, ⟨"mock-v"⟩, "mock", [],
      .ofList [("owner", "é"), ("tier", "2")]⟩ _ := .all (.refl _) (.swap _ _ _)
  have hkept := hall.filter
    (fun m => ["id", "size", "volumeid", "serviceName", "labels"].contains m.1) <| by
      simp [allMembers, defaults, ofEntries, Document.ofTexts]
      exact ⟨rfl, rfl⟩
  have hform := hkept.perm (List.reverse_perm _).symm
  have hother : ofDocument? (.table [("serviceName", .text "mock"), ("volumeid", .text "mock-v"),
      ("size", .integer (-8)), ("id", .text "v\n\"")]) =
      some ⟨{ id := "v\n\"", size := -8 }, ⟨"mock-v"⟩, "mock", [], ∅⟩ := rfl
  have happart := (json_round_trip _).2.2.2.2 _ _ _ hform.ofDocument?_eq hother
  refine ⟨((json_round_trip _).2.2.1 _ hform).1, _, hother, (happart.1 ?_).symm⟩
  simp only [ExternalVolume.names, List.forall_mem_cons]
  exact ⟨rfl, rfl, rfl, rfl, rfl, rfl, rfl, rfl, fun _ h => nomatch h⟩

end Volume

end VolumeOverlay
