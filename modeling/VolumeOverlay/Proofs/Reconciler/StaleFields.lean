import VolumeOverlay.Proofs.Reconciler.ReadRepair
import VolumeOverlay.Proofs.Store.Footprint

/-!
# Fields that outlive their volume

A store that mirrors fields merges what it has stored into the fields that the provider reports, and a
listing writes the merged fields back. A field that the provider has dropped is therefore found in the
mirror, reported again, and stored again. After a listing the mirror of a volume holds what the
provider reports of it just when there was nothing else in the mirror before.

## Main definitions

* `Store.mirrorKey id`: the subtree of mirrored fields
* `Store.MirrorHolds id fields es`: the leaves of a mirror are those of given fields
* `Store.Refreshed`, `Store.Refreshes`: what writing loaded volumes does to a mirror

## Main results

* `Store.Refreshes.contains_of_contains`: no name is lost from a mirror that is refreshed
* `Store.Refreshes.holds_of_covered`: a mirror without further names follows what is reported
* `Reconciler.refreshes_of_exec_mapM`: a listing refreshes the mirrors of the volumes that it shows
* `Reconciler.mirror_follows_iff`: when the mirror follows the provider
-/

namespace VolumeOverlay

open Actions
open Text (hasPrefix)

/-! ### The mirror of a volume -/

namespace Store

variable {store : Store} {a : OverlayId} {id : String} {es es' es₁ : Entries} {v w : Volume}
  {fields : LabelMap} {fs : List LabelMap}

/-- The subtree of the mirrored fields of an id. -/
def mirrorKey (store : Store) (id : String) : String :=
  store.layout.subtree .externalFields id

/-- The mirror of an id holds given fields: each stands under its own leaf, and there are no other
leaves. -/
def MirrorHolds (store : Store) (id : String) (fields : LabelMap) (es : Entries) : Prop :=
  ∀ leaf, leaf ≠ "" → '/' ∉ leaf.toList →
    es.find? (store.mirrorKey id ++ leaf) = (fields.find? leaf).map Text.Utf8.encode

/-- Two states of the entries in which the mirror of an id is the same. -/
abbrev SameMirror (store : Store) (id : String) (es es' : Entries) : Prop :=
  AgreeOn (fun k => hasPrefix (store.mirrorKey id) k) es es'

theorem MirrorHolds.congr (h : store.MirrorHolds id fields es) (hes : store.SameMirror id es es') :
    store.MirrorHolds id fields es' := by
  intro leaf hne hslash
  rw [← hes _ (Text.hasPrefix_append _ _)]
  exact h leaf hne hslash

theorem MirrorHolds.contains_iff (h : store.MirrorHolds id fields es) {leaf : String}
    (hleaf : isLeaf leaf = true) :
    es.contains (store.mirrorKey id ++ leaf) ↔ fields.contains leaf := by
  rw [KeyMap.contains, h leaf (ne_empty_of_isLeaf hleaf) (slash_notMem_of_isLeaf hleaf),
    Option.isSome_map, KeyMap.contains]

/-- A mirror holds one map of fields only, if their names can be leaves. -/
theorem MirrorHolds.unique {fields' : LabelMap} (h : store.MirrorHolds id fields es)
    (h' : store.MirrorHolds id fields' es) (hleaf : checkLeaves fields.keys = .ok ())
    (hleaf' : checkLeaves fields'.keys = .ok ()) : fields = fields' := by
  apply KeyMap.ext_find?
  intro name
  by_cases hname : isLeaf name = true
  · have hne := ne_empty_of_isLeaf hname
    have hslash := slash_notMem_of_isLeaf hname
    have hsame := (h name hne hslash).symm.trans (h' name hne hslash)
    exact Option.map_injective (fun _ _ => Text.Utf8.encode_injective) hsame
  · -- A name that cannot be a leaf is a name of neither.
    have hnone : ∀ {fields : LabelMap}, checkLeaves fields.keys = .ok () →
        fields.find? name = none := by
      intro fields hcheck
      refine Option.eq_none_iff_forall_ne_some.2 fun value hvalue => hname ?_
      exact checkLeaves_eq_ok_iff.1 hcheck name (KeyMap.mem_keys.2 ⟨value, hvalue⟩)
    rw [hnone hleaf, hnone hleaf']

/-! ### Writing back what was loaded -/

/-- A record that is written has its own fields in the mirror. -/
theorem mirrorHolds_recorded (hp : store.persistFields = true)
    (hlabels : checkLeaves w.labels.keys = .ok ()) (hfields : store.checkMirrored w = .ok ()) :
    store.MirrorHolds w.overlayId.text w.external.fields (store.recorded w es) := by
  intro leaf hne hslash
  cases hfind : w.external.fields.find? leaf with
  | some value =>
    have hmem : (leaf, value) ∈ w.external.fields.toList := KeyMap.find?_eq_some_iff.1 hfind
    exact find?_recorded_of_sets hlabels hfields (.field hp (.text hmem)) es
  | none =>
    have hunwanted : leaf ∉ w.external.fields.toList.map (·.1) := by
      intro hmem
      obtain ⟨value, hvalue⟩ := KeyMap.mem_keys.1 hmem
      rw [hfind] at hvalue
      cases hvalue
    have hstale : isStale (w.external.fields.toList.map (·.1))
        (store.mirrorKey w.overlayId.text ++ leaf) = true :=
      (Entries.isStale_subtree hslash).2 ⟨hne, hunwanted⟩
    exact find?_recorded_of_sets hlabels hfields
      (.field hp (.stale (Text.hasPrefix_append _ _) hstale)) es

/-- Deeper keys included, the mirror of a record that is written has no names but those of its
fields. -/
theorem contains_of_texts_recorded (hp : store.persistFields = true)
    (hlabels : checkLeaves w.labels.keys = .ok ()) (hfields : store.checkMirrored w = .ok ())
    {name : String}
    (hname : ((store.recorded w es).texts (store.mirrorKey w.overlayId.text)).contains name) :
    w.external.fields.contains name := by
  obtain ⟨hne, k, hk, hthere, hleaf⟩ := Entries.contains_texts_iff.1 hname
  refine Decidable.byContradiction fun hunwanted => ?_
  have hstale : isStale (w.external.fields.toList.map (·.1)) k = true := by
    have hnotMem : name ∉ w.external.fields.toList.map (·.1) := fun hmem =>
      hunwanted (KeyMap.contains_iff.2 (KeyMap.mem_keys.1 hmem))
    rw [isStale, hleaf]
    simpa using ⟨hne, fun value hvalue => hnotMem (List.mem_map_of_mem hvalue)⟩
  rw [KeyMap.contains, find?_recorded_of_sets hlabels hfields (.field hp (.stale hk hstale))] at hthere
  cases hthere

/-- What writing a loaded volume back does to its mirror, when the provider reports `fields`. The
mirror then holds these and what it held besides, all under names that can be leaves. -/
structure Refreshed (store : Store) (id : String) (fields : LabelMap) (es es' : Entries) : Prop where
  isLeaf : ∀ name, (fields.orElse (es.texts (store.mirrorKey id))).contains name →
    isLeaf name = true
  holds : store.MirrorHolds id (fields.orElse (es.texts (store.mirrorKey id))) es'
  names : ∀ name, (es'.texts (store.mirrorKey id)).contains name →
    (fields.orElse (es.texts (store.mirrorKey id))).contains name

/-- A loaded volume that is written back has its mirror refreshed. -/
theorem refreshed_of_written (hp : store.persistFields = true) (hv : store.loaded v es = .ok (some w))
    (hw : store.written w es = (.ok (), es')) :
    store.Refreshed v.overlayId.text v.external.fields es es' := by
  obtain ⟨entry, rfl⟩ := eq_merge_of_loaded hv
  rw [if_pos hp] at hw
  obtain ⟨hlabels, hfields, rfl⟩ := written_eq_ok_iff.1 hw
  refine ⟨fun name hname => ?_, mirrorHolds_recorded hp hlabels hfields,
    fun name hname => contains_of_texts_recorded hp hlabels hfields hname⟩
  rw [checkMirrored_eq_ok_iff hp, checkLeaves_eq_ok_iff] at hfields
  exact hfields name (KeyMap.mem_keys.2 (KeyMap.contains_iff.1 hname))

/-- A record that is written leaves the mirrors of other ids as they were. -/
theorem sameMirror_of_written (hw : store.written w es = (.ok (), es')) (ha : w.overlayId.Apart a) :
    store.SameMirror a.text es es' := by
  obtain ⟨-, -, rfl⟩ := written_eq_ok_iff.1 hw
  intro k hk
  refine (find?_recorded_of_not_sets (fun b hset => ?_) es).symm
  exact hset.inRecord.not_of_apart ha (inRecord_of_hasPrefix hk (by decide))

/-! ### Refreshing a mirror again and again -/

/-- What a listing does to the mirror of an id: it is refreshed with the fields of a list, one after
the other, and not touched otherwise. -/
inductive Refreshes (store : Store) (id : String) : List LabelMap → Entries → Entries → Prop
  | untouched {es es' : Entries} (h : store.SameMirror id es es') : Refreshes store id [] es es'
  | refresh {fields : LabelMap} {fs : List LabelMap} {es es₁ es' : Entries}
    (h : store.Refreshed id fields es es₁) (rest : Refreshes store id fs es₁ es') :
    Refreshes store id (fields :: fs) es es'

namespace Refreshes

/-- What leaves the mirror as it is may come first. -/
theorem of_sameMirror (hes : store.SameMirror id es es₁) (h : store.Refreshes id fs es₁ es') :
    store.Refreshes id fs es es' := by
  cases h with
  | untouched h => exact .untouched fun k hk => (hes k hk).trans (h k hk)
  | refresh h rest =>
    have htexts : es.texts (store.mirrorKey id) = es₁.texts (store.mirrorKey id) :=
      Entries.texts_congr hes
    refine .refresh ⟨?_, ?_, ?_⟩ rest
    · rw [htexts]
      exact h.isLeaf
    · rw [htexts]
      exact h.holds
    · rw [htexts]
      exact h.names

/-- A mirror that is refreshed loses no name: what it held at the outset stands under a leaf at the
end. -/
theorem contains_of_contains (h : store.Refreshes id fs es es') (hfs : fs ≠ []) {name : String}
    (hname : (es.texts (store.mirrorKey id)).contains name) :
    isLeaf name = true ∧ es'.contains (store.mirrorKey id ++ name) := by
  induction h with
  | untouched _ => exact absurd rfl hfs
  | @refresh fields fs es es₁ es' h rest ih =>
    have hmerged := KeyMap.contains_orElse_iff (m := fields).2 (.inr hname)
    have hleaf := h.isLeaf name hmerged
    have hthere := (h.holds.contains_iff hleaf).2 hmerged
    cases rest with
    | untouched hsame =>
      refine ⟨hleaf, ?_⟩
      rw [← KeyMap.contains_eq_of_find?_eq (hsame _ (Text.hasPrefix_append _ _))]
      exact hthere
    | refresh h' rest' =>
      -- The leaf is read again when the mirror is refreshed the next time.
      refine ih (List.cons_ne_nil _ _) (Entries.contains_texts_iff.2 ⟨ne_empty_of_isLeaf hleaf, ?_⟩)
      exact ⟨_, Text.hasPrefix_append _ _, hthere, leafOf_subtree (slash_notMem_of_isLeaf hleaf)⟩

/-- A mirror that is refreshed with the same fields each time, and that had no other names, holds
these fields. -/
theorem holds_of_covered (h : store.Refreshes id fs es es') (hfs : fs ≠ [])
    (hsame : ∀ f ∈ fs, f = fields)
    (hcovered : ∀ name, (es.texts (store.mirrorKey id)).contains name → fields.contains name) :
    store.MirrorHolds id fields es' := by
  induction h with
  | untouched _ => exact absurd rfl hfs
  | @refresh f fs es es₁ es' h rest ih =>
    rw [List.forall_mem_cons] at hsame
    obtain ⟨rfl, hrest⟩ := hsame
    have hmerged := KeyMap.orElse_eq_self hcovered
    have hholds := h.holds
    rw [hmerged] at hholds
    cases rest with
    | untouched hsame => exact hholds.congr hsame
    | refresh h' rest' =>
      refine ih (List.cons_ne_nil _ _) hrest fun name hname => ?_
      have hnames := h.names name hname
      rwa [hmerged] at hnames

/-- A mirror that is refreshed once holds what is reported, and what it held besides. -/
theorem holds_of_single (h : store.Refreshes id [fields] es es') :
    store.MirrorHolds id (fields.orElse (es.texts (store.mirrorKey id))) es' := by
  cases h with
  | refresh h rest =>
    cases rest with
    | untouched hsame => exact h.holds.congr hsame

end Refreshes

end Store

/-! ### Listings -/

namespace Reconciler

open ReconcilerM

variable {π : Type} [VolumeProvider π] {store : Store} {p : π} {filter : Filter} {es : Entries}
  {s : Reliable} {v w : Volume} {vs ws : List Volume} {w' : World π Reliable}

omit [VolumeProvider π] in
/-- A volume whose record is required is loaded, if it is registered. -/
theorem exec_reconcile_required (hid : sanitize v.overlayId.text ≠ "") :
    exec (reconcile store v .required : ReconcilerM π Reliable _) ⟨p, es, s⟩ =
      ((store.loaded v es).mapError .store, ⟨p, es, s⟩) := by
  unfold reconcile
  rw [exec_bind, exec_load p es s hid]
  rcases store.loaded v es with e | _ | w <;> rfl

omit [VolumeProvider π] in
/-- A volume of a listing is passed over, or it is loaded, shown and written back. -/
theorem listOne_cases {answer : Option Volume} (hid : sanitize v.overlayId.text ≠ "")
    (h : exec (listOne store filter v : ReconcilerM π Reliable _) ⟨p, es, s⟩ = (.ok answer, w')) :
    (answer = none ∧ w' = ⟨p, es, s⟩) ∨
      ∃ w es', answer = some w ∧ store.loaded v es = .ok (some w) ∧
        store.written w es = (.ok (), es') ∧ w' = ⟨p, es', s⟩ := by
  unfold listOne at h
  rcases exec_bind_cases h with ⟨e, -, he⟩ | ⟨found, w₁, hfound, hrest⟩
  · cases he
  rw [exec_reconcile_required hid] at hfound
  obtain ⟨hloaded, rfl⟩ := Prod.mk.inj hfound
  rw [mapError_eq_ok_iff] at hloaded
  cases found with
  | none =>
    obtain ⟨hanswer, rfl⟩ := Prod.mk.inj hrest
    exact .inl ⟨(Except.ok.inj hanswer).symm, rfl⟩
  | some w =>
    dsimp only at hrest
    split at hrest
    · rcases exec_bind_cases hrest with ⟨e, -, he⟩ | ⟨_, w₂, hsave, hshown⟩
      · cases he
      rw [← Store.overlayId_of_loaded hloaded] at hid
      rw [exec_save p es s hid] at hsave
      obtain ⟨hok, rfl⟩ := Prod.mk.inj hsave
      obtain ⟨hanswer, rfl⟩ := Prod.mk.inj hshown
      refine .inr ⟨w, _, (Except.ok.inj hanswer).symm, hloaded, ?_, rfl⟩
      exact Prod.ext (mapError_eq_ok_iff.1 hok) rfl
    · obtain ⟨hanswer, rfl⟩ := Prod.mk.inj hrest
      exact .inl ⟨(Except.ok.inj hanswer).symm, rfl⟩

omit [VolumeProvider π] in
/-- A listing refreshes the mirror of an id once for each volume with that id that it shows. -/
theorem refreshes_of_exec_mapM (hp : store.persistFields = true) {a : OverlayId} (ha : a.IsPlain)
    (hvs : ∀ v ∈ vs, v.overlayId.IsPlain) {answers : List (Option Volume)}
    (h : exec (vs.mapM (listOne store filter) : ReconcilerM π Reliable _) ⟨p, es, s⟩ =
      (.ok answers, w')) :
    ∃ fs, store.Refreshes a.text fs es w'.medium.entries ∧
      fs.Sublist ((vs.filter (·.overlayId = a)).map (·.external.fields)) ∧
      fs.length = ((answers.filterMap id).filter (·.overlayId = a)).length := by
  induction vs generalizing es answers with
  | nil =>
    rw [List.mapM_nil] at h
    obtain ⟨hanswers, rfl⟩ := Prod.mk.inj h
    obtain rfl := Except.ok.inj hanswers
    exact ⟨[], .untouched fun _ _ => rfl, List.nil_sublist _, rfl⟩
  | cons v vs ih =>
    rw [List.forall_mem_cons] at hvs
    obtain ⟨hv, hvs⟩ := hvs
    rw [List.mapM_cons] at h
    rcases exec_bind_cases h with ⟨e, -, he⟩ | ⟨answer, w₁, hone, hrest⟩
    · cases he
    rcases exec_bind_cases hrest with ⟨e, -, he⟩ | ⟨answers', w₂, hall, hlast⟩
    · cases he
    obtain ⟨hanswers, rfl⟩ := Prod.mk.inj hlast
    obtain rfl := Except.ok.inj hanswers
    rcases listOne_cases hv.sanitize_ne_empty hone with
      ⟨rfl, rfl⟩ | ⟨w, es₁, rfl, hloaded, hwritten, rfl⟩
    · obtain ⟨fs, hfs, hsub, hlength⟩ := ih hvs hall
      exact ⟨fs, hfs, hsub.trans (((List.sublist_cons_self v vs).filter _).map _), hlength⟩
    · obtain ⟨fs, hfs, hsub, hlength⟩ := ih hvs hall
      have hw := Store.overlayId_of_loaded hloaded
      by_cases hva : v.overlayId = a
      · subst hva
        refine ⟨v.external.fields :: fs, .refresh (Store.refreshed_of_written hp hloaded hwritten) hfs,
          ?_, ?_⟩
        · simpa using hsub
        · simpa [hw] using hlength
      · have hsame := Store.sameMirror_of_written (a := a) hwritten (hw ▸ hv.apart ha hva)
        refine ⟨fs, hfs.of_sameMirror hsame, ?_, ?_⟩
        · simpa [hva] using hsub
        · simpa [hw, hva] using hlength

/-- Volumes that are shown have ids of live volumes, which are plain. -/
theorem isPlain_of_shown (hlive : ∀ v, Listed p v → v.overlayId.IsPlain)
    (h : exec (list store filter : ReconcilerM π Reliable _) ⟨p, es, s⟩ = (.ok ws, w')) (hw : w ∈ ws) :
    w.overlayId.IsPlain := by
  have hmaintains : Maintains (σ := Reliable) store (fun _ => True)
      (fun v => v.overlayId.IsPlain) (fun v => v.overlayId.IsPlain) := by
    refine ⟨fun v hv => ?_, fun _ _ _ _ => ⟨trivial, fun _ _ => trivial⟩⟩
    apply Ensures.of_entries (I := fun _ => True)
    intro es _
    refine (Store.ensures_loadVolume v (Store.ensures_loadTexts_any _ _)).mono ?_
    intro answer hanswer w hw
    obtain ⟨-, _, _, _, -, -, rfl⟩ := hanswer w hw
    exact hv
  have hlist := ensures_list (R := fun q => q = p) hmaintains filter
    (by rintro _ rfl v hv; exact hlive v hv) ⟨p, es, s⟩ ⟨rfl, trivial⟩
  rw [h] at hlist
  exact hlist.2 ws rfl w hw

/-- A listing that shows a volume refreshes the mirror of its id at least once, with fields that are
reported for the id. -/
theorem refreshes_of_exec_list (hp : store.persistFields = true)
    (hvs : VolumeProvider.volumes p = .ok vs) (htidy : ∀ v ∈ vs, v.overlayId.IsTidy)
    (h : exec (list store filter : ReconcilerM π Reliable _) ⟨p, es, s⟩ = (.ok ws, w'))
    (hw : w ∈ ws) :
    ∃ fs, store.Refreshes w.overlayId.text fs es w'.medium.entries ∧ fs ≠ [] ∧
      fs.Sublist ((vs.filter (·.overlayId = w.overlayId)).map (·.external.fields)) := by
  have hplain : ∀ v ∈ vs, v.overlayId.IsPlain := fun v hv =>
    isPlain_of_listed ⟨vs, hvs, hv⟩ (htidy v hv)
  have hlive : ∀ v, Listed p v → v.overlayId.IsPlain := by
    rintro v ⟨vs', hvs', hv⟩
    rw [hvs] at hvs'
    obtain rfl := Except.ok.inj hvs'
    exact hplain v hv
  have hshown := isPlain_of_shown hlive h hw
  unfold list at h
  rcases exec_bind_cases h with ⟨e, -, he⟩ | ⟨found, w₁, hask, hrest⟩
  · cases he
  rw [exec_ask, hvs] at hask
  obtain ⟨hfound, rfl⟩ := Prod.mk.inj hask
  obtain rfl := Except.ok.inj hfound
  rcases exec_bind_cases hrest with ⟨e, -, he⟩ | ⟨answers, w₂, hall, hlast⟩
  · cases he
  obtain ⟨hanswers, rfl⟩ := Prod.mk.inj hlast
  obtain rfl := Except.ok.inj hanswers
  obtain ⟨fs, hfs, hsub, hlength⟩ := refreshes_of_exec_mapM hp hshown hplain hall
  refine ⟨fs, hfs, ?_, hsub⟩
  -- The volume that is shown counts among the refreshes.
  rintro rfl
  have hmem : w ∈ (answers.filterMap id).filter (·.overlayId = w.overlayId) :=
    List.mem_filter.2 ⟨hw, by simp⟩
  rw [List.length_nil, eq_comm, List.length_eq_zero_iff] at hlength
  rw [hlength] at hmem
  cases hmem

/-- A listing makes the mirror of a volume that it shows hold the fields that the provider reports for
its id just when one map of fields is reported for it, and the mirror had no further names before.
Where the id is reported once, the mirror holds these fields, and besides them what it held before
under other names. -/
theorem mirror_follows_iff (hp : store.persistFields = true)
    (hvs : VolumeProvider.volumes p = .ok vs) (htidy : ∀ v ∈ vs, v.overlayId.IsTidy)
    (hleaf : ∀ v ∈ vs, Store.checkLeaves v.external.fields.keys = .ok ())
    (h : exec (list store filter : ReconcilerM π Reliable _) ⟨p, es, {}⟩ = (.ok ws, w'))
    (hw : w ∈ ws) :
    let reports := (vs.filter (·.overlayId = w.overlayId)).map (·.external.fields)
    let stored := es.texts (store.mirrorKey w.overlayId.text)
    ((∀ fields ∈ reports, store.MirrorHolds w.overlayId.text fields w'.medium.entries) ↔
        ∃ fields, (∀ f ∈ reports, f = fields) ∧ ∀ name, stored.contains name → fields.contains name) ∧
      ∀ fields, reports = [fields] →
        store.MirrorHolds w.overlayId.text (fields.orElse stored) w'.medium.entries := by
  intro reports stored
  obtain ⟨fs, hfs, hne, hsub⟩ := refreshes_of_exec_list hp hvs htidy h hw
  have hcheck : ∀ f ∈ reports, Store.checkLeaves f.keys = .ok () := by
    intro f hf
    obtain ⟨v, hv, rfl⟩ := List.mem_map.1 hf
    exact hleaf v (List.mem_filter.1 hv).1
  refine ⟨⟨fun hholds => ?_, ?_⟩, ?_⟩
  · obtain ⟨fields, hfields⟩ := List.exists_mem_of_ne_nil fs hne
    have hreported := hsub.subset hfields
    refine ⟨fields, fun f hf => ?_, fun name hname => ?_⟩
    · exact (hholds f hf).unique (hholds fields hreported) (hcheck f hf) (hcheck fields hreported)
    · -- No name is lost, so what the mirror held before is among what it holds now.
      obtain ⟨hname, hthere⟩ := hfs.contains_of_contains hne hname
      exact ((hholds fields hreported).contains_iff hname).1 hthere
  · rintro ⟨fields, hsame, hcovered⟩ f hf
    rw [hsame f hf]
    exact hfs.holds_of_covered hne (fun g hg => hsame g (hsub.subset hg)) hcovered
  · intro fields hone
    have hsingle : fs.Sublist [fields] := hone ▸ hsub
    rw [hsingle.eq_of_length_le (List.length_pos_iff.2 hne)] at hfs
    exact hfs.holds_of_single

/-! ### A field that is dropped -/

/-- The only volume that a provider has is shown when it is registered and accepted. -/
theorem exec_list_of_single {es' : Entries} (hvs : VolumeProvider.volumes p = .ok [v])
    (hid : sanitize v.overlayId.text ≠ "") (hloaded : store.loaded v es = .ok (some w))
    (haccepts : filter.accepts w = true) (hwritten : store.written w es = (.ok (), es')) :
    exec (list store filter : ReconcilerM π Reliable _) ⟨p, es, s⟩ = (.ok [w], ⟨p, es', s⟩) := by
  have hask : exec (ask VolumeProvider.volumes : ReconcilerM π Reliable _) ⟨p, es, s⟩ =
      (.ok [v], ⟨p, es, s⟩) := by
    rw [exec_ask, hvs]
    rfl
  have hrequired : exec (reconcile store v .required : ReconcilerM π Reliable _) ⟨p, es, s⟩ =
      (.ok (some w), ⟨p, es, s⟩) := by
    rw [exec_reconcile_required hid, hloaded]
    rfl
  have hid' : sanitize w.overlayId.text ≠ "" := by
    rwa [Store.overlayId_of_loaded hloaded]
  have hsave : exec (onStore (store.saveVolume w) : ReconcilerM π Reliable _) ⟨p, es, s⟩ =
      (.ok (), ⟨p, es', s⟩) := by
    rw [exec_save p es s hid', hwritten]
    rfl
  have hone : exec (listOne store filter v : ReconcilerM π Reliable _) ⟨p, es, s⟩ =
      (.ok (some w), ⟨p, es', s⟩) := by
    unfold listOne
    rw [exec_bind_of_ok hrequired]
    dsimp only
    rw [if_pos haccepts, exec_bind_of_ok hsave]
    rfl
  unfold list
  rw [exec_bind_of_ok hask, List.mapM_cons, List.mapM_nil, bind_assoc, exec_bind_of_ok hone]
  rfl

/-- A store under the default root that mirrors fields. -/
def mirrorStore : Store where
  layout := .ofRoot "polly"
  persistFields := true

/-- The existence marker of `mock-v`, and a field in its mirror. -/
def rackedEntries : Entries :=
  mirrorStore.markedWith "mock-v" (mirrorStore.mirrorKey "mock-v" ++ "rack")

/-- The volume `mock-v` with given fields. -/
def mockVolume (fields : LabelMap) : Volume :=
  .ofExternal "mock" { id := "v", fields }

/-- When the provider has no volume but `mock-v`, a listing shows it. -/
theorem exists_listing {fields : LabelMap} (hvs : VolumeProvider.volumes p = .ok [mockVolume fields])
    (hleaf : Store.checkLeaves fields.keys = .ok ()) :
    ∃ w w', exec (list mirrorStore .all : ReconcilerM π Reliable _) ⟨p, rackedEntries, {}⟩ =
      (.ok [w], w') ∧ w.overlayId = ⟨"mock-v"⟩ := by
  have hp : mirrorStore.persistFields = true := rfl
  obtain ⟨w, hloaded, hid, hlabels, hnames⟩ :=
    Store.loaded_stored_field hp (mockVolume fields) "rack" (by decide) (by decide)
  have hfields : mirrorStore.checkMirrored w = .ok () := by
    refine (Store.checkMirrored_eq_ok_iff hp).2 (Store.checkLeaves_eq_ok_iff.2 fun name hname => ?_)
    rcases (hnames name).1 hname with h | rfl
    · exact Store.checkLeaves_eq_ok_iff.1 hleaf name h
    · decide
  exact ⟨w, _, exec_list_of_single hvs (sanitize_ofExternal _ _) hloaded rfl
    (Store.written_of_ok hlabels hfields), hid⟩

theorem isTidy_mockVolume (fields : LabelMap) :
    ∀ v ∈ [mockVolume fields], v.overlayId.IsTidy := by
  intro v hv
  rw [List.mem_singleton.1 hv]
  exact isTidy_mock

theorem contains_rackedEntries {name : String} :
    (rackedEntries.texts (mirrorStore.mirrorKey "mock-v")).contains name ↔ name = "rack" :=
  (Store.contains_texts_markedWith (by decide) (by decide) (by decide)).trans (and_iff_right rfl)

/-- A field whose value has changed at the provider has the new value in the mirror. -/
theorem mirror_follows_changed_field :
    let fields : LabelMap := .ofList [("rack", "r2")]
    let p : Inventory := ⟨.ofList [("mock", .ofList [("v", { id := "v", fields })])], 1⟩
    mirrorStore.persistFields = true ∧ VolumeProvider.volumes p = .ok [mockVolume fields] ∧
      (∀ v ∈ [mockVolume fields], v.overlayId.IsTidy) ∧
      (∀ v ∈ [mockVolume fields], Store.checkLeaves v.external.fields.keys = .ok ()) ∧
      ∃ w w', exec (list mirrorStore .all : ReconcilerM Inventory Reliable _)
          ⟨p, rackedEntries, {}⟩ = (.ok [w], w') ∧ w ∈ [w] ∧
        mirrorStore.MirrorHolds w.overlayId.text fields w'.medium.entries := by
  intro fields p
  have hvs : VolumeProvider.volumes p = .ok [mockVolume fields] := rfl
  have hleaf : ∀ v ∈ [mockVolume fields], Store.checkLeaves v.external.fields.keys = .ok () := by
    intro v hv
    rw [List.mem_singleton.1 hv]
    rfl
  obtain ⟨w, w', hrun, hid⟩ := exists_listing hvs (hleaf _ List.mem_cons_self)
  have hp : mirrorStore.persistFields = true := rfl
  refine ⟨hp, hvs, isTidy_mockVolume fields, hleaf, w, w', hrun, List.mem_cons_self, ?_⟩
  have hfollows := mirror_follows_iff hp hvs (isTidy_mockVolume fields) hleaf hrun List.mem_cons_self
  have hown : (mockVolume fields).overlayId = w.overlayId := hid.symm
  refine hfollows.1.2 ⟨fields, fun f hf => ?_, fun name hname => ?_⟩ fields ?_
  · obtain ⟨v, hv, rfl⟩ := List.mem_map.1 hf
    rw [List.mem_singleton.1 (List.mem_filter.1 hv).1]
    rfl
  · rw [hid] at hname
    rw [contains_rackedEntries.1 hname]
    rfl
  · refine List.mem_map.2 ⟨_, List.mem_filter.2 ⟨List.mem_cons_self, ?_⟩, rfl⟩
    exact decide_eq_true hown

/-- A field that the provider has dropped stays in the mirror. -/
theorem not_mirror_follows :
    ¬ ∀ (store : Store) (p : Inventory) (filter : Filter) (es : Entries) (vs ws : List Volume)
        (w' : World Inventory Reliable), store.persistFields = true →
      VolumeProvider.volumes p = .ok vs → (∀ v ∈ vs, v.overlayId.IsTidy) →
      (∀ v ∈ vs, Store.checkLeaves v.external.fields.keys = .ok ()) →
      exec (list store filter : ReconcilerM Inventory Reliable _) ⟨p, es, {}⟩ = (.ok ws, w') →
      ∀ w ∈ ws, ∀ v ∈ vs, v.overlayId = w.overlayId →
        store.MirrorHolds w.overlayId.text v.external.fields w'.medium.entries := by
  intro h
  have hvs : VolumeProvider.volumes oneVolume = .ok [mockVolume ∅] := rfl
  have hleaf : ∀ v ∈ [mockVolume ∅], Store.checkLeaves v.external.fields.keys = .ok () := by
    intro v hv
    rw [List.mem_singleton.1 hv]
    rfl
  obtain ⟨w, w', hrun, hid⟩ := exists_listing hvs rfl
  have hholds := h mirrorStore oneVolume .all rackedEntries _ _ w' rfl hvs (isTidy_mockVolume ∅) hleaf
    hrun w List.mem_cons_self _ List.mem_cons_self hid.symm
  -- The field was there before the listing, and no name is lost from a mirror.
  obtain ⟨fs, hfs, hne, -⟩ := refreshes_of_exec_list rfl hvs (isTidy_mockVolume ∅) hrun
    List.mem_cons_self
  have hstored : (rackedEntries.texts (mirrorStore.mirrorKey w.overlayId.text)).contains "rack" := by
    rw [hid]
    exact contains_rackedEntries.2 rfl
  obtain ⟨hrack, hthere⟩ := hfs.contains_of_contains hne hstored
  have hdropped := (hholds.contains_iff hrack).1 hthere
  exact absurd hdropped (by decide)

end Reconciler

end VolumeOverlay
