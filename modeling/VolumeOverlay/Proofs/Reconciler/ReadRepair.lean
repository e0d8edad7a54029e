import VolumeOverlay.Proofs.Reconciler.Invariant
import VolumeOverlay.Proofs.Reconciler.ReadSafety
import VolumeOverlay.Proofs.Store.Settled

/-!
# Listing writes back what is there

A listing writes back the record of every volume that it shows. Without mirrored fields it writes what
it has just loaded, and in a store that was only ever written by commands on tidy ids what is loaded
is what is stored. Each call of such a write is without effect, so the entries stay as they are even
if the medium fails in the midst of it. The failures must not pass for missing keys: a listing of
labels that seems to find nothing would be written back as no labels.

## Main definitions

* `Command.OnTidy p c`: a command that reaches records of tidy ids only
* `Command.entriesAfter store p c es`: what a command leaves behind
* `Reached store es`: the entries after some commands on tidy ids, none of which met a failure

## Main results

* `Reached.settled`: every record that commands on tidy ids leave is there in full
* `list_keeps_entries`: a listing leaves the entries as they are
-/

namespace VolumeOverlay

open Actions

namespace Reconciler

variable {π σ : Type} [VolumeProvider π] {store : Store} {es : Entries}

/-- A command that reaches records of tidy ids only: so are the ids of the volumes that it meets, and
the id of a volume that it removes. -/
structure Command.OnTidy (p : π) (c : Command) : Prop where
  met : ∀ v, c.Meets p v → v.overlayId.IsTidy
  removed : ∀ text, c = .remove text → OverlayId.IsTidy ⟨text⟩

/-- The entries that a command leaves behind, as long as no call fails. -/
def Command.entriesAfter (store : Store) (p : π) (c : Command) (es : Entries) : Entries :=
  (exec (c.run store : ReconcilerM π Reliable Answer) ⟨p, es, {}⟩).2.medium.entries

/-- The entries that a new store has, or has after some commands on tidy ids, each of which found the
provider in whatever state and visited texts in whatever order, and none of which met a failure of the
medium. -/
inductive Reached (store : Store) : Entries → Prop
  | opened {es : Entries} (h : OpenStore.setUpOn store ∅ = .ok es) : Reached store es
  | step {es : Entries} {π : Type} [VolumeProvider π] (p : π) (c : Command) (order : TextOrder)
      (hc : c.OnTidy p) (h : Reached store es) :
      Reached store (c.entriesAfter (store.inOrder order) p es)

/-! ### Settled stores stay settled -/

/-- Without faults, loading and writing volumes with tidy ids keep a store settled. -/
theorem maintains_settled (hp : store.persistFields = false) :
    Maintains (σ := Reliable) store (fun m => store.Settled m.entries)
      (fun v => v.overlayId.IsTidy) (fun v => v.overlayId.IsTidy) where
  load v hv := by
    apply Ensures.of_entries
    intro es _
    refine (Store.ensures_loadVolume v (Store.ensures_loadTexts_any _ _)).mono ?_
    intro answer hanswer w hw
    obtain ⟨-, _, _, _, -, -, rfl⟩ := hanswer w hw
    exact hv
  save v hv := by
    rintro ⟨es, s⟩ hes
    refine ⟨?_, fun _ _ => trivial⟩
    by_cases hid : sanitize v.overlayId.text = ""
    · rw [Store.saveVolume, Store.exec_saveVolumeInOrder_of_blank hid]
      exact hes
    · rw [Store.exec_saveVolume es s hid]
      have hmirrored : store.checkMirrored v = .ok () := Store.checkMirrored_of_not hp
      -- Either a label is refused, and nothing is written, or all of the record is.
      cases hlabels : Store.checkLeaves (store.order.names v.labels) with
      | error e =>
        rw [Store.written_of_error hlabels]
        exact hes
      | ok _ =>
        rw [Store.checkLeaves_names] at hlabels
        rw [Store.written_of_ok hlabels hmirrored]
        exact Store.Settled.recorded hp hes (hv.isPlain hid) hlabels

theorem ensures_settled_remove {text : String} (hparse : OverlayId.parse text = .ok ⟨text⟩)
    (htidy : OverlayId.IsTidy ⟨text⟩) :
    Ensures (fun m => store.Settled m.entries) (fun _ => True)
      (store.removeVolume ⟨text⟩ : StoreM Reliable Unit) := by
  rintro ⟨es, s⟩ hes
  obtain ⟨service, volumeId, hsplit⟩ := exists_split hparse
  have hid : sanitize (OverlayId.mk text).text ≠ "" :=
    OverlayId.sanitize_ne_empty_of_mem (OverlayId.separator_mem_of_split hsplit)
  have hremoved : store.Settled (store.removed text es) :=
    Store.Settled.removed hes (htidy.isPlain hid)
  rw [Store.exec_removeVolume es s hid]
  exact ⟨hremoved, fun _ _ => trivial⟩

/-- No command that a volume with a tidy id goes through changes its id. -/
theorem alterable_isTidy : Alterable fun v => v.overlayId.IsTidy where
  offer _ _ hv := hv
  revoke _ _ hv := hv
  relabel _ _ hv := hv

/-- Commands on tidy ids leave every record in full, as long as no call fails. -/
theorem Reached.settled (hp : store.persistFields = false) (h : Reached store es) :
    store.Settled es := by
  induction h with
  | opened h =>
    rw [Store.setUpOn_empty] at h
    obtain rfl := Except.ok.inj h
    exact Store.settled_started
  | step p c order hc _ ih =>
    have hmaintains := maintains_settled (show (store.inOrder order).persistFields = false from hp)
    have hkeeps := c.keeps (R := fun q => q = p) hmaintains alterable_isTidy
      (by rintro _ rfl v hv; exact ⟨hc.met v hv, hc.met v hv⟩)
      (fun text hremove hparse => ensures_settled_remove hparse (hc.removed text hremove))
    exact (hkeeps ⟨p, _, {}⟩ rfl (ih.inOrder order)).1.inOrder store.order

/-! ### Listings of settled stores -/

variable [FaultSource σ]

/-- In a settled store, what is loaded may be written back at any time without effect. -/
theorem maintains_entries [IoFaults σ] (hp : store.persistFields = false)
    (hes : store.Settled es) :
    Maintains (σ := σ) store (HasEntries es) (fun v => v.overlayId.IsPlain)
      (fun w => store.Holds w es) where
  load v hv :=
    (Store.ensures_loadVolume v (Store.ensures_loadTexts _ _)).mono
      fun _ hanswer w hw => hes.holds_of_foundIn hp hv (hanswer w hw)
  save _ hw := Store.ensures_save_of_holds hw

/-- Live volumes have ids of which something is left. -/
theorem isPlain_of_listed {p : π} {v : Volume} (h : Listed p v) (htidy : v.overlayId.IsTidy) :
    v.overlayId.IsPlain := by
  obtain ⟨service, external, rfl⟩ := h.exists_ofExternal
  exact htidy.isPlain (sanitize_ofExternal service external)

/-- A listing leaves the entries as they are. In a store without mirrored fields that commands on tidy
ids have led to, and with live volumes of tidy ids, no call of a listing changes a key, whatever the
filter is, in whatever order texts are visited, whichever calls the medium fails, and whether or not
the listing comes to its end. -/
theorem list_keeps_entries [IoFaults σ] (hp : store.persistFields = false) (hes : Reached store es)
    (p : π) (hlive : ∀ v, Listed p v → v.overlayId.IsTidy) (filter : Filter) (faults : σ) :
    (exec (list store filter : ReconcilerM π σ (List Volume)) ⟨p, es, faults⟩).2.medium.entries =
      es := by
  have hmaintains := maintains_entries (σ := σ) hp (hes.settled hp)
  have hlisted : ∀ q, q = p → ∀ v, Listed q v → v.overlayId.IsPlain := by
    rintro _ rfl v hv
    exact isPlain_of_listed hv (hlive v hv)
  have hlist := ensures_list hmaintains filter hlisted ⟨p, es, faults⟩ ⟨rfl, rfl⟩
  exact hlist.1.2

/-! ### A listing during an outage -/

/-- The entries after the volume `mock-v` is labelled and offered. -/
def labelledEntries : Entries :=
  Command.entriesAfter pollyStore oneVolume (.offer "mock-v" ["mesos"])
    (Command.entriesAfter pollyStore oneVolume (.label "mock-v" (.ofList [("app", "web")]))
      pollyStore.started)

theorem overlayId_of_named_oneVolume {v : Volume} (h : Named oneVolume "mock-v" v) :
    v.overlayId = ⟨"mock-v"⟩ := by
  obtain ⟨service, volumeId, external, hsplit, hinspect, rfl⟩ := h
  have hparts : OverlayId.split ⟨"mock-v"⟩ = some ("mock", "v") := rfl
  rw [hparts] at hsplit
  cases hsplit
  have hfound : VolumeProvider.inspect oneVolume "mock" "v" = .ok { id := "v" } := rfl
  rw [hfound] at hinspect
  cases hinspect
  rfl

theorem overlayId_of_listed_oneVolume {v : Volume} (h : Listed oneVolume v) :
    v.overlayId = ⟨"mock-v"⟩ := by
  obtain ⟨vs, hvs, hv⟩ := h
  have hall : VolumeProvider.volumes oneVolume = .ok [.ofExternal "mock" { id := "v" }] := rfl
  rw [hall] at hvs
  cases hvs
  rw [List.mem_singleton.1 hv]
  rfl

theorem isTidy_mock : OverlayId.IsTidy ⟨"mock-v"⟩ :=
  ⟨by decide, by decide⟩

theorem reached_labelledEntries : Reached pollyStore labelledEntries := by
  have hmet : ∀ v, Named oneVolume "mock-v" v → v.overlayId.IsTidy := by
    intro v hv
    rw [overlayId_of_named_oneVolume hv]
    exact isTidy_mock
  apply Reached.step oneVolume (.offer "mock-v" ["mesos"]) .ascending ⟨hmet, nofun⟩
  apply Reached.step oneVolume (.label "mock-v" (.ofList [("app", "web")])) .ascending ⟨hmet, nofun⟩
  exact .opened Store.setUpOn_empty

/-- The ninth call of a listing is made in the midst of writing labels back. When it fails, nothing
has changed. -/
theorem list_keeps_entries_outage :
    pollyStore.persistFields = false ∧ Reached pollyStore labelledEntries ∧
      (∀ v, Listed oneVolume v → v.overlayId.IsTidy) ∧
      (exec (list pollyStore .all : ReconcilerM Inventory Outages (List Volume))
        ⟨oneVolume, labelledEntries, ⟨fun n => n == 8⟩⟩).2.medium.entries = labelledEntries := by
  have htidy : ∀ v, Listed oneVolume v → v.overlayId.IsTidy := by
    intro v hv
    rw [overlayId_of_listed_oneVolume hv]
    exact isTidy_mock
  have hkept := list_keeps_entries (σ := Outages) rfl reached_labelledEntries oneVolume htidy .all
  exact ⟨rfl, reached_labelledEntries, htidy, hkept _⟩

end Reconciler

end VolumeOverlay
