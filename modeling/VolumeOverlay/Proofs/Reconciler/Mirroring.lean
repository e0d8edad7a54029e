import VolumeOverlay.Proofs.Provider.Inventory
import VolumeOverlay.Proofs.Reconciler.OverlayMap
import VolumeOverlay.Proofs.Reconciler.Run
import VolumeOverlay.Proofs.Store.Mirror

/-!
# A mirror is not seen

Two reconcilers over one inventory, of which one keeps a mirror of the provider fields and the other
does not, are put the same queries. Their stores stay alike from query to query, so they cannot be told
apart by what they answer. The fields of a volume come from the inventory each time it is loaded, and
an id belongs to one volume of the inventory, so the mirror of an id holds the fields of that volume.
An id that is given out a second time is no exception: its record is written as soon as the volume is
created.

## Main definitions

* `TwinAt store p`, `Twin store`: two worlds with one provider, the second with a mirror
* `Query`: a request of a client, or a question for the ids of all records
* `Query.worldAfter`: the world that a sequence of queries leads to

## Main results

* `alike_reconcile`, `alike_list`, `alike_inspect`, `alike_modify`: what leaves the provider as it is
* `mirrored_created`: the stores are alike once the record of a new volume is written
* `alike_query`, `twin_worldAfter`: one query, and any number of them
* `answers_eq_of_mirroring`: stores that start empty
-/

namespace VolumeOverlay

open Actions
open Text (hasPrefix)

/-- The settings of a store that mirrors fields, or of one that does not. -/
def StoreConfig.mirroring (config : StoreConfig) (b : Bool) : StoreConfig :=
  { config with persistFields := b }

/-- The fields of the volumes that an orderly inventory keeps can be mirrored. -/
theorem Inventory.mirrorable_has {i : Inventory} (hi : i.Orderly) (hfields : i.Storable) :
    Store.Mirrorable i.Has where
  isPlain _ hv := hi.isPlain_of_has hv
  fields_eq _ _ hv hw h := congrArg ExternalVolume.fields (hi.external_eq_of_has hv hw h)
  checkLeaves v hv := by
    obtain ⟨service, hinspect, -⟩ := hv
    exact Store.checkLeaves_eq_ok_iff.2 (hfields _ _ _ hinspect)

namespace Reconciler

open ReconcilerM

/-- Two worlds with one provider, of which the second has a mirror. -/
structure TwinAt (store : Store) (p : Inventory) (w w' : World Inventory Reliable) : Prop where
  provider : w.provider = p
  provider' : w'.provider = p
  mirrored : store.Mirrored p.Has w.medium.entries w'.medium.entries

/-- Two worlds with one provider whose fields can be mirrored, of which the second has a mirror. -/
def Twin (store : Store) (w w' : World Inventory Reliable) : Prop :=
  ∃ p : Inventory, p.Orderly ∧ p.Storable ∧ TwinAt store p w w'

/-- Twins are twins whatever the order of texts. -/
theorem Twin.inOrder {store : Store} {w w' : World Inventory Reliable} (h : Twin store w w')
    (order : TextOrder) : Twin (store.inOrder order) w w' := by
  obtain ⟨p, hp, hfields, htwin⟩ := h
  exact ⟨p, hp, hfields, htwin.provider, htwin.provider',
    ⟨htwin.mirrored.agree, htwin.mirrored.covered⟩⟩

variable {store : Store} {p : Inventory} {v : Volume} {α : Type}

/-! ### Shared steps -/

theorem alike_ofResult {ε : Type} {R : World Inventory Reliable → World Inventory Reliable → Prop}
    (kind : ε → VolumeError) (r : Except ε α) :
    Alike R (fun a => r = .ok a) (ofResult kind r : ReconcilerM Inventory Reliable α)
      (ofResult kind r) := by
  intro w w' h
  exact Alike.of_exec (exec_ofResult w kind r) (exec_ofResult w' kind r) h
    fun a ha => mapError_eq_ok_iff.1 ha

/-- What is answered by the provider alone is answered alike. -/
theorem alike_of_provider {x : ReconcilerM Inventory Reliable α} {r : Except VolumeError α}
    (h : ∀ w : World Inventory Reliable, w.provider = p → exec x w = (r, w)) :
    Alike (TwinAt store p) (fun a => r = .ok a) x x := by
  intro w w' htwin
  exact Alike.of_exec (h w htwin.provider) (h w' htwin.provider') htwin fun _ ha => ha

theorem alike_ask (question : Inventory → Except ProviderError α) :
    Alike (TwinAt store p) (fun a => question p = .ok a)
      (ask question : ReconcilerM Inventory Reliable α) (ask question) := by
  refine (alike_of_provider (r := (question p).mapError .provider) ?_).mono
    fun _ ha => mapError_eq_ok_iff.1 ha
  rintro w rfl
  exact exec_ask w question

theorem alike_askVolume (id : OverlayId) (service volumeId : String) :
    Alike (TwinAt store p) (fun external => p.inspect service volumeId = .ok external)
      (askVolume id service volumeId : ReconcilerM Inventory Reliable ExternalVolume)
      (askVolume id service volumeId) := by
  refine (alike_of_provider (r := asked id (p.inspect service volumeId)) ?_).mono
    fun _ ha => inspect_of_asked ha
  rintro w rfl
  exact exec_askVolume id service volumeId w

/-- What a store action answers alike, the reconciler answers alike. -/
theorem alike_onStore {x y : StoreM Reliable α} {Q : α → Prop}
    (h : Alike (store.MirroredOn p.Has) Q x y) :
    Alike (TwinAt store p) Q (onStore x : ReconcilerM Inventory Reliable α) (onStore y) := by
  intro w w' htwin
  obtain ⟨hsame, hafter, hanswer⟩ := h w.medium w'.medium htwin.mirrored
  rw [exec_onStore, exec_onStore, hsame]
  refine ⟨rfl, ⟨htwin.provider, htwin.provider', hafter⟩, fun a ha => hanswer a ?_⟩
  rw [hsame]
  exact mapError_eq_ok_iff.1 ha

/-! ### Single volumes -/

section Operations

variable (hp : p.Orderly) (hfields : p.Storable)

include hp hfields

/-- A volume of the provider is loaded alike, and is still one of the provider's. -/
theorem alike_load (hv : p.Has v) :
    Alike (TwinAt store p) (fun answer => ∀ w, answer = some w → p.Has w)
      (onStore ((store.mirroring false).loadVolume v) : ReconcilerM Inventory Reliable _)
      (onStore ((store.mirroring true).loadVolume v)) := by
  have hlive := Inventory.mirrorable_has hp hfields
  refine (alike_onStore (Store.alike_loadVolume hlive hv)).mono fun answer hanswer w hw => ?_
  obtain ⟨hid, hexternal⟩ := hanswer w hw
  obtain ⟨service, hinspect, hof⟩ := hv
  exact ⟨service, hexternal ▸ hinspect, by rw [hid, hexternal, hof]⟩

theorem alike_save (hv : p.Has v) :
    Alike (TwinAt store p) (fun _ => True)
      (onStore ((store.mirroring false).saveVolume v) : ReconcilerM Inventory Reliable _)
      (onStore ((store.mirroring true).saveVolume v)) :=
  alike_onStore (Store.alike_saveVolume (Inventory.mirrorable_has hp hfields) hv)

theorem alike_reconcile (hv : p.Has v) (existence : Existence) :
    Alike (TwinAt store p) (fun answer => ∀ w, answer = some w → p.Has w)
      (reconcile (store.mirroring false) v existence : ReconcilerM Inventory Reliable _)
      (reconcile (store.mirroring true) v existence) := by
  refine (alike_load hp hfields hv).bind fun answer hanswer => ?_
  cases answer with
  | some w => exact Alike.pure hanswer
  | none =>
    cases existence with
    | required => exact Alike.pure hanswer
    | establish =>
      refine (alike_save hp hfields hv).bind fun _ _ => Alike.pure ?_
      rintro w ⟨⟩
      exact hv

theorem alike_listOne (filter : Filter) (hv : p.Has v) :
    Alike (TwinAt store p) (fun _ => True)
      (listOne (store.mirroring false) filter v : ReconcilerM Inventory Reliable _)
      (listOne (store.mirroring true) filter v) := by
  refine (alike_reconcile hp hfields hv .required).bind fun answer hanswer => ?_
  cases answer with
  | none => exact Alike.pure trivial
  | some w =>
    dsimp only
    split
    · exact (alike_save hp hfields (hanswer w rfl)).bind fun _ _ => Alike.pure trivial
    · exact Alike.pure trivial

theorem alike_list (filter : Filter) :
    Alike (TwinAt store p) (fun _ => True)
      (list (store.mirroring false) filter : ReconcilerM Inventory Reliable _)
      (list (store.mirroring true) filter) := by
  refine (alike_ask VolumeProvider.volumes).bind fun vs hvs => ?_
  have hloop : Alike (TwinAt store p) _
      (vs.mapM (listOne (store.mirroring false) filter) : ReconcilerM Inventory Reliable _)
      (vs.mapM (listOne (store.mirroring true) filter)) :=
    Alike.mapM fun v hv => alike_listOne hp hfields filter (hp.has_of_mem_volumes hvs hv)
  exact hloop.map

theorem alike_listAll (filter : Filter) :
    Alike (TwinAt store p) (fun _ => True)
      (listAll (store.mirroring false) filter : ReconcilerM Inventory Reliable _)
      (listAll (store.mirroring true) filter) := by
  refine (alike_ask VolumeProvider.volumes).bind fun vs hvs => ?_
  have hloop : Alike (TwinAt store p) _
      (vs.mapM fun v => reconcile (store.mirroring false) v .establish :
        ReconcilerM Inventory Reliable _)
      (vs.mapM fun v => reconcile (store.mirroring true) v .establish) :=
    Alike.mapM fun v hv =>
      alike_reconcile hp hfields (hp.has_of_mem_volumes hvs hv) .establish
  exact hloop.map

/-- A volume that is looked up is one of the provider's. -/
theorem alike_inspect (text : String) :
    Alike (TwinAt store p) p.Has
      (inspect (store.mirroring false) text : ReconcilerM Inventory Reliable _)
      (inspect (store.mirroring true) text) := by
  refine (alike_ofResult _ _).bind fun id _ => ?_
  unfold lookUp splitId
  cases id.split with
  | none => exact (Alike.throw (Q := fun _ => False) _).bind fun _ hnone => hnone.elim
  | some parts =>
    refine (Alike.pure (Q := fun _ => True) trivial).bind fun parts _ => ?_
    refine (alike_askVolume id parts.1 parts.2).bind fun external hexternal => ?_
    refine (alike_reconcile hp hfields (hp.has_of_inspect hexternal) .establish).bind
      fun answer hanswer => ?_
    cases answer with
    | none => exact Alike.throw _
    | some w => exact Alike.pure (hanswer w rfl)

/-- A change of the overlay is written alike. -/
theorem alike_modify (text : String) {change : Volume → Volume}
    (hchange : ∀ v, p.Has v → p.Has (change v)) :
    Alike (TwinAt store p) (fun _ => True)
      (modify (store.mirroring false) text change : ReconcilerM Inventory Reliable _)
      (modify (store.mirroring true) text change) := by
  rw [modify_eq, modify_eq]
  refine (alike_inspect hp hfields text).bind fun v hv => ?_
  exact (alike_save hp hfields (hchange v hv)).map

end Operations

/-! ### Requests that change the provider -/

/-- What is alike at one provider leaves its worlds twins. -/
theorem alike_of_twinAt {x y : ReconcilerM Inventory Reliable α} {Q : Inventory → α → Prop}
    (h : ∀ p : Inventory, p.Orderly → p.Storable → Alike (TwinAt store p) (Q p) x y) :
    Alike (Twin store) (fun _ => True) x y := by
  rintro w w' ⟨p, hp, hfields, htwin⟩
  obtain ⟨hsame, hafter, -⟩ := h p hp hfields w w' htwin
  exact ⟨hsame, ⟨p, hp, hfields, hafter⟩, fun _ _ => trivial⟩

/-- The record of a new volume is written alike. What may have been kept under its id before, in the
mirror too, is written over. -/
theorem mirrored_created (hp : p.Orderly) (hfields : p.Storable) {es es' : Entries}
    (h : store.Mirrored p.Has es es') {request : CreateRequest}
    (hrequest : ∀ leaf ∈ request.fields.keys, isLeaf leaf = true)
    (hlabels : Store.checkLeaves request.labels.keys = .ok ()) {external : ExternalVolume}
    (hmade : (p.create request.serviceName request).1 = .ok external) :
    (store.mirroring true).checkMirrored (created request external) = .ok () ∧
      store.Mirrored (p.create request.serviceName request).2.Has
        ((store.mirroring false).recorded (created request external) es)
        ((store.mirroring true).recorded (created request external) es') := by
  have hlive := Inventory.mirrorable_has (hp.create request.serviceName request)
    (hfields.create request.serviceName hrequest)
  have hnew : (p.create request.serviceName request).2.Has (created request external) :=
    ⟨request.serviceName, (Inventory.inspect_create hmade).2, rfl⟩
  refine ⟨(Store.checkMirrored_eq_ok_iff rfl).2 (hlive.checkLeaves _ hnew), Store.Mirrored.recorded hlive (h.mono ?_) hnew hlabels⟩
  rintro w ⟨hw, hne⟩
  -- A volume with another id was there before.
  refine hw.of_create.resolve_right fun ⟨hsame, hid⟩ => hne ?_
  rw [hmade] at hsame
  rw [hid, ← Except.ok.inj hsame]
  rfl

theorem alike_create {request : CreateRequest}
    (hrequest : Store.checkLeaves request.fields.keys = .ok ()) :
    Alike (Twin store) (fun _ => True)
      (create (store.mirroring false) request : ReconcilerM Inventory Reliable Volume)
      (create (store.mirroring true) request) := by
  by_cases hservice : Config.isServiceName request.serviceName = true
  · cases hlabels : Store.checkLeaves (store.order.names request.labels) with
    | error e =>
      -- Labels are checked before the provider is called, so nothing has happened yet.
      have hrefused : ∀ (b : Bool) (w : World Inventory Reliable),
          exec (create (store.mirroring b) request) w = (.error (.store e), w) :=
        fun _ => exec_create_of_refused hservice hlabels
      intro w w' htwin
      exact Alike.of_exec (hrefused false w) (hrefused true w') htwin fun _ _ => trivial
    | ok _ =>
      rw [Store.checkLeaves_names] at hlabels
      have hleaves := Store.checkLeaves_eq_ok_iff.1 hrequest
      rintro ⟨q, es, s⟩ ⟨q', es', s'⟩ ⟨p, hp, hfields, htwin⟩
      obtain rfl : p = q := htwin.provider.symm
      obtain rfl : p = q' := htwin.provider'.symm
      rw [exec_create p es s hservice hlabels, exec_create p es' s' hservice hlabels]
      have hp' := hp.create request.serviceName request
      have hfields' := hfields.create request.serviceName hleaves
      cases hmade : VolumeProvider.create p request.serviceName request with
      | mk answer p' =>
        have hanswer : (p.create request.serviceName request).1 = answer := congrArg Prod.fst hmade
        obtain rfl : (p.create request.serviceName request).2 = p' := congrArg Prod.snd hmade
        cases answer with
        | error e =>
          -- The provider made nothing, so what it has now it had before.
          have hsame : store.Mirrored (p.create request.serviceName request).2.Has es es' := by
            refine htwin.mirrored.mono fun w hw => hw.of_create.resolve_right fun ⟨hnew, _⟩ => ?_
            rw [hanswer] at hnew
            cases hnew
          exact ⟨rfl, ⟨_, hp', hfields', rfl, rfl, hsame⟩, fun _ _ => trivial⟩
        | ok external =>
          obtain ⟨hcheck, hafter⟩ := mirrored_created hp hfields htwin.mirrored hleaves hlabels hanswer
          dsimp only
          rw [Store.written_of_ok hlabels rfl, Store.written_of_ok hlabels hcheck]
          exact ⟨rfl, ⟨_, hp', hfields', rfl, rfl, hafter⟩, fun _ _ => trivial⟩
  · intro w w' htwin
    exact Alike.of_exec (exec_create_of_not_isServiceName hservice w)
      (exec_create_of_not_isServiceName hservice w') htwin fun _ _ => trivial

/-- A record is removed alike, with its mirror or without. -/
theorem alike_remove (text : String) :
    Alike (Twin store) (fun _ => True)
      (remove (store.mirroring false) text : ReconcilerM Inventory Reliable Unit)
      (remove (store.mirroring true) text) := by
  cases hparse : OverlayId.parse text with
  | error e =>
    intro w w' htwin
    exact Alike.of_exec (exec_remove_of_refused hparse w) (exec_remove_of_refused hparse w') htwin
      fun _ _ => trivial
  | ok id =>
    obtain ⟨service, volumeId, hsplit⟩ := exists_split hparse
    rintro ⟨q, es, s⟩ ⟨q', es', s'⟩ ⟨p, hp, hfields, htwin⟩
    obtain rfl : p = q := htwin.provider.symm
    obtain rfl : p = q' := htwin.provider'.symm
    rw [exec_remove p es s hparse hsplit, exec_remove p es' s' hparse hsplit]
    cases hasked : asked id (VolumeProvider.inspect p service volumeId) with
    | error e => exact ⟨rfl, ⟨p, hp, hfields, htwin⟩, fun _ _ => trivial⟩
    | ok external =>
      have hp' := hp.remove service volumeId
      have hfields' := hfields.remove service volumeId
      -- Whether or not the provider removes the volume, it has no others than before.
      have hleft : store.Mirrored (p.remove service volumeId).2.Has es es' :=
        htwin.mirrored.mono fun _ hw => hw.of_remove
      cases hr : VolumeProvider.remove p service volumeId with
      | mk answer p' =>
        obtain rfl : (p.remove service volumeId).2 = p' := congrArg Prod.snd hr
        cases answer with
        | error e => exact ⟨rfl, ⟨_, hp', hfields', rfl, rfl, hleft⟩, fun _ _ => trivial⟩
        | ok _ =>
          -- The id is plain, since the provider has just been asked for its volume.
          have hid : id.IsPlain := by
            rw [← OverlayId.of_of_split hsplit]
            obtain ⟨hsame, hplain⟩ := hp.isPlain_of_inspect (inspect_of_asked hasked)
            rw [← hsame]
            exact hplain.id
          have hlive := Inventory.mirrorable_has hp' hfields'
          have hafter := Store.Mirrored.removed hlive (hleft.mono fun _ hw => hw.1) hid
          exact ⟨rfl, ⟨_, hp', hfields', rfl, rfl, hafter⟩, fun _ _ => trivial⟩

/-! ### Queries -/

/-- What a client may ask of a volume store: a request, or the ids of all records. -/
inductive Query where
  | request (r : OverlayMap.Request)
  | ids

/-- A query as an action. -/
def Query.run {π σ : Type} [VolumeProvider π] [FaultSource σ] (store : Store) :
    Query → ReconcilerM π σ (Answer ⊕ List OverlayId)
  | .request r => return .inl (← r.run store)
  | .ids => return .inr (← onStore store.volumeIds)

/-- A query with the order in which texts are visited, put to a store. -/
def Query.runIn {π σ : Type} [VolumeProvider π] [FaultSource σ] (store : Store)
    (q : TextOrder × Query) : ReconcilerM π σ (Answer ⊕ List OverlayId) :=
  q.2.run (store.inOrder q.1)

/-- The world that a sequence of queries leads to. -/
def Query.worldAfter {π σ : Type} [VolumeProvider π] [FaultSource σ] (store : Store)
    (queries : List (TextOrder × Query)) (w : World π σ) : World π σ :=
  queries.foldl (fun w q => (exec (Query.runIn store q) w).2) w

/-- A change of the overlay, at whatever provider. -/
theorem alike_change (text : String) (change : Volume → Volume)
    (hchange : ∀ p : Inventory, ∀ v, p.Has v → p.Has (change v)) :
    Alike (Twin store) (fun _ => True)
      (modify (store.mirroring false) text change : ReconcilerM Inventory Reliable _)
      (modify (store.mirroring true) text change) :=
  alike_of_twinAt fun p hp hfields => alike_modify hp hfields text (hchange p)

/-- Every request is answered alike with and without a mirror. -/
theorem alike_request (r : OverlayMap.Request)
    (hr : ∀ request, r = .create request → Store.checkLeaves request.fields.keys = .ok ()) :
    Alike (Twin store) (fun _ => True)
      (r.run (store.mirroring false) : ReconcilerM Inventory Reliable Answer)
      (r.run (store.mirroring true)) := by
  cases r with
  | list filter =>
    exact (alike_of_twinAt fun p hp hfields => alike_list hp hfields filter).map
  | listAll filter =>
    exact (alike_of_twinAt fun p hp hfields => alike_listAll hp hfields filter).map
  | inspect id =>
    exact (alike_of_twinAt fun p hp hfields => alike_inspect hp hfields id).map
  | offer id requested =>
    have hoffer : Alike (Twin store) (fun _ => True)
        (offer (store.mirroring false) id requested : ReconcilerM Inventory Reliable _)
        (offer (store.mirroring true) id requested) :=
      alike_change id _ fun _ _ hv => hv
    exact hoffer.map
  | revoke id revoked =>
    have hrevoke : Alike (Twin store) (fun _ => True)
        (revoke (store.mirroring false) id revoked : ReconcilerM Inventory Reliable _)
        (revoke (store.mirroring true) id revoked) :=
      alike_change id _ fun _ _ hv => hv
    exact hrevoke.map
  | label id labels =>
    have hlabel : Alike (Twin store) (fun _ => True)
        (label (store.mirroring false) id labels : ReconcilerM Inventory Reliable _)
        (label (store.mirroring true) id labels) :=
      (alike_ofResult _ _).bind fun _ _ => alike_change id _ fun _ _ hv => hv
    exact hlabel.map
  | removeLabels id keys =>
    have hremove : Alike (Twin store) (fun _ => True)
        (removeLabels (store.mirroring false) id keys : ReconcilerM Inventory Reliable _)
        (removeLabels (store.mirroring true) id keys) :=
      alike_change id _ fun _ _ hv => hv
    exact hremove.map
  | create request => exact (alike_create (hr request rfl)).map
  | remove id => exact (alike_remove id).map
  | eraseStore =>
    have herase : Alike (Twin store) (fun _ => True)
        (onStore (store.mirroring false).eraseAll : ReconcilerM Inventory Reliable Unit)
        (onStore (store.mirroring true).eraseAll) :=
      alike_of_twinAt fun _ _ _ => alike_onStore Store.alike_eraseAll
    exact herase.map

/-- Every query is answered alike with and without a mirror. -/
theorem alike_query (q : Query)
    (hq : ∀ request, q = .request (.create request) →
      Store.checkLeaves request.fields.keys = .ok ()) :
    Alike (Twin store) (fun _ => True)
      (q.run (store.mirroring false) : ReconcilerM Inventory Reliable _)
      (q.run (store.mirroring true)) := by
  cases q with
  | request r =>
    exact (alike_request r fun request h => hq request (congrArg Query.request h)).map
  | ids =>
    have hids : Alike (Twin store) (fun _ => True)
        (onStore (store.mirroring false).volumeIds : ReconcilerM Inventory Reliable _)
        (onStore (store.mirroring true).volumeIds) :=
      alike_of_twinAt fun p _ _ => alike_onStore Store.alike_volumeIds
    exact hids.map

/-! ### Runs -/

/-- From twin worlds all queries are answered alike, and they lead to twin worlds. -/
theorem twin_worldAfter {queries : List (TextOrder × Query)}
    (hqueries : ∀ order request, (order, .request (.create request)) ∈ queries →
      Store.checkLeaves request.fields.keys = .ok ()) {w w' : World Inventory Reliable}
    (h : Twin store w w') :
    answers (fun q => exec (Query.runIn (store.mirroring false) q)) queries w =
        answers (fun q => exec (Query.runIn (store.mirroring true) q)) queries w' ∧
      Twin store (Query.worldAfter (store.mirroring false) queries w)
        (Query.worldAfter (store.mirroring true) queries w') := by
  unfold Query.worldAfter
  induction queries generalizing w w' with
  | nil => exact ⟨by rw [answers, answers], h⟩
  | cons q queries ih =>
    obtain ⟨order, q⟩ := q
    have hquery : Alike (Twin (store.inOrder order)) _ _ _ := alike_query q fun request hq =>
      hqueries order request (hq ▸ List.mem_cons_self)
    obtain ⟨hsame, hafter, -⟩ := hquery w w' (h.inOrder order)
    obtain ⟨hanswers, hend⟩ := ih
      (fun order' request hq => hqueries order' request (List.mem_cons_of_mem _ hq))
      (hafter.inOrder store.order)
    refine ⟨?_, hend⟩
    rw [answers, answers]
    exact congr (congrArg List.cons hsame) hanswers

/-- Mirroring the fields is not seen. Over services whose names have no slash and no blank ends, a store
that mirrors fields and one that does not are set up on no entries, under one root and for either
backend. Then every sequence of queries, among them requests to create volumes with fields that are
named by leaves, has the same answers, refusals included, and leads to entries that differ at most in
the category of the mirror. The order in which texts are visited may be another at each query. -/
theorem answers_eq_of_mirroring {config : StoreConfig} {services : List String} {i : Inventory}
    (hi : Inventory.ofServices services = .ok i)
    (hs : ∀ s ∈ services, '/' ∉ s.toList ∧ Text.trim s = s) {queries : List (TextOrder × Query)}
    (hqueries : ∀ order request, (order, .request (.create request)) ∈ queries →
      Store.checkLeaves request.fields.keys = .ok ()) :
    let off := Store.ofConfig (config.mirroring false)
    let on := Store.ofConfig (config.mirroring true)
    ∃ es, OpenStore.setUpOn off ∅ = .ok es ∧ OpenStore.setUpOn on ∅ = .ok es ∧
      let w : World Inventory Reliable := ⟨i, es, {}⟩
      answers (fun q => exec (Query.runIn off q)) queries w =
          answers (fun q => exec (Query.runIn on q)) queries w ∧
        ∀ k, ¬ hasPrefix (on.layout.categoryRoot .externalFields) k →
          (Query.worldAfter off queries w).medium.entries.find? k =
            (Query.worldAfter on queries w).medium.entries.find? k := by
  intro off on
  refine ⟨off.started, Store.setUpOn_empty, Store.setUpOn_empty, ?_⟩
  have hp := Inventory.orderly_ofServices hi hs
  have hfields := Inventory.storable_ofServices hi
  have hstart : Twin off ⟨i, off.started, {}⟩ ⟨i, off.started, {}⟩ :=
    ⟨i, hp, hfields, rfl, rfl, Store.mirrored_started⟩
  obtain ⟨hanswers, _, -, -, hend⟩ := twin_worldAfter hqueries hstart
  exact ⟨hanswers, hend.mirrored.agree⟩

/-! ### A field that is mirrored -/

/-- A volume with a field is created and labelled, found by its field, removed, and asked for again. -/
def fieldQueries : List (TextOrder × Query) :=
  [.request (.create { serviceName := "mock", name := "data", fields := .ofList [("tier", "gold")] }),
    .request (.label "mock-vol-003" (.ofList [("app", "web")])),
    .request (.list (.ofPairs [("tier", "gold")])), .ids, .request (.remove "mock-vol-003"),
    .request (.inspect "mock-vol-003"), .ids].map fun q => (.ascending, q)

/-- The store in memory over a single service. -/
theorem answers_eq_of_mirroring_single :
    let i : Inventory := ⟨.ofList [("mock", Inventory.initialVolumes)], 3⟩
    let off := Store.ofConfig (StoreConfig.memory.mirroring false)
    let on := Store.ofConfig (StoreConfig.memory.mirroring true)
    Inventory.ofServices ["mock"] = .ok i ∧
      (∀ s ∈ ["mock"], '/' ∉ s.toList ∧ Text.trim s = s) ∧
      (∀ order request, (order, .request (.create request)) ∈ fieldQueries →
        Store.checkLeaves request.fields.keys = .ok ()) ∧
      ∃ es, OpenStore.setUpOn off ∅ = .ok es ∧ OpenStore.setUpOn on ∅ = .ok es ∧
        let w : World Inventory Reliable := ⟨i, es, {}⟩
        answers (fun q => exec (Query.runIn off q)) fieldQueries w =
            answers (fun q => exec (Query.runIn on q)) fieldQueries w ∧
          ∀ k, ¬ hasPrefix (on.layout.categoryRoot .externalFields) k →
            (Query.worldAfter off fieldQueries w).medium.entries.find? k =
              (Query.worldAfter on fieldQueries w).medium.entries.find? k := by
  have hi : Inventory.ofServices ["mock"] =
      .ok ⟨.ofList [("mock", Inventory.initialVolumes)], 3⟩ := rfl
  have hs : ∀ s ∈ ["mock"], '/' ∉ s.toList ∧ Text.trim s = s := by decide
  have hqueries : ∀ order request, (order, .request (.create request)) ∈ fieldQueries →
      Store.checkLeaves request.fields.keys = .ok () := by
    intro order request hmem
    simp only [fieldQueries, List.map_cons, List.map_nil, List.mem_cons, Prod.mk.injEq,
      Query.request.injEq, OverlayMap.Request.create.injEq, reduceCtorEq, and_false, or_false,
      List.not_mem_nil] at hmem
    obtain ⟨-, rfl⟩ := hmem
    rw [Store.checkLeaves_eq_ok_iff]
    decide
  exact ⟨hi, hs, hqueries, @answers_eq_of_mirroring .memory _ _ hi hs _ hqueries⟩

end Reconciler

end VolumeOverlay
