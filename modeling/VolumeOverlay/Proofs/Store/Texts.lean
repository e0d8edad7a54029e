import VolumeOverlay.Proofs.KeyMap
import VolumeOverlay.Proofs.Store.Call
import VolumeOverlay.Proofs.Store.Key
import VolumeOverlay.Proofs.Text.Utf8
import VolumeOverlay.Store.Labels

/-!
# Saving and loading texts

Saving the texts of an object changes keys of its subtree only, whichever call fails. Without faults
it is a function of the entries: the marker is set, the leaves that are not wanted go, and the wanted
ones are written. Loading reads the subtree and changes nothing.

## Main definitions

* `Entries.withTexts key texts`: the entries after the texts are saved
* `Entries.SetByTexts key texts`: what saving texts sets which keys to
* `Entries.texts key`: the texts that are loaded

## Main results

* `Store.moves_saveTexts_of_checked`, `moves_loadTexts`: what every run of the two keeps
* `Entries.find?_withTexts_of_set`, `find?_withTexts_of_not_set`: saved texts, key by key
* `Entries.withTexts_perm`: the order in which texts are saved does not matter
* `Store.exec_saveTexts`, `exec_loadTexts`: the two without faults
* `leafOf_subtree`: the last segment of a key in a subtree
* `Entries.contains_texts_iff`: texts stand under the last segments of their keys
-/

namespace VolumeOverlay

open Actions
open Text (hasPrefix)

variable {σ : Type} [FaultSource σ]

/-! ### Leaves -/

theorem checkLeaf_eq_ok_iff {leaf : String} : checkLeaf leaf = .ok () ↔ isLeaf leaf = true := by
  unfold checkLeaf
  split <;> simp [*]

theorem ne_empty_of_isLeaf {leaf : String} (h : isLeaf leaf = true) : leaf ≠ "" := by
  rintro rfl
  exact absurd h (by decide)

theorem slash_notMem_of_isLeaf {leaf : String} (h : isLeaf leaf = true) : '/' ∉ leaf.toList := by
  rw [isLeaf, Bool.and_eq_true] at h
  simpa using h.2

/-- Names pass the check when each can be a leaf. -/
theorem Store.checkLeaves_eq_ok_iff {names : List String} :
    Store.checkLeaves names = .ok () ↔ ∀ leaf ∈ names, isLeaf leaf = true := by
  induction names with
  | nil => exact ⟨fun _ _ h => absurd h List.not_mem_nil, fun _ => rfl⟩
  | cons leaf names ih =>
    have hstep : Store.checkLeaves (leaf :: names) =
        checkLeaf leaf >>= fun _ => Store.checkLeaves names := rfl
    rw [hstep, List.forall_mem_cons, ← ih, ← checkLeaf_eq_ok_iff]
    cases checkLeaf leaf with
    | error e => simp [bind, Except.bind]
    | ok _ => simp [bind, Except.bind]

/-- Names pass the check in every order, or in none. -/
theorem Store.checkLeaves_perm {names names' : List String} (h : names.Perm names') :
    Store.checkLeaves names = .ok () ↔ Store.checkLeaves names' = .ok () := by
  rw [checkLeaves_eq_ok_iff, checkLeaves_eq_ok_iff]
  simp only [h.mem_iff]

theorem TextOrder.mem_names {order : TextOrder} {texts : LabelMap} {name : String} :
    name ∈ order.names texts ↔ name ∈ texts.keys :=
  ((order.perm texts).map _).mem_iff

@[simp] theorem Store.checkLeaves_names {order : TextOrder} {texts : LabelMap} :
    Store.checkLeaves (order.names texts) = .ok () ↔ Store.checkLeaves texts.keys = .ok () :=
  checkLeaves_perm ((order.perm texts).map _)

/-- Names are refused for one that cannot be a leaf. -/
theorem Store.exists_of_checkLeaves_eq_error {names : List String} {e : StoreError}
    (h : Store.checkLeaves names = .error e) :
    ∃ leaf ∈ names, isLeaf leaf = false ∧ checkLeaf leaf = .error e := by
  induction names with
  | nil => cases h
  | cons leaf names ih =>
    have hstep : Store.checkLeaves (leaf :: names) =
        checkLeaf leaf >>= fun _ => Store.checkLeaves names := rfl
    rw [hstep] at h
    cases hc : checkLeaf leaf with
    | error e' =>
      rw [hc] at h
      cases h
      refine ⟨leaf, List.mem_cons_self, ?_, hc⟩
      rw [← Bool.not_eq_true, ← checkLeaf_eq_ok_iff, hc]
      exact fun h => nomatch h
    | ok _ =>
      rw [hc] at h
      obtain ⟨leaf', hmem, hleaf'⟩ := ih h
      exact ⟨leaf', List.mem_cons_of_mem _ hmem, hleaf'⟩

/-- The last segment of a key. -/
theorem leafOf_append {key leaf : String} (h : '/' ∉ leaf.toList) :
    leafOf (key ++ "/" ++ leaf) = .ok leaf := by
  have htail : Text.afterLast '/' (key ++ "/" ++ leaf) = some leaf := by
    rw [Text.afterLast, String.toList_append, String.toList_append, List.append_assoc]
    show (Text.tailAfter '/' (_ ++ '/' :: leaf.toList)).map _ = _
    rw [Text.tailAfter_append h, Option.map_some, String.ofList_toList]
  rw [leafOf, htail]

/-- The last segment of a key in a subtree. -/
theorem leafOf_subtree {layout : KeyLayout} {category : Category} {id leaf : String}
    (h : '/' ∉ leaf.toList) : leafOf (layout.subtree category id ++ leaf) = .ok leaf :=
  leafOf_append h

/-- The root of a category ends in a slash. -/
theorem leafOf_categoryRoot {layout : KeyLayout} (category : Category) :
    leafOf (layout.categoryRoot category) = .ok "" := by
  rw [KeyLayout.categoryRoot, ← String.append_empty (s := _ ++ "/")]
  exact leafOf_append (by decide)

theorem leafEntry_eq_some_iff {e : String × Bytes} {leaf value : String} :
    Store.leafEntry e = some (leaf, value) ↔
      leafOf e.1 = .ok leaf ∧ leaf ≠ "" ∧ Text.Utf8.decodeLossy e.2 = value := by
  unfold Store.leafEntry
  cases leafOf e.1 with
  | error err => simp
  | ok l =>
    by_cases hl : l = ""
    · subst hl
      simp only [if_true, reduceCtorEq, Except.ok.injEq, false_iff]
      rintro ⟨rfl, hne, -⟩
      exact hne rfl
    · simp only [if_neg hl, Option.some.injEq, Prod.mk.injEq, Except.ok.injEq]
      constructor
      · rintro ⟨rfl, hvalue⟩
        exact ⟨rfl, hl, hvalue⟩
      · rintro ⟨rfl, -, hvalue⟩
        exact ⟨rfl, hvalue⟩

namespace Entries

/-- The entries after the texts of an object are saved under its key. -/
def withTexts (key : String) (texts : List (String × String)) (es : Entries) : Entries :=
  let marked := es.insert key []
  let stale := ((marked.startingWith key).map (·.1)).filter (Store.isStale (texts.map (·.1)))
  (marked.eraseMany stale).insertMany
    (texts.map fun t => (key ++ t.1, Text.Utf8.encode t.2))

/-- The texts that are found under the key of an object. -/
def texts (key : String) (es : Entries) : LabelMap :=
  .ofList ((es.startingWith key).filterMap Store.leafEntry)

theorem texts_congr {key : String} {es es' : Entries}
    (h : ∀ k, hasPrefix key k → es.find? k = es'.find? k) : es.texts key = es'.texts key := by
  rw [texts, texts, KeyMap.startingWith_congr h]

/-- The names among the texts of an object are the last segments of its keys. -/
theorem contains_texts_iff {key leaf : String} {es : Entries} :
    (es.texts key).contains leaf ↔
      leaf ≠ "" ∧ ∃ k, hasPrefix key k ∧ es.contains k ∧ leafOf k = .ok leaf := by
  rw [texts, KeyMap.contains_ofList_iff]
  simp only [List.mem_map, List.mem_filterMap, Prod.exists, leafEntry_eq_some_iff,
    KeyMap.mem_startingWith, KeyMap.contains_iff]
  constructor
  · rintro ⟨_, value, ⟨k, v, ⟨hk, hp⟩, hleaf, hne, rfl⟩, rfl⟩
    exact ⟨hne, k, hp, ⟨v, hk⟩, hleaf⟩
  · rintro ⟨hne, k, hp, ⟨v, hk⟩, hleaf⟩
    exact ⟨leaf, _, ⟨k, v, ⟨hk, hp⟩, hleaf, hne, rfl⟩, rfl⟩

/-! ### Keys that saving sets -/

/-- What saving texts under the key of an object sets the keys of its subtree to: the marker is there,
wanted leaves hold their texts, and stale ones hold nothing. -/
inductive SetByTexts (key : String) (texts : List (String × String)) : String → Option Bytes → Prop
  | marker : SetByTexts key texts key (some [])
  | text {t : String × String} (ht : t ∈ texts) :
    SetByTexts key texts (key ++ t.1) (some (Text.Utf8.encode t.2))
  | stale {k : String} (hk : hasPrefix key k) (hs : Store.isStale (texts.map (·.1)) k = true) :
    SetByTexts key texts k none

/-- Only keys of the subtree are set. -/
theorem SetByTexts.inSubtree {key k : String} {texts : List (String × String)} {a : Option Bytes}
    (h : SetByTexts key texts k a) : hasPrefix key k := by
  cases h with
  | marker => exact Text.hasPrefix_refl key
  | text ht => exact Text.hasPrefix_append _ _
  | stale hk hs => exact hk

/-- What is set does not depend on the order of the texts. -/
theorem SetByTexts.of_perm {key k : String} {texts texts' : List (String × String)}
    {a : Option Bytes} (h : SetByTexts key texts k a) (hperm : texts.Perm texts') :
    SetByTexts key texts' k a := by
  cases h with
  | marker => exact .marker
  | text ht => exact .text (hperm.mem_iff.1 ht)
  | stale hk hs =>
    refine .stale hk ?_
    unfold Store.isStale at hs ⊢
    simp only [(hperm.map (·.1)).contains_eq] at hs
    exact hs

/-- A key that is not set stays as it was. -/
theorem find?_withTexts_of_not_set {key k : String} {texts : List (String × String)}
    (hk : ∀ a, ¬ SetByTexts key texts k a) (es : Entries) :
    (es.withTexts key texts).find? k = es.find? k := by
  have hmarker : k ≠ key := by
    rintro rfl
    exact hk _ .marker
  unfold withTexts
  dsimp only
  rw [KeyMap.find?_insertMany_of_notMem, KeyMap.find?_eraseMany, if_neg,
    KeyMap.find?_insert_of_ne _ _ hmarker]
  · intro hstale
    obtain ⟨hlisted, hs⟩ := List.mem_filter.1 hstale
    exact hk _ (.stale (KeyMap.mem_map_startingWith.1 hlisted).2 hs)
  · intro hmem
    obtain ⟨_, he, rfl⟩ := List.mem_map.1 hmem
    obtain ⟨t, ht, rfl⟩ := List.mem_map.1 he
    exact hk _ (.text ht)

/-- Saving the texts of an object leaves the keys outside its subtree as they were. -/
theorem find?_withTexts_of_not_hasPrefix {key k : String} (hk : ¬ hasPrefix key k)
    (texts : List (String × String)) (es : Entries) :
    (es.withTexts key texts).find? k = es.find? k :=
  find?_withTexts_of_not_set (fun _ h => hk h.inSubtree) es

section Subtree

variable {layout : KeyLayout} {category : Category} {id : String} {es : Entries} {labels : LabelMap}

/-- Of the keys of leaves, those with a name that is not wanted are stale. The marker is not, since it
has no name. -/
theorem isStale_subtree {wanted : List String} {leaf : String} (h : '/' ∉ leaf.toList) :
    Store.isStale wanted (layout.subtree category id ++ leaf) = true ↔
      leaf ≠ "" ∧ leaf ∉ wanted := by
  rw [Store.isStale, leafOf_subtree h]
  simp

/-- A key that is set holds what it is set to. -/
theorem find?_withTexts_of_set {texts : List (String × String)}
    (hleaf : ∀ t ∈ texts, isLeaf t.1 = true) (hnodup : (texts.map (·.1)).Nodup) {k : String}
    {a : Option Bytes} (h : SetByTexts (layout.subtree category id) texts k a) (es : Entries) :
    (es.withTexts (layout.subtree category id) texts).find? k = a := by
  -- A wanted leaf is no marker, and it is never stale.
  have hne : ∀ t ∈ texts, layout.subtree category id ++ t.1 ≠ layout.subtree category id := by
    intro t ht heq
    apply ne_empty_of_isLeaf (hleaf t ht)
    exact (String.append_right_inj _).1 (heq.trans String.append_empty.symm)
  have hwanted : ∀ t ∈ texts,
      ¬ Store.isStale (texts.map (·.1)) (layout.subtree category id ++ t.1) = true := by
    intro t ht hs
    have hstale := (isStale_subtree (slash_notMem_of_isLeaf (hleaf t ht))).1 hs
    exact hstale.2 (List.mem_map_of_mem ht)
  unfold withTexts
  dsimp only
  cases h with
  | text ht =>
    apply KeyMap.find?_insertMany_of_mem
    · rw [List.map_map, List.Nodup, List.pairwise_map]
      refine (List.pairwise_map.1 hnodup).imp ?_
      intro t u htu heq
      exact htu ((String.append_right_inj _).1 heq)
    · exact List.mem_map_of_mem ht
  | marker =>
    rw [KeyMap.find?_insertMany_of_notMem, KeyMap.find?_eraseMany, if_neg,
      KeyMap.find?_insert_self]
    · intro hstale
      obtain ⟨-, hs⟩ := List.mem_filter.1 hstale
      have hempty : Store.isStale (texts.map (·.1)) (layout.subtree category id ++ "") = true := by
        rwa [String.append_empty]
      exact ((isStale_subtree (by decide)).1 hempty).1 rfl
    · intro hmem
      obtain ⟨_, he, hk⟩ := List.mem_map.1 hmem
      obtain ⟨t, ht, rfl⟩ := List.mem_map.1 he
      exact hne t ht hk
  | stale hk hs =>
    rw [KeyMap.find?_insertMany_of_notMem, KeyMap.find?_eraseMany]
    · -- A stale key that is there is listed, and then it goes.
      split
      · rfl
      · rename_i hkept
        rw [← Option.not_isSome_iff_eq_none]
        intro hthere
        apply hkept
        exact List.mem_filter.2 ⟨KeyMap.mem_map_startingWith.2 ⟨hthere, hk⟩, hs⟩
    · intro hmem
      obtain ⟨_, he, rfl⟩ := List.mem_map.1 hmem
      obtain ⟨t, ht, rfl⟩ := List.mem_map.1 he
      exact hwanted t ht hs

/-- Texts may be saved in any order. -/
theorem withTexts_perm {texts texts' : List (String × String)}
    (hleaf : ∀ t ∈ texts, isLeaf t.1 = true) (hnodup : (texts.map (·.1)).Nodup)
    (hperm : texts.Perm texts') (es : Entries) :
    es.withTexts (layout.subtree category id) texts =
      es.withTexts (layout.subtree category id) texts' := by
  have hleaf' : ∀ t ∈ texts', isLeaf t.1 = true := fun t ht => hleaf t (hperm.mem_iff.2 ht)
  have hnodup' : (texts'.map (·.1)).Nodup := (hperm.map _).nodup_iff.1 hnodup
  apply KeyMap.ext_find?
  intro k
  by_cases hset : ∃ a, SetByTexts (layout.subtree category id) texts k a
  · obtain ⟨a, ha⟩ := hset
    rw [find?_withTexts_of_set hleaf hnodup ha, find?_withTexts_of_set hleaf' hnodup'
      (ha.of_perm hperm)]
  · rw [find?_withTexts_of_not_set (not_exists.1 hset), find?_withTexts_of_not_set]
    intro a ha
    exact hset ⟨a, ha.of_perm hperm.symm⟩

/-! ### Texts that are found as they were saved -/

/-- A subtree in which every key that saving texts sets is as it is set, and which has no deeper keys,
holds its marker and those texts. -/
theorem find?_of_set
    (hflat : ∀ leaf, es.contains (layout.subtree category id ++ leaf) → '/' ∉ leaf.toList)
    (h : ∀ k a, SetByTexts (layout.subtree category id) labels.toList k a → es.find? k = a)
    (leaf : String) :
    es.find? (layout.subtree category id ++ leaf) =
      if leaf = "" then some [] else (labels.find? leaf).map Text.Utf8.encode := by
  by_cases hempty : leaf = ""
  · rw [hempty, if_pos rfl, String.append_empty]
    exact h _ _ .marker
  rw [if_neg hempty]
  cases hfind : labels.find? leaf with
  | some value => exact h _ _ (.text (t := (leaf, value)) (KeyMap.find?_eq_some_iff.1 hfind))
  | none =>
    have hwanted : leaf ∉ labels.toList.map (·.1) := by
      intro hmem
      obtain ⟨value, hvalue⟩ := KeyMap.mem_keys.1 hmem
      rw [hfind] at hvalue
      cases hvalue
    rw [Option.map_none, ← Option.not_isSome_iff_eq_none]
    intro hthere
    -- A leaf that is there and not wanted is stale, so it cannot be there.
    have hstale : Store.isStale (labels.toList.map (·.1)) (layout.subtree category id ++ leaf) = true :=
      (isStale_subtree (hflat leaf hthere)).2 ⟨hempty, hwanted⟩
    rw [h _ _ (.stale (Text.hasPrefix_append _ _) hstale)] at hthere
    cases hthere

/-- Saving texts under leaves puts no key deeper into the subtree. -/
theorem slash_notMem_of_withTexts {texts : List (String × String)}
    (htexts : ∀ t ∈ texts, isLeaf t.1 = true) (hnodup : (texts.map (·.1)).Nodup)
    (hflat : ∀ leaf, es.contains (layout.subtree category id ++ leaf) → '/' ∉ leaf.toList)
    {leaf : String}
    (h : (es.withTexts (layout.subtree category id) texts).contains
      (layout.subtree category id ++ leaf)) : '/' ∉ leaf.toList := by
  obtain ⟨value, hvalue⟩ := KeyMap.contains_iff.1 h
  by_cases hset : ∃ a, SetByTexts (layout.subtree category id) texts
      (layout.subtree category id ++ leaf) a
  · obtain ⟨a, ha⟩ := hset
    rw [find?_withTexts_of_set htexts hnodup ha] at hvalue
    subst hvalue
    -- A key that is there is the marker or a wanted leaf.
    generalize hk : layout.subtree category id ++ leaf = k at ha
    cases ha with
    | marker =>
      rw [(String.append_right_inj _).1 (hk.trans String.append_empty.symm)]
      decide
    | text ht =>
      rw [(String.append_right_inj _).1 hk]
      exact slash_notMem_of_isLeaf (htexts _ ht)
  · rw [find?_withTexts_of_not_set (not_exists.1 hset)] at hvalue
    exact hflat leaf (KeyMap.contains_iff.2 ⟨value, hvalue⟩)

/-- Where every key is a leaf, saving texts makes the subtree hold its marker and those texts. -/
theorem find?_withTexts (hlabels : ∀ leaf ∈ labels.keys, isLeaf leaf = true)
    (hflat : ∀ leaf, es.contains (layout.subtree category id ++ leaf) → '/' ∉ leaf.toList)
    (leaf : String) :
    (es.withTexts (layout.subtree category id) labels.toList).find?
        (layout.subtree category id ++ leaf) =
      if leaf = "" then some [] else (labels.find? leaf).map Text.Utf8.encode := by
  have htexts : ∀ t ∈ labels.toList, isLeaf t.1 = true := fun t ht =>
    hlabels t.1 (List.mem_map_of_mem ht)
  apply find?_of_set
  · exact fun leaf hleaf => slash_notMem_of_withTexts htexts labels.nodup_keys hflat hleaf
  · exact fun k a hset => find?_withTexts_of_set htexts labels.nodup_keys hset es

/-- A subtree that holds its marker and the given texts is read as those texts. -/
theorem texts_eq_of_find? (hlabels : ∀ leaf ∈ labels.keys, isLeaf leaf = true)
    (h : ∀ leaf, es.find? (layout.subtree category id ++ leaf) =
      if leaf = "" then some [] else (labels.find? leaf).map Text.Utf8.encode) :
    es.texts (layout.subtree category id) = labels := by
  refine KeyMap.ofList_eq_of_mem_iff fun leaf value => ?_
  simp only [List.mem_filterMap, Prod.exists, leafEntry_eq_some_iff, KeyMap.mem_startingWith]
  constructor
  · rintro ⟨k, v, ⟨hk, hp⟩, hleaf, hne, rfl⟩
    obtain ⟨rest, rfl⟩ := Text.hasPrefix_iff_exists.1 hp
    rw [h] at hk
    split at hk
    · -- The marker is no text.
      rename_i hempty
      rw [hempty, leafOf_subtree (by decide)] at hleaf
      exact absurd (Except.ok.inj hleaf).symm hne
    · obtain ⟨value, hvalue, rfl⟩ := Option.map_eq_some_iff.1 hk
      have hrest := hlabels rest (KeyMap.mem_keys.2 ⟨value, hvalue⟩)
      rw [leafOf_subtree (slash_notMem_of_isLeaf hrest)] at hleaf
      rw [← Except.ok.inj hleaf, hvalue, Text.Utf8.decodeLossy_encode]
  · intro hfind
    have hleaf := hlabels leaf (KeyMap.mem_keys.2 ⟨value, hfind⟩)
    refine ⟨layout.subtree category id ++ leaf, Text.Utf8.encode value, ⟨?_, ?_⟩, ?_, ?_, ?_⟩
    · rw [h, if_neg (ne_empty_of_isLeaf hleaf), hfind]
      rfl
    · exact Text.hasPrefix_append _ _
    · exact leafOf_subtree (slash_notMem_of_isLeaf hleaf)
    · exact ne_empty_of_isLeaf hleaf
    · exact Text.Utf8.decodeLossy_encode value

end Subtree

end Entries

namespace Store

variable {store : Store} {category : Category} {id : String}

/-! ### Any medium -/

section Moves

variable {ρ : Medium σ → Medium σ → Prop} [MediumOrder ρ]

/-- An action that begins with the key of an object goes on with the subtree of that object, if at
all. -/
theorem moves_objectKey_bind {α : Type} {f : String → StoreM σ α}
    (hf : Moves ρ (f (store.layout.subtree category id))) :
    Moves ρ ((liftM (store.layout.objectKey category id) : StoreM σ String) >>= f) := by
  refine (Moves.liftExcept _).bind_of (P := fun key => key = store.layout.subtree category id)
    (fun m key m' hkey => ?_) ?_
  · rw [exec_liftExcept] at hkey
    exact (KeyLayout.objectKey_eq_ok_iff.1 (Prod.mk.inj hkey).1).2
  · rintro _ rfl
    exact hf

/-- Every change that saving texts makes is one of those it is for, and there is none unless every name
can be a leaf. -/
theorem moves_saveTexts_of_checked (texts : List (String × String))
    (h : (∀ t ∈ texts, isLeaf t.1 = true) →
      Admits ρ (Entries.SetByTexts (store.layout.subtree category id) texts)) :
    Moves ρ (store.saveTexts category id texts : StoreM σ Unit) := by
  refine (Moves.liftExcept _).bind_of (P := fun _ => checkLeaves (texts.map (·.1)) = .ok ())
    (fun m _ m' hcheck => ?_) fun _ hcheck => moves_objectKey_bind ?_
  · rw [exec_liftExcept] at hcheck
    exact (Prod.mk.inj hcheck).1
  replace h := h fun t ht => checkLeaves_eq_ok_iff.1 hcheck t.1 (List.mem_map_of_mem ht)
  refine (StoreM.moves_put fun m => h.insert m _ _ .marker).bind fun _ => ?_
  refine (StoreM.moves_list _).bind_of
    (P := fun pairs => ∀ e ∈ pairs, hasPrefix (store.layout.subtree category id) e.1)
    (fun m pairs m' hlist e he => ?_) fun pairs hpairs => ?_
  · rw [StoreM.eq_of_exec_list hlist] at he
    exact (KeyMap.mem_startingWith.1 he).2
  refine Moves.bind (Moves.forM fun k hk => ?_) fun _ => Moves.forM fun t ht => ?_
  · obtain ⟨e, he, rfl⟩ := List.mem_map.1 hk
    split
    · rename_i hstale
      exact StoreM.moves_delete fun m => h.erase m _ (.stale (hpairs e he) hstale)
    · exact Moves.pure _
  · exact StoreM.moves_put fun m => h.insert m _ _ (.text ht)

theorem moves_saveTextsOf (texts : List (String × String))
    (h : Admits ρ (Entries.SetByTexts (store.layout.subtree category id) texts)) :
    Moves ρ (store.saveTexts category id texts : StoreM σ Unit) :=
  moves_saveTexts_of_checked texts fun _ => h

/-- Loading texts changes no entry. -/
theorem moves_loadTexts : Moves ρ (store.loadTexts category id : StoreM σ LabelMap) :=
  (Moves.liftExcept _).bind fun _ => (StoreM.moves_listOrNone _).bind fun _ => Moves.pure _

end Moves

omit [FaultSource σ] in
/-- An id that is not sanitized to nothing has the key of its subtree. -/
theorem exec_objectKey_bind {α : Type} (hid : sanitize id ≠ "") (f : String → StoreM σ α)
    (m : Medium σ) :
    exec ((liftM (store.layout.objectKey category id) : StoreM σ String) >>= f) m =
      exec (f (store.layout.subtree category id)) m := by
  rw [KeyLayout.objectKey_eq_ok hid, exec_bind_of_ok (exec_liftExcept _ _)]

/-! ### Media without faults -/

section Reliable

variable (es : Entries) (s : Reliable)

theorem exec_forM_delete (p : String → Bool) (ks : List String) :
    exec (ks.forM fun k => if p k then (StoreM.delete k : StoreM Reliable Unit) else pure ())
      ⟨es, s⟩ = (.ok (), ⟨es.eraseMany (ks.filter p), s⟩) := by
  induction ks generalizing es with
  | nil => rfl
  | cons k ks ih =>
    rw [forM_cons]
    by_cases hk : p k
    · rw [if_pos hk, exec_bind_of_ok (StoreM.exec_delete es s k), ih, List.filter_cons_of_pos hk]
      rfl
    · rw [if_neg hk, exec_bind_of_ok (exec_pure _ _), ih, List.filter_cons_of_neg hk]

theorem exec_forM_put (key : String) (texts : List (String × String)) :
    exec (texts.forM fun (leaf, value) =>
        (StoreM.put (key ++ leaf) (Text.Utf8.encode value) : StoreM Reliable Unit)) ⟨es, s⟩ =
      (.ok (), ⟨es.insertMany (texts.map fun t => (key ++ t.1, Text.Utf8.encode t.2)), s⟩) := by
  induction texts generalizing es with
  | nil => rfl
  | cons t ts ih =>
    rw [forM_cons]
    dsimp only
    rw [exec_bind_of_ok (StoreM.exec_put es s _ _), ih]
    rfl

/-- Saving texts without faults: refused before anything is written, or done in full. -/
theorem exec_saveTexts (hid : sanitize id ≠ "") (texts : List (String × String)) :
    exec (store.saveTexts category id texts : StoreM Reliable Unit) ⟨es, s⟩ =
      match checkLeaves (texts.map (·.1)) with
      | .error e => (.error e, ⟨es, s⟩)
      | .ok () => (.ok (), ⟨es.withTexts (store.layout.subtree category id) texts, s⟩) := by
  unfold saveTexts
  dsimp only
  cases hcheck : checkLeaves (texts.map (·.1)) with
  | error e => rw [exec_bind_of_error (exec_liftExcept _ _)]
  | ok _ =>
    rw [exec_bind_of_ok (exec_liftExcept _ _), exec_objectKey_bind hid,
      exec_bind_of_ok (StoreM.exec_put _ _ _ _)]
    -- The marker that was just written is listed, so the listing does not fail.
    have hmem : (store.layout.subtree category id, []) ∈
        (es.insert (store.layout.subtree category id) []).startingWith
          (store.layout.subtree category id) :=
      KeyMap.mem_startingWith.2 ⟨KeyMap.find?_insert_self _ _ _, Text.hasPrefix_refl _⟩
    rw [exec_bind_of_ok (StoreM.exec_list_of_mem _ _ _ hmem),
      exec_bind_of_ok (exec_forM_delete _ _ _ _), exec_forM_put]
    rfl

/-- Loading texts without faults. -/
theorem exec_loadTexts (hid : sanitize id ≠ "") :
    exec (store.loadTexts category id : StoreM Reliable LabelMap) ⟨es, s⟩ =
      (.ok (es.texts (store.layout.subtree category id)), ⟨es, s⟩) := by
  unfold loadTexts
  rw [exec_objectKey_bind hid, exec_bind_of_ok (StoreM.exec_listOrNone _ _ _)]
  rfl

end Reliable

end Store

end VolumeOverlay
