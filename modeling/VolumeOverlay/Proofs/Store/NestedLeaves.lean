import Mathlib.Data.List.Induction
import VolumeOverlay.Proofs.Store.Footprint

/-!
# Texts beside nested keys

The subtree of an object may hold keys that lie deeper than its leaves: the subtree of another object
whose id goes on with a slash, or what some other writer left. Saving texts goes by the last segment of
a key alone. A deeper key that ends like no wanted text is deleted as if it were a stale leaf, and one
that ends like a wanted text, or in a slash, stays. Loading goes by the last segment too, and of keys
that end alike the last in key order wins, so a deeper key can stand for a text that was just saved
otherwise.

## Main definitions

* `Entries.HoldsExactly key labels`: a subtree that holds its marker and the given texts, and no other
  key
* `Entries.Lingers key names k`: a deeper key that saving texts of some names leaves where it is
* `Entries.Overrides key name k value`: a deeper key that is loaded in place of a leaf

## Main results

* `KeyMap.find?_ofList_filterMap`: of what is picked from entries under one name, the last one wins
* `Entries.find?_texts_iff`: under which key a text is found that is loaded
* `Entries.holdsExactly_withTexts_iff`: a subtree becomes exact unless a deeper key lingers
* `Entries.texts_withTexts_eq_iff`: texts are loaded as they were saved unless one is overridden
* `Store.saveTexts_exact_iff`: saving and loading texts, whatever the store holds
-/

namespace VolumeOverlay

open Actions
open Text (hasPrefix)

/-! ### The last entry under a name -/

namespace KeyMap

variable {α β : Type} {es : List (String × α)} {last : String × α}
  {pick : String × α → Option (String × β)} {name : String}

theorem find?_ofList_concat (es : List (String × β)) (e : String × β) (k : String) :
    (ofList (es ++ [e])).find? k = if k = e.1 then some e.2 else (ofList es).find? k := by
  rw [ofList, ofList, insertMany, insertMany, List.foldl_append]
  exact find?_insert _ _ _ _

/-- What is picked under the name from the last entry overwrites what was picked before. -/
theorem find?_ofList_filterMap_concat {w : β} (h : pick last = some (name, w)) :
    (ofList ((es ++ [last]).filterMap pick)).find? name = some w := by
  rw [List.filterMap_append, List.filterMap_cons_some h, List.filterMap_nil, find?_ofList_concat,
    if_pos rfl]

/-- If nothing is picked under the name from the last entry, what was picked before is found. -/
theorem find?_ofList_filterMap_concat_of_ne (h : ∀ w, pick last ≠ some (name, w)) :
    (ofList ((es ++ [last]).filterMap pick)).find? name = (ofList (es.filterMap pick)).find? name := by
  rw [List.filterMap_append]
  cases hlast : pick last with
  | none => rw [List.filterMap_cons_none hlast, List.filterMap_nil, List.append_nil]
  | some t =>
    have hne : name ≠ t.1 := by
      rintro rfl
      exact h t.2 hlast
    rw [List.filterMap_cons_some hlast, List.filterMap_nil, find?_ofList_concat, if_neg hne]

/-- Of what is picked from entries in ascending order, the last one under a name wins. -/
theorem find?_ofList_filterMap (hes : es.Pairwise fun a b => a.1 < b.1) {v : β} :
    (ofList (es.filterMap pick)).find? name = some v ↔
      ∃ e ∈ es, pick e = some (name, v) ∧
        ∀ e' ∈ es, ∀ w, pick e' = some (name, w) → e'.1 ≤ e.1 := by
  induction es using List.reverseRecOn with
  | nil => simp [ofList, insertMany]
  | append_singleton es last ih =>
    obtain ⟨hinit, -, hlast⟩ := List.pairwise_append.1 hes
    have hbefore : ∀ e ∈ es, e.1 < last.1 := fun e he => hlast e he last List.mem_cons_self
    by_cases hpick : ∃ w, pick last = some (name, w)
    · obtain ⟨w, hw⟩ := hpick
      rw [find?_ofList_filterMap_concat hw, Option.some.injEq]
      constructor
      · rintro rfl
        refine ⟨last, List.mem_append_right _ List.mem_cons_self, hw, fun e he _ _ => ?_⟩
        rcases List.mem_append.1 he with he | he
        · exact Std.le_of_lt (hbefore e he)
        · obtain rfl := List.mem_singleton.1 he
          exact String.le_refl _
      · rintro ⟨e, he, hv, hmax⟩
        rcases List.mem_append.1 he with he | he
        · have hle := hmax last (List.mem_append_right _ List.mem_cons_self) w hw
          exact absurd (hbefore e he) (String.not_lt.2 hle)
        · rw [List.mem_singleton.1 he, hw] at hv
          exact (Prod.mk.inj (Option.some.inj hv)).2
    · rw [find?_ofList_filterMap_concat_of_ne fun w hw => hpick ⟨w, hw⟩, ih hinit]
      simp only [List.mem_append, List.mem_singleton]
      constructor
      · rintro ⟨e, he, hv, hmax⟩
        refine ⟨e, .inl he, hv, ?_⟩
        rintro e' (he' | rfl) w hw
        · exact hmax e' he' w hw
        · exact absurd ⟨w, hw⟩ hpick
      · rintro ⟨e, he | rfl, hv, hmax⟩
        · exact ⟨e, he, hv, fun e' he' => hmax e' (.inl he')⟩
        · exact absurd ⟨v, hv⟩ hpick

end KeyMap

/-! ### Deeper keys -/

namespace Entries

/-- A subtree that holds its marker and the given texts, and no other key. -/
def HoldsExactly (key : String) (labels : LabelMap) (es : Entries) : Prop :=
  ∀ rest, es.find? (key ++ rest) =
    if rest = "" then some [] else (labels.find? rest).map Text.Utf8.encode

/-- A deeper key that saving texts of some names leaves where it is: its last segment is empty or one
of the names. -/
structure Lingers (key : String) (names : List String) (es : Entries) (k : String) : Prop where
  stored : es.contains k
  deeper : ∃ rest : String, '/' ∈ rest.toList ∧ k = key ++ rest
  kept : ∃ name, leafOf k = .ok name ∧ (name = "" ∨ name ∈ names)

/-- A key behind the leaf of a name that is loaded in its place: its last segment is the name, and it
is the last such key of the subtree. -/
structure Overrides (key name : String) (es : Entries) (k : String) (value : Bytes) : Prop where
  stored : es.find? k = some value
  inside : hasPrefix key k
  named : leafOf k = .ok name
  behind : key ++ name < k
  last : ∀ k', es.contains k' → hasPrefix key k' → leafOf k' = .ok name → k' ≤ k

/-- A text that is loaded is found under the last key of the subtree that ends in its name. -/
theorem find?_texts_iff {key name text : String} {es : Entries} :
    (es.texts key).find? name = some text ↔
      name ≠ "" ∧ ∃ k value, es.find? k = some value ∧ hasPrefix key k ∧ leafOf k = .ok name ∧
        Text.Utf8.decodeLossy value = text ∧
          ∀ k', es.contains k' → hasPrefix key k' → leafOf k' = .ok name → k' ≤ k := by
  have hascending : (es.startingWith key).Pairwise fun a b => a.1 < b.1 := by
    rw [KeyMap.startingWith_eq_filter]
    exact es.ascending.filter _
  rw [texts, KeyMap.find?_ofList_filterMap hascending]
  simp only [leafEntry_eq_some_iff, Prod.exists, Prod.forall, KeyMap.mem_startingWith]
  constructor
  · rintro ⟨k, value, ⟨hk, hp⟩, ⟨hleaf, hne, htext⟩, hlast⟩
    refine ⟨hne, k, value, hk, hp, hleaf, htext, fun k' hk' hp' hleaf' => ?_⟩
    obtain ⟨value', hvalue'⟩ := KeyMap.contains_iff.1 hk'
    exact hlast k' value' ⟨hvalue', hp'⟩ _ ⟨hleaf', hne, rfl⟩
  · rintro ⟨hne, k, value, hk, hp, hleaf, htext, hlast⟩
    refine ⟨k, value, ⟨hk, hp⟩, ⟨hleaf, hne, htext⟩, fun k' value' hk' _ hpick => ?_⟩
    exact hlast k' (KeyMap.contains_iff.2 ⟨value', hk'.1⟩) hk'.2 hpick.1

section Subtree

variable {layout : KeyLayout} {category : Category} {id : String} {es : Entries} {labels : LabelMap}

/-- Every key of a subtree has a last segment. -/
theorem exists_leafOf_subtree (rest : String) :
    ∃ name, leafOf (layout.subtree category id ++ rest) = .ok name := by
  unfold leafOf Text.afterLast
  cases h : Text.tailAfter '/' (layout.subtree category id ++ rest).toList with
  | some tail => exact ⟨_, rfl⟩
  | none =>
    rw [Text.tailAfter_eq_none_iff, KeyLayout.subtree] at h
    exact absurd (by simp) h

/-- A key is stale when it ends in a name that is not wanted. -/
theorem isStale_iff {names : List String} {k : String} :
    Store.isStale names k = true ↔ ∃ name, leafOf k = .ok name ∧ name ≠ "" ∧ name ∉ names := by
  unfold Store.isStale
  cases leafOf k with
  | error e => simp
  | ok name => simp

/-- A deeper key that is not stale lingers. -/
theorem lingers_iff {names : List String} {rest : String} (hrest : '/' ∈ rest.toList) :
    es.Lingers (layout.subtree category id) names (layout.subtree category id ++ rest) ↔
      es.contains (layout.subtree category id ++ rest) ∧
        ¬ Store.isStale names (layout.subtree category id ++ rest) = true := by
  obtain ⟨name, hname⟩ : ∃ name, leafOf (layout.subtree category id ++ rest) = .ok name :=
    exists_leafOf_subtree rest
  have hkept : (∃ n, leafOf (layout.subtree category id ++ rest) = .ok n ∧ (n = "" ∨ n ∈ names)) ↔
      ¬ Store.isStale names (layout.subtree category id ++ rest) = true := by
    simp only [isStale_iff, hname, Except.ok.injEq, exists_eq_left']
    tauto
  exact ⟨fun h => ⟨h.stored, hkept.1 h.kept⟩, fun h => ⟨h.1, ⟨rest, hrest, rfl⟩, hkept.2 h.2⟩⟩

/-! ### What is stored and loaded afterwards -/

variable (hlabels : ∀ name ∈ labels.keys, isLeaf name = true)
include hlabels

theorem isLeaf_of_mem_toList : ∀ t ∈ labels.toList, isLeaf t.1 = true :=
  fun t ht => hlabels t.1 (List.mem_map_of_mem ht)

/-- Of the deeper keys, saving texts deletes the stale ones and leaves the others as they were. -/
theorem find?_withTexts_deeper {rest : String} (hrest : '/' ∈ rest.toList) (es : Entries) :
    (es.withTexts (layout.subtree category id) labels.toList).find?
        (layout.subtree category id ++ rest) =
      if Store.isStale labels.keys (layout.subtree category id ++ rest) = true then none
      else es.find? (layout.subtree category id ++ rest) := by
  have hleaf := isLeaf_of_mem_toList hlabels
  split
  · rename_i hstale
    exact find?_withTexts_of_set hleaf labels.nodup_keys (.stale (Text.hasPrefix_append _ _) hstale) es
  · rename_i hkept
    refine find?_withTexts_of_not_set (fun a hset => ?_) es
    -- Neither the marker nor a leaf lies deeper.
    generalize hk : layout.subtree category id ++ rest = k at hset
    cases hset with
    | marker =>
      rw [(String.append_right_inj _).1 (hk.trans String.append_empty.symm)] at hrest
      exact absurd hrest (by decide)
    | text ht =>
      rw [(String.append_right_inj _).1 hk] at hrest
      exact slash_notMem_of_isLeaf (hleaf _ ht) hrest
    | stale _ hs => exact hkept (hk ▸ hs)

/-- A wanted leaf holds its text. -/
theorem find?_withTexts_leaf {name text : String} (h : labels.find? name = some text)
    (es : Entries) :
    (es.withTexts (layout.subtree category id) labels.toList).find?
      (layout.subtree category id ++ name) = some (Text.Utf8.encode text) :=
  find?_withTexts_of_set (isLeaf_of_mem_toList hlabels) labels.nodup_keys
    (.text (t := (name, text)) (KeyMap.find?_eq_some_iff.1 h)) es

/-- A key that ends in a wanted name, and is not its leaf, stays as it was. -/
theorem find?_withTexts_of_named {name k : String} (hname : name ∈ labels.keys)
    (hp : hasPrefix (layout.subtree category id) k) (hk : leafOf k = .ok name)
    (hne : k ≠ layout.subtree category id ++ name) (es : Entries) :
    (es.withTexts (layout.subtree category id) labels.toList).find? k = es.find? k := by
  obtain ⟨rest, rfl⟩ := Text.hasPrefix_iff_exists.1 hp
  by_cases hrest : '/' ∈ rest.toList
  · rw [find?_withTexts_deeper hlabels hrest, if_neg]
    intro hstale
    obtain ⟨name', hname', -, hnot⟩ := isStale_iff.1 hstale
    rw [hk] at hname'
    exact hnot (Except.ok.inj hname' ▸ hname)
  · rw [leafOf_subtree hrest] at hk
    exact absurd (congrArg _ (Except.ok.inj hk)) hne

/-- A subtree becomes exact when texts are saved, unless a deeper key lingers. -/
theorem holdsExactly_withTexts_iff :
    (es.withTexts (layout.subtree category id) labels.toList).HoldsExactly
        (layout.subtree category id) labels ↔
      ∀ k, ¬ es.Lingers (layout.subtree category id) labels.keys k := by
  have hleaf := isLeaf_of_mem_toList hlabels
  constructor
  · intro hexact k hlingers
    obtain ⟨rest, hrest, rfl⟩ := hlingers.deeper
    obtain ⟨hstored, hkept⟩ := (lingers_iff hrest).1 hlingers
    obtain ⟨value, hvalue⟩ := KeyMap.contains_iff.1 hstored
    have hexact := hexact rest
    rw [find?_withTexts_deeper hlabels hrest, if_neg hkept, hvalue] at hexact
    split at hexact
    · rename_i hempty
      rw [hempty] at hrest
      exact absurd hrest (by decide)
    · -- No label has a name with a slash in it.
      obtain ⟨text, htext, -⟩ := Option.map_eq_some_iff.1 hexact.symm
      exact slash_notMem_of_isLeaf (hlabels rest (KeyMap.mem_keys.2 ⟨text, htext⟩)) hrest
  · intro hnone
    refine find?_of_set (fun leaf hmem hslash => ?_) fun k a hset =>
      find?_withTexts_of_set hleaf labels.nodup_keys hset es
    rw [KeyMap.contains, find?_withTexts_deeper hlabels hslash] at hmem
    split at hmem
    · cases hmem
    · rename_i hkept
      exact hnone _ ((lingers_iff hslash).2 ⟨hmem, hkept⟩)

/-- What is loaded has the names that were saved. -/
theorem contains_texts_withTexts_iff {name : String} :
    ((es.withTexts (layout.subtree category id) labels.toList).texts
        (layout.subtree category id)).contains name ↔ labels.contains name := by
  rw [contains_texts_iff]
  constructor
  · rintro ⟨hne, k, hp, hmem, hk⟩
    refine Decidable.byContradiction fun hnot => ?_
    -- A key that ends in another name is stale, and stale keys are gone.
    have hunwanted : name ∉ labels.toList.map (·.1) := fun hwanted =>
      hnot (KeyMap.contains_iff.2 (KeyMap.mem_keys.1 hwanted))
    have hstale := isStale_iff.2 ⟨name, hk, hne, hunwanted⟩
    rw [KeyMap.contains, find?_withTexts_of_set (isLeaf_of_mem_toList hlabels) labels.nodup_keys
      (.stale hp hstale)] at hmem
    cases hmem
  · intro hmem
    obtain ⟨text, htext⟩ := KeyMap.contains_iff.1 hmem
    have hname := hlabels name (KeyMap.mem_keys.2 ⟨text, htext⟩)
    exact ⟨ne_empty_of_isLeaf hname, _, Text.hasPrefix_append _ _,
      KeyMap.contains_iff.2 ⟨_, find?_withTexts_leaf hlabels htext es⟩,
      leafOf_subtree (slash_notMem_of_isLeaf hname)⟩

/-- A deeper key that overrides a label does so after the label was saved. -/
theorem Overrides.find?_texts {name text k : String} {value : Bytes}
    (h : labels.find? name = some text)
    (hover : es.Overrides (layout.subtree category id) name k value) :
    ((es.withTexts (layout.subtree category id) labels.toList).texts
      (layout.subtree category id)).find? name = some (Text.Utf8.decodeLossy value) := by
  have hname : name ∈ labels.keys := KeyMap.mem_keys.2 ⟨text, h⟩
  refine find?_texts_iff.2 ⟨ne_empty_of_isLeaf (hlabels name hname), k, value, ?_, hover.inside,
    hover.named, rfl, fun k' hk' hp' hleaf' => ?_⟩
  · have hne : k ≠ layout.subtree category id ++ name := by
      intro heq
      have hbehind := hover.behind
      rw [heq] at hbehind
      exact String.lt_irrefl _ hbehind
    rw [find?_withTexts_of_named hlabels hname hover.inside hover.named hne, hover.stored]
  · by_cases hne : k' = layout.subtree category id ++ name
    · rw [hne]
      exact Std.le_of_lt hover.behind
    · rw [KeyMap.contains, find?_withTexts_of_named hlabels hname hp' hleaf' hne] at hk'
      exact hover.last k' hk' hp' hleaf'

/-- A text that is loaded is the one that was saved, or that of a deeper key which overrides it. -/
theorem eq_or_overrides_of_find?_texts {name text loaded : String}
    (h : labels.find? name = some text)
    (hloaded : ((es.withTexts (layout.subtree category id) labels.toList).texts
      (layout.subtree category id)).find? name = some loaded) :
    loaded = text ∨ ∃ k value, es.Overrides (layout.subtree category id) name k value ∧
      Text.Utf8.decodeLossy value = loaded := by
  have hname : name ∈ labels.keys := KeyMap.mem_keys.2 ⟨text, h⟩
  have hsaved : (es.withTexts (layout.subtree category id) labels.toList).find?
      (layout.subtree category id ++ name) = _ := find?_withTexts_leaf hlabels h es
  obtain ⟨-, k, value, hk, hp, hnamed, htext, hlast⟩ := find?_texts_iff.1 hloaded
  by_cases hne : k = layout.subtree category id ++ name
  · left
    rw [hne, hsaved] at hk
    rw [← htext, ← Option.some.inj hk, Text.Utf8.decodeLossy_encode]
  · right
    have hle := hlast _ (KeyMap.contains_iff.2 ⟨_, hsaved⟩) (Text.hasPrefix_append _ _)
      (leafOf_subtree (slash_notMem_of_isLeaf (hlabels name hname)))
    refine ⟨k, value, ⟨?_, hp, hnamed, Std.lt_of_le_of_ne hle (Ne.symm hne), ?_⟩, htext⟩
    · rwa [← find?_withTexts_of_named hlabels hname hp hnamed hne]
    · intro k' hk' hp' hleaf'
      by_cases hne' : k' = layout.subtree category id ++ name
      · rwa [hne']
      · rw [KeyMap.contains, ← find?_withTexts_of_named hlabels hname hp' hleaf' hne'] at hk'
        exact hlast k' hk' hp' hleaf'

/-- Texts are loaded as they were saved, unless one is overridden with another text. -/
theorem texts_withTexts_eq_iff :
    (es.withTexts (layout.subtree category id) labels.toList).texts (layout.subtree category id) =
        labels ↔
      ∀ name text, labels.find? name = some text →
        ∀ k value, es.Overrides (layout.subtree category id) name k value →
          Text.Utf8.decodeLossy value = text := by
  constructor
  · intro hload name text htext k value hover
    have hfound := hover.find?_texts hlabels htext
    rw [hload, htext] at hfound
    exact (Option.some.inj hfound).symm
  · intro hover
    apply KeyMap.ext_find?
    intro name
    cases htext : labels.find? name with
    | none =>
      rw [← Option.not_isSome_iff_eq_none]
      intro hsome
      have hmem := (contains_texts_withTexts_iff hlabels).1 hsome
      rw [KeyMap.contains, htext] at hmem
      cases hmem
    | some text =>
      obtain ⟨loaded, hloaded⟩ := KeyMap.contains_iff.1 <|
        (contains_texts_withTexts_iff hlabels).2 (KeyMap.contains_iff.2 ⟨text, htext⟩)
      rw [hloaded]
      rcases eq_or_overrides_of_find?_texts hlabels htext hloaded with heq | ⟨k, value, hk, hvalue⟩
      · rw [heq]
      · rw [← hvalue, hover name text htext k value hk]

end Subtree

end Entries

namespace Store

variable {store : Store} {category : Category} {id : String} {es : Entries}

theorem effect_loadTexts (hid : sanitize id ≠ "") :
    effect (store.loadTexts category id) es =
      (.ok (es.texts (store.layout.subtree category id)), es) := by
  rw [effect, exec_loadTexts es _ hid]

/-- Labels are saved in any order. -/
theorem effect_saveTexts (hid : sanitize id ≠ "") {labels : LabelMap}
    (hlabels : checkLeaves labels.keys = .ok ()) {texts : List (String × String)}
    (hperm : texts.Perm labels.toList) :
    effect (store.saveTexts category id texts) es =
      (.ok (), es.withTexts (store.layout.subtree category id) labels.toList) := by
  have hkeys : (texts.map (·.1)).Perm labels.keys := hperm.map _
  have hnames : checkLeaves (texts.map (·.1)) = .ok () := (checkLeaves_perm hkeys).2 hlabels
  have hleaf : ∀ t ∈ texts, isLeaf t.1 = true := fun t ht =>
    checkLeaves_eq_ok_iff.1 hnames t.1 (List.mem_map_of_mem ht)
  rw [effect, exec_saveTexts es _ hid, hnames]
  dsimp only
  rw [Entries.withTexts_perm hleaf (hkeys.nodup_iff.2 labels.nodup_keys) hperm]

/-- Labels whose names can be leaves are saved whatever the store holds, in any order, and keys outside
the subtree of the object stay as they were. The subtree then holds the marker and the labels, and no
other key, just when no deeper key ended in a slash or in the name of a label. What is loaded has the
names that were saved; it is what was saved just when no deeper key that ends in the name of a label,
and is the last to do so, stands for another text. -/
theorem saveTexts_exact_iff (store : Store) (category : Category) {id : String}
    (hid : sanitize id ≠ "") (es : Entries) (labels : LabelMap)
    (hlabels : checkLeaves labels.keys = .ok ()) {texts : List (String × String)}
    (hperm : texts.Perm labels.toList) :
    ∃ key es' loaded, store.layout.objectKey category id = .ok key ∧
      effect (store.saveTexts category id texts) es = (.ok (), es') ∧
      effect (store.loadTexts category id) es' = (.ok loaded, es') ∧
      (∀ k, ¬ hasPrefix key k → es'.find? k = es.find? k) ∧
      (es'.HoldsExactly key labels ↔ ∀ k, ¬ es.Lingers key labels.keys k) ∧
      (∀ name, loaded.contains name ↔ labels.contains name) ∧
      (loaded = labels ↔ ∀ name text, labels.find? name = some text →
        ∀ k value, es.Overrides key name k value → Text.Utf8.decodeLossy value = text) := by
  have hleaf := checkLeaves_eq_ok_iff.1 hlabels
  refine ⟨_, _, _, KeyLayout.objectKey_eq_ok hid, effect_saveTexts hid hlabels hperm,
    effect_loadTexts hid, ?_, ?_, ?_, ?_⟩
  · exact fun k hk => Entries.find?_withTexts_of_not_hasPrefix hk _ _
  · exact Entries.holdsExactly_withTexts_iff hleaf
  · exact fun name => Entries.contains_texts_withTexts_iff hleaf
  · exact Entries.texts_withTexts_eq_iff hleaf

/-- Entries that hold one label of an object whose id begins like that of another one. -/
def nestedLabel (leaf value : String) : Entries :=
  (∅ : Entries).insert ("polly/volumeadmin/mock-a/x/" ++ leaf) (Text.Utf8.encode value)

theorem contains_nestedLabel_iff {leaf value k : String} :
    (nestedLabel leaf value).contains k ↔ k = "polly/volumeadmin/mock-a/x/" ++ leaf := by
  rw [KeyMap.contains, nestedLabel, KeyMap.find?_insert]
  split
  · rename_i h
    simp [h]
  · rename_i h
    simp only [h, iff_false]
    exact Bool.false_ne_true

/-- A nested label of another name goes when a color is saved. -/
theorem saveTexts_exact_iff_stale :
    let store : Store := { layout := .ofRoot "polly" }
    let labels : LabelMap := .ofList [("color", "red")]
    sanitize "mock-a" ≠ "" ∧ checkLeaves labels.keys = .ok () ∧
      ∃ es', effect (store.saveTexts .adminLabels "mock-a" labels.toList)
          (nestedLabel "team" "ops") = (.ok (), es') ∧
        es'.HoldsExactly "polly/volumeadmin/mock-a/" labels := by
  intro store labels
  have hid : sanitize "mock-a" ≠ "" := by decide
  obtain ⟨key, es', loaded, hkey, hsaved, -, -, hexact, -⟩ :=
    saveTexts_exact_iff store .adminLabels hid (nestedLabel "team" "ops") labels rfl (.refl _)
  obtain rfl : "polly/volumeadmin/mock-a/" = key := Except.ok.inj (rfl.trans hkey)
  refine ⟨hid, rfl, es', hsaved, hexact.2 fun k hlingers => ?_⟩
  obtain rfl := contains_nestedLabel_iff.1 hlingers.stored
  obtain ⟨name, hname, hkept⟩ := hlingers.kept
  obtain rfl : "team" = name := Except.ok.inj (rfl.trans hname)
  exact absurd hkept (by decide)

/-- A nested label of the same name stays when a color is saved, and is loaded in its place. -/
theorem not_saveTexts_exact :
    let store : Store := { layout := .ofRoot "polly" }
    let labels : LabelMap := .ofList [("color", "red")]
    let saved := effect (store.saveTexts .adminLabels "mock-a" labels.toList)
      (nestedLabel "color" "blue")
    saved.1 = .ok () ∧ ¬ saved.2.HoldsExactly "polly/volumeadmin/mock-a/" labels ∧
      ∃ loaded, effect (store.loadTexts .adminLabels "mock-a") saved.2 = (.ok loaded, saved.2) ∧
        loaded.find? "color" = some "blue" := by
  intro store labels saved
  have hlabels : ∀ name ∈ labels.keys, isLeaf name = true := by decide
  have hstored : (nestedLabel "color" "blue").find? "polly/volumeadmin/mock-a/x/color" =
      some (Text.Utf8.encode "blue") := KeyMap.find?_insert_self _ _ _
  have hsaved : saved = (.ok (), (nestedLabel "color" "blue").withTexts
      (store.layout.subtree .adminLabels "mock-a") labels.toList) :=
    effect_saveTexts (by decide) rfl (.refl _)
  rw [hsaved]
  refine ⟨rfl, fun hexact => ?_, _, effect_loadTexts (by decide), ?_⟩
  · apply (Entries.holdsExactly_withTexts_iff hlabels).1 hexact "polly/volumeadmin/mock-a/x/color"
    exact ⟨contains_nestedLabel_iff.2 rfl, ⟨"x/color", by decide, rfl⟩, "color", rfl, .inr (by decide)⟩
  · have hover : (nestedLabel "color" "blue").Overrides (store.layout.subtree .adminLabels "mock-a")
        "color" "polly/volumeadmin/mock-a/x/color" (Text.Utf8.encode "blue") := by
      refine ⟨hstored, by decide, rfl, by decide, fun k hk _ _ => ?_⟩
      rw [contains_nestedLabel_iff.1 hk]
      exact String.le_refl _
    have htext : labels.find? "color" = some "red" := rfl
    rw [hover.find?_texts hlabels htext, Text.Utf8.decodeLossy_encode]

end Store

end VolumeOverlay
