import VolumeOverlay.OverlayId
import VolumeOverlay.Proofs.Text.Blank
import VolumeOverlay.Proofs.Text.Prefix
import VolumeOverlay.Store.Key

/-!
# Subtrees of the key space

The keys of an object are those that begin with its object key. Two such subtrees have no key in
common unless they belong to one category and one of the sanitized ids, with a slash behind it,
begins with the other. Ids in this relation overlap: they are spelled alike up to blanks and slashes
at the ends, or one is a path inside the other.

## Main definitions

* `KeyLayout.subtree category id`: the object key of an id, also where there is none
* `KeyLayout.Direct category id k`: a key in the subtree of an object, but not deeper in it
* `OverlayId.Apart a b`: the records of two ids have no key in common
* `OverlayId.IsPlain id`: an id that is one segment of a key as it stands
* `OverlayId.IsTidy id`: an id without slashes and without blanks around it

## Main results

* `objectKey_eq_ok_iff`: an id has an object key unless nothing of it is left
* `subtree_diverge`, `subtree_diverge_of_ne`: subtrees without a common key
* `segmentCount_append_leaf`: how many segments the key of a leaf has
* `objectKey_of_parse`: an overlay id has an object key in every category
* `OverlayId.IsPlain.apart`: different plain ids are apart
-/

namespace VolumeOverlay

open Text (Diverge hasPrefix)

/-- The records of two ids have no key in common: with a slash behind it, neither sanitized id begins
with the other. -/
def OverlayId.Apart (a b : OverlayId) : Prop :=
  Diverge (sanitize a.text ++ "/") (sanitize b.text ++ "/")

instance (a b : OverlayId) : Decidable (a.Apart b) :=
  inferInstanceAs (Decidable (Diverge _ _))

/-! ### Sanitized ids -/

/-- A character that is neither blank nor a slash stays when a text is sanitized. -/
theorem mem_sanitize {s : String} {c : Char} (h : c ∈ s.toList) (hb : Text.isBlank c = false)
    (hs : c ≠ '/') : c ∈ (sanitize s).toList := by
  rw [sanitize, Text.toList_trimSlashes, Text.toList_trim]
  exact Text.mem_stripEnds (Text.mem_stripEnds h hb) (by simpa using hs)

/-- A text without blank ends and without slashes is left as it is. -/
theorem sanitize_eq_self {s : String} (hhead : ∀ c ∈ s.toList.head?, Text.isBlank c = false)
    (hlast : ∀ c ∈ s.toList.getLast?, Text.isBlank c = false) (hs : '/' ∉ s.toList) :
    sanitize s = s := by
  rw [← String.toList_inj, sanitize, Text.toList_trimSlashes, Text.toList_trim,
    Text.stripEnds_eq_self hhead hlast, Text.stripEnds_eq_self]
  · intro c hc
    simpa using fun e : c = '/' => hs (e ▸ List.mem_of_head? hc)
  · intro c hc
    simpa using fun e : c = '/' => hs (e ▸ List.mem_of_getLast? hc)

theorem sanitize_ne_empty {s : String} {c : Char} (h : c ∈ s.toList)
    (hb : Text.isBlank c = false) (hs : c ≠ '/') : sanitize s ≠ "" := by
  intro he
  have hc := mem_sanitize h hb hs
  rw [he, String.toList_empty] at hc
  exact List.not_mem_nil hc

/-! ### Overlay ids -/

namespace OverlayId

theorem eq_of_text_eq {a b : OverlayId} (h : a.text = b.text) : a = b := by
  cases a
  cases b
  exact congrArg OverlayId.mk h

theorem parse_eq_ok_iff {s : String} {id : OverlayId} :
    parse s = .ok id ↔
      id = ⟨s⟩ ∧ ∃ service external,
        split ⟨s⟩ = some (service, external) ∧ service ≠ "" ∧ external ≠ "" := by
  unfold parse
  by_cases hs : s = ""
  · subst hs
    rw [if_pos rfl]
    have hnone : split ⟨""⟩ = none := by decide
    simp [hnone]
  · rw [if_neg hs]
    cases hsplit : split ⟨s⟩ with
    | none => simp
    | some parts =>
      obtain ⟨service, external⟩ := parts
      by_cases h₁ : service = ""
      · simp [h₁]
      · by_cases h₂ : external = ""
        · simp [h₁, h₂]
        · simp only [if_neg h₁, if_neg h₂, Except.ok.injEq, Option.some.injEq, Prod.mk.injEq]
          exact ⟨fun e => ⟨e.symm, service, external, ⟨rfl, rfl⟩, h₁, h₂⟩, fun e => e.1.symm⟩

theorem eq_of_parse {s : String} {id : OverlayId} (h : parse s = .ok id) : id = ⟨s⟩ :=
  (parse_eq_ok_iff.1 h).1

theorem separator_mem_of_split {id : OverlayId} {service external : String}
    (h : id.split = some (service, external)) : separator ∈ id.text.toList := by
  rw [(Text.cutFirst_eq_some_iff.1 h).1]
  simp

theorem separator_mem_of (service external : String) :
    separator ∈ (of service external).text.toList := by
  simp [of, separator]

/-- An id with a separator is not sanitized to nothing. -/
theorem sanitize_ne_empty_of_mem {id : OverlayId} (h : separator ∈ id.text.toList) :
    sanitize id.text ≠ "" :=
  sanitize_ne_empty h (by decide) (by decide)

/-- An accepted id is the id of its service and its external id. -/
theorem of_of_split {id : OverlayId} {service external : String}
    (h : id.split = some (service, external)) : of service external = id := by
  obtain ⟨text⟩ := id
  have ht := (Text.cutFirst_eq_some_iff.1 h).1
  simp only [of, mk.injEq, ← String.toList_inj, String.toList_append, ht]
  simp [separator]

/-- A service name without a separator is found again in the ids of its volumes. -/
theorem split_of {service external : String} (h : separator ∉ service.toList) :
    (of service external).split = some (service, external) := by
  refine Text.cutFirst_eq_some_iff.2 ⟨?_, h⟩
  simp [of, separator]

/-- An overlay id made of a service name and an external id is accepted. -/
theorem parse_of {service external : String} (hservice : service ≠ "")
    (hsep : separator ∉ service.toList) (hexternal : external ≠ "") :
    parse (of service external).text = .ok (of service external) :=
  parse_eq_ok_iff.2 ⟨rfl, service, external, split_of hsep, hservice, hexternal⟩

end OverlayId

/-! ### Plain ids -/

namespace OverlayId

/-- An id that is one segment of a key as it stands. -/
structure IsPlain (id : OverlayId) : Prop where
  sanitize_eq : sanitize id.text = id.text
  ne_empty : id.text ≠ ""
  slash_notMem : '/' ∉ id.text.toList

/-- An id without slashes and without blanks around it. -/
structure IsTidy (id : OverlayId) : Prop where
  slash_notMem : '/' ∉ id.text.toList
  trim_eq : Text.trim id.text = id.text

/-- A tidy id is plain, unless nothing is left of it. -/
theorem IsTidy.isPlain {id : OverlayId} (h : id.IsTidy) (hid : sanitize id.text ≠ "") :
    id.IsPlain := by
  have hends : ∀ c, c ∈ id.text.toList → (c == '/') = false := by
    intro c hc
    simpa using fun heq : c = '/' => h.slash_notMem (heq ▸ hc)
  have hsanitize : sanitize id.text = id.text := by
    rw [sanitize, h.trim_eq, ← String.toList_inj, Text.toList_trimSlashes]
    apply Text.stripEnds_eq_self
    · exact fun c hc => hends c (List.mem_of_head? hc)
    · exact fun c hc => hends c (List.mem_of_getLast? hc)
  exact ⟨hsanitize, hsanitize ▸ hid, h.slash_notMem⟩

/-- The service that owns a volume, as its id tells it. -/
def owner (id : OverlayId) : String :=
  (id.split.map (·.1)).getD ""

theorem owner_of {service external : String} (h : separator ∉ service.toList) :
    (of service external).owner = service := by
  rw [owner, split_of h]
  rfl

theorem IsPlain.sanitize_ne_empty {id : OverlayId} (h : id.IsPlain) : sanitize id.text ≠ "" := by
  rw [h.sanitize_eq]
  exact h.ne_empty

/-- A plain id with a slash behind it begins with no other plain id and a slash. -/
theorem IsPlain.eq_of_hasPrefix {a b : OverlayId} (ha : a.IsPlain) (hb : b.IsPlain)
    (h : hasPrefix (a.text ++ "/") (b.text ++ "/")) : a = b := by
  -- Both ids are what stands before the first slash.
  obtain ⟨t, ht⟩ := Text.hasPrefix_iff_exists.1 h
  have hcut : Text.cutFirst '/' (b.text ++ "/") = some (a.text, t) :=
    Text.cutFirst_eq_some_iff.2 ⟨by simp [ht], ha.slash_notMem⟩
  have hcut' : Text.cutFirst '/' (b.text ++ "/") = some (b.text, "") :=
    Text.cutFirst_eq_some_iff.2 ⟨by simp, hb.slash_notMem⟩
  obtain ⟨htext, -⟩ := Prod.mk.inj (Option.some.inj (hcut.symm.trans hcut'))
  exact eq_of_text_eq htext

/-- Different plain ids are apart. -/
theorem IsPlain.apart {a b : OverlayId} (ha : a.IsPlain) (hb : b.IsPlain) (h : a ≠ b) :
    a.Apart b := by
  rw [Apart, ha.sanitize_eq, hb.sanitize_eq]
  exact ⟨fun hp => h (ha.eq_of_hasPrefix hb hp), fun hp => h (hb.eq_of_hasPrefix ha hp).symm⟩

/-- A service name without slashes and blank ends makes plain ids with external ids of that kind. -/
theorem isPlain_of {service external : String} (hservice : service ≠ "")
    (htrim : Text.trim service = service) (hslash : '/' ∉ service.toList)
    (hext : ∀ c ∈ external.toList, Text.isBlank c = false ∧ c ≠ '/') :
    (of service external).IsPlain := by
  have htext : (of service external).text.toList =
      service.toList ++ separator :: external.toList := by
    simp [of]
  have hnotMem : '/' ∉ (of service external).text.toList := by
    rw [htext, List.mem_append, List.mem_cons]
    rintro (h | h | h)
    · exact hslash h
    · exact absurd h (by decide)
    · exact (hext _ h).2 rfl
  refine ⟨sanitize_eq_self (fun c hc => ?_) (fun c hc => ?_) hnotMem, fun h => ?_, hnotMem⟩
  · obtain ⟨a, as, has⟩ : ∃ a as, service.toList = a :: as :=
      List.exists_cons_of_ne_nil fun h => hservice (String.toList_eq_nil_iff.1 h)
    rw [htext, has] at hc
    have hhead : ∀ c ∈ (Text.stripEnds Text.isBlank service.toList).head?,
        Text.isBlank c = false := Text.head?_stripEnds
    rw [← Text.toList_trim, htrim, has] at hhead
    exact hhead c hc
  · -- The last character is the separator or one of the external id.
    rw [htext, List.getLast?_append, List.getLast?_cons, Option.some_or] at hc
    have hlast : (separator :: external.toList).getLast? = some c := List.getLast?_cons.trans hc
    rcases List.mem_cons.1 (List.mem_of_getLast? hlast) with rfl | h
    · decide
    · exact (hext c h).1
  · rw [← String.toList_eq_nil_iff, htext] at h
    exact absurd h (by simp)

end OverlayId

/-! ### Subtrees -/

namespace KeyLayout

variable (layout : KeyLayout)

/-- The key of the subtree of an object. -/
def subtree (category : Category) (id : String) : String :=
  layout.categoryRoot category ++ sanitize id ++ "/"

variable {layout}

theorem objectKey_eq_ok {category : Category} {id : String} (h : sanitize id ≠ "") :
    layout.objectKey category id = .ok (layout.subtree category id) := by
  rw [objectKey, if_neg h, subtree]

theorem objectKey_eq_error {category : Category} {id : String} (h : sanitize id = "") :
    layout.objectKey category id = .error (.invalidIdentifier "object id must not be empty") := by
  rw [objectKey, if_pos h]

/-- An id has an object key unless nothing of it is left. -/
theorem objectKey_eq_ok_iff {category : Category} {id key : String} :
    layout.objectKey category id = .ok key ↔
      sanitize id ≠ "" ∧ key = layout.subtree category id := by
  by_cases h : sanitize id = ""
  · simp [objectKey_eq_error h, h]
  · simp [objectKey_eq_ok h, h, eq_comm]

/-- An id is refused when nothing of it is left, and for that only. -/
theorem objectKey_eq_error_iff {category : Category} {id : String} {e : StoreError} :
    layout.objectKey category id = .error e ↔
      sanitize id = "" ∧ e = .invalidIdentifier "object id must not be empty" := by
  by_cases h : sanitize id = ""
  · simp [objectKey_eq_error h, h, eq_comm]
  · simp [objectKey_eq_ok h, h]

/-- An overlay id has an object key in every category. -/
theorem objectKey_of_parse {s : String} {id : OverlayId} (h : OverlayId.parse s = .ok id)
    (category : Category) :
    layout.objectKey category id.text = .ok (layout.subtree category id.text) := by
  obtain ⟨rfl, service, external, hsplit, -, -⟩ := OverlayId.parse_eq_ok_iff.1 h
  exact objectKey_eq_ok
    (OverlayId.sanitize_ne_empty_of_mem (OverlayId.separator_mem_of_split hsplit))

/-- The segments of two categories, each with its slash, are no prefixes of each other. -/
theorem segment_diverge {c d : Category} (h : c ≠ d) :
    Diverge (c.segment ++ "/") (d.segment ++ "/") := by
  revert h
  cases c <;> cases d <;> decide

theorem categoryRoot_diverge {c d : Category} (h : c ≠ d) :
    Diverge (layout.categoryRoot c) (layout.categoryRoot d) := by
  rw [categoryRoot, categoryRoot, String.append_assoc, String.append_assoc,
    Text.diverge_append_left_iff]
  exact segment_diverge h

theorem slash_notMem_segment (c : Category) : '/' ∉ c.segment.toList := by
  cases c <;> decide

theorem versionKey_ne_rootMarker : layout.versionKey ≠ layout.rootMarker := by
  intro h
  have hempty : "version" = "" :=
    (String.append_right_inj layout.path).1 (h.trans String.append_empty.symm)
  exact absurd hempty (by decide)

/-- The version key is no key of a category. -/
theorem not_hasPrefix_versionKey {c : Category} :
    ¬ hasPrefix (layout.categoryRoot c) layout.versionKey := by
  rw [categoryRoot, versionKey, String.append_assoc, Text.hasPrefix_append_left_iff]
  cases c <;> decide

/-- The path of the layout under a root is empty or ends in a slash. -/
theorem isPath_ofRoot (root : String) : Text.IsPath (ofRoot root).path := by
  unfold ofRoot
  dsimp only
  split
  · exact .inl rfl
  · exact Text.isPath_append_slash _

/-- Subtrees of different categories have no key in common. -/
theorem subtree_diverge_of_ne {c d : Category} (h : c ≠ d) (a b : String) :
    Diverge (layout.subtree c a) (layout.subtree d b) := by
  rw [subtree, subtree, String.append_assoc, String.append_assoc]
  exact (categoryRoot_diverge h).append _ _

theorem hasPrefix_subtree {category : Category} {id : String} :
    hasPrefix (layout.categoryRoot category) (layout.subtree category id) := by
  rw [subtree, String.append_assoc]
  exact Text.hasPrefix_append _ _

theorem hasPrefix_subtree_append {category : Category} {id leaf : String} :
    hasPrefix (layout.categoryRoot category) (layout.subtree category id ++ leaf) :=
  Text.hasPrefix_trans hasPrefix_subtree (Text.hasPrefix_append _ _)

/-- A key that lies directly in the subtree of an object: its own key, or the key of a leaf. -/
def Direct (layout : KeyLayout) (category : Category) (id k : String) : Prop :=
  ∃ leaf : String, '/' ∉ leaf.toList ∧ k = layout.subtree category id ++ leaf

theorem direct_subtree {category : Category} {id : String} :
    layout.Direct category id (layout.subtree category id) :=
  ⟨"", by decide, String.append_empty.symm⟩

theorem direct_append {category : Category} {id leaf : String} (h : '/' ∉ leaf.toList) :
    layout.Direct category id (layout.subtree category id ++ leaf) :=
  ⟨leaf, h, rfl⟩

/-- What stands between the root of a category and a leaf adds its own segments. -/
theorem segmentCount_append_leaf {category : Category} {x leaf : String} :
    segmentCount (layout.categoryRoot category ++ x ++ "/" ++ leaf) =
      layout.leafDepth + Text.countChar '/' x + Text.countChar '/' leaf := by
  have hsegment : Text.countChar '/' category.segment = 0 := by cases category <;> decide
  have hslash : Text.countChar '/' "/" = 1 := by decide
  simp only [segmentCount, leafDepth, categoryRoot, Text.countChar_append, hsegment, hslash]
  omega

/-- No key of an object is made of the root and one more segment. -/
theorem subtree_append_ne_path {category : Category} {id leaf x : String} (hx : '/' ∉ x.toList) :
    layout.subtree category id ++ leaf ≠ layout.path ++ x := by
  intro h
  rw [subtree, categoryRoot, String.append_assoc, String.append_assoc, String.append_assoc,
    String.append_assoc, String.append_right_inj] at h
  exact hx (by simp [← h])

/-- No key of an object is the root of a category. -/
theorem subtree_append_ne_categoryRoot {c d : Category} {id leaf : String} :
    layout.subtree c id ++ leaf ≠ layout.categoryRoot d := by
  intro h
  by_cases hcd : c = d
  · -- In its own category the key is longer than the root by the id and a slash.
    subst hcd
    rw [subtree, String.append_assoc, String.append_assoc] at h
    have hempty := (String.append_right_inj _).1 (h.trans String.append_empty.symm)
    have hslash := (String.append_eq_empty_iff.1 (String.append_eq_empty_iff.1 hempty).2).1
    exact absurd hslash (by decide)
  · have hp : hasPrefix (layout.categoryRoot c) (layout.subtree c id ++ leaf) :=
      hasPrefix_subtree_append
    rw [h] at hp
    exact (categoryRoot_diverge hcd).1 hp

/-- One subtree of a category lies inside another just when the ids say so. -/
theorem hasPrefix_subtree_iff {c : Category} {a b : String} :
    hasPrefix (layout.subtree c a) (layout.subtree c b) ↔
      hasPrefix (sanitize a ++ "/") (sanitize b ++ "/") := by
  rw [subtree, subtree, String.append_assoc, String.append_assoc, Text.hasPrefix_append_left_iff]

/-- Two subtrees of one category have no key in common just when their ids are apart. -/
theorem subtree_diverge_iff {c : Category} {a b : OverlayId} :
    Diverge (layout.subtree c a.text) (layout.subtree c b.text) ↔ a.Apart b := by
  rw [Diverge, hasPrefix_subtree_iff, hasPrefix_subtree_iff]
  rfl

/-- Subtrees of ids that are apart have no key in common. -/
theorem subtree_diverge {a b : OverlayId} (h : a.Apart b) (c d : Category) :
    Diverge (layout.subtree c a.text) (layout.subtree d b.text) := by
  by_cases hcd : c = d
  · subst hcd
    exact subtree_diverge_iff.2 h
  · exact subtree_diverge_of_ne hcd _ _

end KeyLayout

end VolumeOverlay
