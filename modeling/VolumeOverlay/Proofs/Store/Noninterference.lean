import VolumeOverlay.Proofs.Store.Footprint

/-!
# Noninterference

Requests are put to one store content one after the other. When some of them are left out, the others
are answered as before, provided that the footprints of the ones and of the others do not meet. Two
cases matter. The parts of one store do not meet: what is asked of volumes, of snapshots and of the
version mark are answered as if the rest had not been asked. And stores under different roots do not
meet, unless the root of the one lies inside a category of the other.

## Main definitions

* `transcript step rs s`: the requests of a sequence with their answers
* `Store.Use`: a use of one of several stores, which is opened or asked
* `KeyLayout.Has layout k`: a key that a store of a layout may use
* `KeyLayout.Separate a b`: two layouts of which neither lies inside a category of the other

## Main results

* `filter_transcript`: requests that go unnoticed by the others may be left out
* `Store.filter_transcript_of_confined`: so may those whose footprints lie elsewhere
* `Store.parts_unaffected`: the parts of a store do not interfere
* `Store.roots_unaffected`: stores under separate roots do not interfere
-/

namespace VolumeOverlay

open Actions
open Text (hasPrefix IsPath)

/-! ### Transcripts -/

/-- The requests of a sequence with their answers, each put where the one before has led. -/
def transcript {ρ α S : Type} (step : ρ → S → α × S) : List ρ → S → List (ρ × α)
  | [], _ => []
  | r :: rs, s => (r, (step r s).1) :: transcript step rs (step r s).2

theorem transcript_cons {ρ α S : Type} (step : ρ → S → α × S) (r : ρ) (rs : List ρ) (s : S) :
    transcript step (r :: rs) s = (r, (step r s).1) :: transcript step rs (step r s).2 := rfl

/-- Requests may be left out when the others do not notice: some relation between states is kept by
what is asked on both sides, whose answers it fixes, and by what is asked on one side only. -/
theorem filter_transcript {ρ α S : Type} {step : ρ → S → α × S} {keep : ρ → Bool}
    {R : S → S → Prop} {rs : List ρ}
    (hkept : ∀ r ∈ rs, keep r = true → ∀ s t, R s t →
      (step r s).1 = (step r t).1 ∧ R (step r s).2 (step r t).2)
    (hleft : ∀ r ∈ rs, keep r = false → ∀ s t, R s t → R (step r s).2 t) {s t : S} (h : R s t) :
    (transcript step rs s).filter (fun e => keep e.1) = transcript step (rs.filter keep) t := by
  induction rs generalizing s t with
  | nil => rfl
  | cons r rs ih =>
    rw [List.forall_mem_cons] at hkept hleft
    cases hr : keep r with
    | true =>
      obtain ⟨hanswer, hrelated⟩ := hkept.1 hr s t h
      simp only [transcript_cons, List.filter_cons, hr, if_true, hanswer]
      rw [ih hkept.2 hleft.2 hrelated]
    | false =>
      simp only [transcript_cons, List.filter_cons, hr, Bool.false_eq_true, if_false]
      exact ih hkept.2 hleft.2 (hleft.1 hr s t h)

namespace Store

/-- Requests may be left out when their footprints lie outside a set of keys, and those of the others
inside. -/
theorem filter_transcript_of_confined {ρ α : Type} {K : String → Prop} {rs : List ρ}
    (run : ρ → StoreM Reliable α) (keep : ρ → Bool)
    (hin : ∀ r ∈ rs, keep r = true → Confined K (run r))
    (hout : ∀ r ∈ rs, keep r = false → Confined (fun k => ¬ K k) (run r)) (es : Entries) :
    (transcript (fun r => effect (run r)) rs es).filter (fun e => keep e.1) =
      transcript (fun r => effect (run r)) (rs.filter keep) es := by
  refine filter_transcript (R := AgreeOn K) (fun r hr hkeep s t h => ?_) (fun r hr hkeep s t h => ?_)
    fun _ _ => rfl
  · exact ((hin r hr hkeep).sameOn K fun _ hk => hk).effect h
  · intro k hk
    have hmoves := (hout r hr hkeep).moves ⟨s, {}⟩ k fun hn => hn hk
    exact hmoves.symm.trans (h k hk)

/-! ### The parts of a store -/

variable {store : Store}

/-- Different parts have no key in common. -/
theorem Part.eq_of_owns {layout : KeyLayout} {p q : Part} {k : String} (hp : p.Owns layout k)
    (hq : q.Owns layout k) : p = q := by
  cases hp with
  | version =>
    cases hq with
    | version => rfl
    | category hd => exact absurd hd KeyLayout.not_hasPrefix_versionKey
  | @category c _ hc =>
    cases hq with
    | version => exact absurd hc KeyLayout.not_hasPrefix_versionKey
    | @category d _ hd =>
      by_cases hcd : c = d
      · rw [hcd]
      · exact absurd hd ((KeyLayout.categoryRoot_diverge hcd).not_hasPrefix hc)

/-- The parts of a store do not interfere. However commands about volumes, about snapshots and about
the version mark are interleaved, those about the parts of one's choice are answered as if the others
were left out, whatever the store holds and whatever ids they name. -/
theorem parts_unaffected (store : Store) (keep : Part → Bool) (cs : List Command)
    (hcs : ∀ c ∈ cs, c.part?.isSome) (es : Entries) :
    let kept := fun c : Command => c.part?.any keep
    (transcript (fun c : Command => effect (c.run store)) cs es).filter (fun e => kept e.1) =
      transcript (fun c : Command => effect (c.run store)) (cs.filter kept) es := by
  intro kept
  refine filter_transcript_of_confined (K := fun k => ∃ p, keep p = true ∧ p.Owns store.layout k)
    (fun c : Command => c.run store) kept (fun c hc hkeep => ?_) (fun c hc hkeep => ?_) es
  · obtain ⟨p, hp⟩ := Option.isSome_iff_exists.1 (hcs c hc)
    simp only [kept, hp, Option.any_some] at hkeep
    exact (confined_run hp).mono fun k hk => ⟨p, hkeep, hk⟩
  · obtain ⟨p, hp⟩ := Option.isSome_iff_exists.1 (hcs c hc)
    simp only [kept, hp, Option.any_some] at hkeep
    refine (confined_run hp).mono fun k hk => ?_
    rintro ⟨q, hq, hqk⟩
    rw [Part.eq_of_owns hk hqk, hq] at hkeep
    cases hkeep

/-- The records of volumes and of snapshots with one id do not interfere, nested ids included. -/
theorem parts_unaffected_nested :
    let store : Store := { layout := .ofRoot "polly", persistFields := true }
    let saved : Command := .saveVolume ⟨{ id := "a" }, ⟨" mock-a/b "⟩, "mock", ["docker"], ∅⟩
    let cs : List Command := [saved, .saveSnapshot ⟨⟨"mock-a"⟩, "mock", ∅⟩,
      .removeSnapshot ⟨"/mock-a/b"⟩, .volumeIds, .version, .eraseCategory .snapshot]
    (∀ c ∈ cs, c.part?.isSome) ∧
      ∀ es, (transcript (fun c : Command => effect (c.run store)) cs es).filter
          (fun e => e.1.part?.any (· == .volumes)) =
        transcript (fun c : Command => effect (c.run store)) [saved, .volumeIds] es := by
  intro store saved cs
  have hcs : ∀ c ∈ cs, c.part?.isSome := by decide
  exact ⟨hcs, fun es => parts_unaffected store (· == .volumes) cs hcs es⟩

end Store

/-! ### Stores under different roots -/

namespace KeyLayout

variable {a b : KeyLayout} {k : String}

/-- The keys that a store of a layout may use: the root marker, the version key, and the keys of the
categories. -/
def Has (layout : KeyLayout) (k : String) : Prop :=
  k = layout.rootMarker ∨ k = layout.versionKey ∨ ∃ c, hasPrefix (layout.categoryRoot c) k

/-- A key is the path of its layout and at most one further segment, or lies in a category. -/
theorem Has.cases {layout : KeyLayout} (h : layout.Has k) :
    (∃ s, '/' ∉ s.toList ∧ k = layout.path ++ s) ∨ ∃ c, hasPrefix (layout.categoryRoot c) k := by
  rcases h with rfl | rfl | h
  · exact .inl ⟨"", by decide, String.append_empty.symm⟩
  · exact .inl ⟨"version", by decide, rfl⟩
  · exact .inr h

/-- Two layouts that differ, and of which neither lies inside a category of the other. -/
structure Separate (a b : KeyLayout) : Prop where
  path_ne : a.path ≠ b.path
  not_inside : ∀ c, ¬ hasPrefix (a.categoryRoot c) b.path
  not_around : ∀ c, ¬ hasPrefix (b.categoryRoot c) a.path

theorem Separate.symm (h : a.Separate b) : b.Separate a :=
  ⟨h.path_ne.symm, h.not_around, h.not_inside⟩

/-- The root of a category, cut at the slash at its end, begins with no category of the other
layout. -/
theorem Separate.not_hasPrefix_categoryRoot (h : a.Separate b) (ha : IsPath a.path)
    (hb : IsPath b.path) (c d : Category) :
    ¬ hasPrefix (a.categoryRoot c) (b.categoryRoot d) := by
  intro hp
  rcases Text.hasPrefix_append_slash_iff.1 hp with heq | hinside
  · -- The two roots are one key, and their last segments tell where the paths end.
    have hsegments : a.path ++ c.segment = b.path ++ d.segment :=
      (String.append_left_inj "/").1 heq
    exact h.path_ne (ha.eq_of_append_eq hb (slash_notMem_segment c) (slash_notMem_segment d)
      hsegments)
  · have hpath : IsPath (a.categoryRoot c) := Text.isPath_append_slash _
    exact h.not_inside c (hpath.hasPrefix_of_append (slash_notMem_segment d) hinside)

/-- A key of the one layout that is no key of its categories is no key of a category of the other. -/
theorem Separate.not_hasPrefix_append (h : a.Separate b) {s : String} (hs : '/' ∉ s.toList)
    (c : Category) : ¬ hasPrefix (a.categoryRoot c) (b.path ++ s) := fun hp =>
  h.not_inside c ((Text.isPath_append_slash _).hasPrefix_of_append hs hp)

/-- Separate layouts have no key in common. -/
theorem Separate.not_has (h : a.Separate b) (ha : IsPath a.path) (hb : IsPath b.path)
    (hak : a.Has k) : ¬ b.Has k := by
  intro hbk
  rcases hak.cases with ⟨s, hs, rfl⟩ | ⟨c, hc⟩
  · rcases hbk.cases with ⟨t, ht, heq⟩ | ⟨d, hd⟩
    · exact h.path_ne (ha.eq_of_append_eq hb hs ht heq)
    · exact h.symm.not_hasPrefix_append hs d hd
  · rcases hbk.cases with ⟨t, ht, rfl⟩ | ⟨d, hd⟩
    · exact h.not_hasPrefix_append ht c hc
    · rcases Text.hasPrefix_or_hasPrefix hc hd with hcd | hdc
      · exact h.not_hasPrefix_categoryRoot ha hb c d hcd
      · exact h.symm.not_hasPrefix_categoryRoot hb ha d c hdc

end KeyLayout

namespace Store

/-- A use of one of several stores: it is opened, or one of its operations is run. -/
inductive Use where
  | opens (store : Store)
  | runs (store : Store) (command : Command)

namespace Use

/-- The store that is used. -/
def store : Use → Store
  | .opens store | .runs store _ => store

/-- What is done to the store. -/
def run : Use → StoreM Reliable Answer
  | .opens store => do store.setUp; return .done
  | .runs store command => command.run store

/-- Whether a use is one of the store's own operations. Plain calls name keys as they like. -/
def isOwn : Use → Bool
  | .opens _ => true
  | .runs _ command => command.part?.isSome || command = .eraseAll

/-- The own operations of a store do not leave its layout. -/
theorem confined_run {u : Use} (h : u.isOwn = true) : Confined u.store.layout.Has u.run := by
  cases u with
  | opens store =>
    refine (confined_setUp.mono ?_).map _
    rintro _ ⟨_, _ | _ | c⟩
    · exact .inl rfl
    · exact .inr (.inl rfl)
    · exact .inr (.inr ⟨c, Text.hasPrefix_refl _⟩)
  | runs store command =>
    rw [isOwn, Bool.or_eq_true, decide_eq_true_iff] at h
    rcases h with h | rfl
    · obtain ⟨part, hpart⟩ := Option.isSome_iff_exists.1 h
      refine (Store.confined_run hpart).mono ?_
      rintro _ (_ | hk)
      · exact .inr (.inl rfl)
      · exact .inr (.inr ⟨_, hk⟩)
    · have hall : Confined store.layout.Has store.eraseAll := Confined.forM fun c _ =>
        (confined_eraseCategory c).mono fun k hk => .inr (.inr ⟨c, hk⟩)
      exact hall.map _

end Use

/-- Stores under different roots do not interfere, unless the root of one lies inside a category of
the other. However the openings and the operations of the two are interleaved, those of each are
answered as if the other were not used, whatever is stored at the outset. -/
theorem roots_unaffected {r₁ r₂ : String} (h : (KeyLayout.ofRoot r₁).Separate (.ofRoot r₂))
    (us : List Use)
    (hus : ∀ u ∈ us, u.isOwn = true ∧
      (u.store.layout = .ofRoot r₁ ∨ u.store.layout = .ofRoot r₂)) (es : Entries) :
    ∀ r, r = r₁ ∨ r = r₂ →
      let own := fun u : Use => decide (u.store.layout = .ofRoot r)
      (transcript (fun u : Use => effect u.run) us es).filter (fun e => own e.1) =
        transcript (fun u : Use => effect u.run) (us.filter own) es := by
  intro r hr own
  have hconfined : ∀ u ∈ us, Confined u.store.layout.Has u.run := fun u hu =>
    Use.confined_run (hus u hu).1
  refine filter_transcript_of_confined (K := (KeyLayout.ofRoot r).Has) Use.run own
    (fun u hu hown => ?_) (fun u hu hown => ?_) es
  · rw [← of_decide_eq_true hown]
    exact hconfined u hu
  · refine (hconfined u hu).mono fun k hk => ?_
    have hother := of_decide_eq_false hown
    -- The use is one of the other store, whose layout is separate on either side.
    have hpath := KeyLayout.isPath_ofRoot
    rcases hr with rfl | rfl
    · rw [(hus u hu).2.resolve_left hother] at hk
      exact h.symm.not_has (hpath _) (hpath _) hk
    · rw [(hus u hu).2.resolve_right hother] at hk
      exact h.not_has (hpath _) (hpath _) hk

/-- A store at the root inside another root is not disturbed when the outer store is erased. -/
theorem roots_unaffected_nested :
    let outer : Store := { layout := .ofRoot "polly" }
    let inner : Store := { layout := .ofRoot "/polly/prod", persistFields := true }
    let saved : Use := .runs inner (.saveVolume ⟨{ id := "a" }, ⟨"mock-a"⟩, "mock", ["docker"], ∅⟩)
    let us : List Use := [.opens outer, .opens inner, saved, .runs outer .eraseAll,
      .runs inner .volumeIds, .runs outer .version]
    ((KeyLayout.ofRoot "polly").Separate (.ofRoot "/polly/prod") ∧ ∀ u ∈ us, u.isOwn = true ∧
        (u.store.layout = .ofRoot "polly" ∨ u.store.layout = .ofRoot "/polly/prod")) ∧
      ∀ es, (transcript (fun u : Use => effect u.run) us es).filter
          (fun e => e.1.store.layout = .ofRoot "/polly/prod") =
        transcript (fun u : Use => effect u.run) [.opens inner, saved, .runs inner .volumeIds] es := by
  intro outer inner saved us
  have hseparate : (KeyLayout.ofRoot "polly").Separate (.ofRoot "/polly/prod") :=
    ⟨by decide, fun c => by cases c <;> decide, fun c => by cases c <;> decide⟩
  have hus : ∀ u ∈ us, u.isOwn = true ∧
      (u.store.layout = .ofRoot "polly" ∨ u.store.layout = .ofRoot "/polly/prod") := by decide
  exact ⟨⟨hseparate, hus⟩, fun es => roots_unaffected hseparate us hus es _ (.inr rfl)⟩

end Store

end VolumeOverlay
