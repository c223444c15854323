import Mathlib.Data.List.Forall2
import Interpolation.Resolution.Basic
import Interpolation.Proofs.Span.Place

/-!
How the waiting spans move when a placeholder gives way to a value. `Moves` has one case for each
branch of rebasing.
-/
namespace Interpolation.Span

open Text

/-- `moved` is where `span` comes to lie when the placeholder of `resolved`, which it neither
touches nor lies in, gives way to `inserted` bytes. -/
inductive Moves (resolved : Span) (inserted : Nat) : Span → Span → Prop
  /-- A span in front of the placeholder stays. -/
  | before {span : Span} (hspan : span.start < span.stop) (h : span.stop + 1 < resolved.start) :
    Moves resolved inserted span span
  /-- A span after the placeholder moves as a whole. -/
  | after {span moved : Span} (hspan : span.start < span.stop)
    (h : resolved.stop + 1 < span.start)
    (hstart : moved.start + resolved.placeholderLength = span.start + inserted)
    (hstop : moved.stop + resolved.placeholderLength = span.stop + inserted)
    (hcontent : moved.content = span.content) : Moves resolved inserted span moved
  /-- A span around the placeholder gets a new end, and with it a new content. -/
  | around {span moved : Span} (h : span.start + 1 < resolved.start)
    (h' : resolved.stop < span.stop) (hstart : moved.start = span.start)
    (hstop : moved.stop + resolved.placeholderLength = span.stop + inserted) :
    Moves resolved inserted span moved

/-- Nesting and order are the same between `a` and `b` as between `a'` and `b'`. -/
structure SameRelation (a b a' b' : Span) : Prop where
  encloses : a.Encloses b ↔ a'.Encloses b'
  precedes : a.stop < b.start ↔ a'.stop < b'.start
  start_lt : a.start < b.start ↔ a'.start < b'.start
  stop_lt : a.stop < b.stop ↔ a'.stop < b'.stop

theorem SameRelation.trans {a b a' b' a'' b'' : Span} (h : SameRelation a b a' b')
    (h' : SameRelation a' b' a'' b'') : SameRelation a b a'' b'' where
  encloses := h.encloses.trans h'.encloses
  precedes := h.precedes.trans h'.precedes
  start_lt := h.start_lt.trans h'.start_lt
  stop_lt := h.stop_lt.trans h'.stop_lt

/-- Any two of `spans` relate as the two do that stand at their places in `spans'`. -/
def SameArrangement (spans spans' : List Span) : Prop :=
  spans.length = spans'.length ∧ ∀ (i j : Nat) (a b a' b' : Span),
    spans[i]? = some a → spans[j]? = some b → spans'[i]? = some a' → spans'[j]? = some b' →
      SameRelation a b a' b'

namespace SameArrangement

theorem refl (spans : List Span) : SameArrangement spans spans := by
  refine ⟨rfl, fun i j a b a' b' ha hb ha' hb' => ?_⟩
  obtain rfl := Option.some.inj (ha.symm.trans ha')
  obtain rfl := Option.some.inj (hb.symm.trans hb')
  exact ⟨Iff.rfl, Iff.rfl, Iff.rfl, Iff.rfl⟩

theorem trans {spans spans' spans'' : List Span} (h : SameArrangement spans spans')
    (h' : SameArrangement spans' spans'') : SameArrangement spans spans'' := by
  refine ⟨h.1.trans h'.1, fun i j a b a'' b'' ha hb ha'' hb'' => ?_⟩
  obtain ⟨hi, -⟩ := List.getElem?_eq_some_iff.1 ha
  obtain ⟨hj, -⟩ := List.getElem?_eq_some_iff.1 hb
  have ha' := List.getElem?_eq_getElem (h.1 ▸ hi)
  have hb' := List.getElem?_eq_getElem (h.1 ▸ hj)
  exact (h.2 i j a b _ _ ha hb ha' hb').trans (h'.2 i j _ _ a'' b'' ha' hb' ha'' hb'')

theorem tail {a b : Span} {spans spans' : List Span}
    (h : SameArrangement (a :: spans) (b :: spans')) : SameArrangement spans spans' :=
  ⟨Nat.succ.inj h.1, fun i j => h.2 (i + 1) (j + 1)⟩

theorem exists_encloses_head {a b w : Span} {spans spans' : List Span}
    (h : SameArrangement (a :: spans) (b :: spans')) (hw : w ∈ spans) (hencloses : w.Encloses a) :
    ∃ w' ∈ spans', w'.Encloses b := by
  obtain ⟨j, hj, rfl⟩ := List.getElem_of_mem hw
  have hj' : j < spans'.length := h.tail.1 ▸ hj
  have hrelation := h.2 (j + 1) 0 _ _ _ _ (List.getElem?_eq_getElem hj) rfl
    (List.getElem?_eq_getElem hj') rfl
  exact ⟨spans'[j], List.getElem_mem hj', hrelation.encloses.1 hencloses⟩

end SameArrangement

/-- No span comes after one that encloses it. -/
def InnerFirst (spans : List Span) : Prop :=
  spans.Pairwise fun a b => ¬ a.Encloses b

instance (spans : List Span) : Decidable (InnerFirst spans) :=
  inferInstanceAs (Decidable (spans.Pairwise _))

theorem InnerFirst.of_sameArrangement {spans spans' : List Span} (h : InnerFirst spans')
    (hs : SameArrangement spans spans') : InnerFirst spans := by
  refine List.pairwise_iff_getElem.2 fun i j hi hj hij => ?_
  have hrelation := hs.2 i j _ _ _ _ (List.getElem?_eq_getElem hi) (List.getElem?_eq_getElem hj)
    (List.getElem?_eq_getElem (hs.1 ▸ hi)) (List.getElem?_eq_getElem (hs.1 ▸ hj))
  rw [hrelation.encloses]
  exact List.pairwise_iff_getElem.1 h i j _ _ hij

section

variable {resolved : Span} {inserted : Nat} {buffer : Text}

/-- Offsets outside a placeholder keep their order when it changes its length. -/
theorem Moves.sameRelation {a b a' b' : Span} (hr : resolved.StandsFrom 0 buffer)
    (ha : Moves resolved inserted a a') (hb : Moves resolved inserted b b') :
    SameRelation a' b' a b := by
  have hlength := hr.placeholderLength_eq
  have hpos := hr.offset_lt_start
  have hlt := hr.start_lt_stop
  have hstart : a'.start < b'.start ↔ a.start < b.start := by
    cases ha <;> cases hb <;> omega
  have hstop : a'.stop < b'.stop ↔ a.stop < b.stop := by
    cases ha <;> cases hb <;> omega
  have hstop' : b'.stop < a'.stop ↔ b.stop < a.stop := by
    cases ha <;> cases hb <;> omega
  refine ⟨?_, ?_, hstart, hstop⟩
  · rw [Encloses, Encloses, hstart, hstop']
  · cases ha <;> cases hb <;> omega

theorem sameArrangement_of_forall₂_moves {waiting moved : List Span}
    (hr : resolved.StandsFrom 0 buffer)
    (h : List.Forall₂ (Moves resolved inserted) waiting moved) :
    SameArrangement moved waiting := by
  refine ⟨h.length_eq.symm, fun i j a' b' a b ha' hb' ha hb => ?_⟩
  obtain ⟨hi, rfl⟩ := List.getElem?_eq_some_iff.1 ha
  obtain ⟨hj, rfl⟩ := List.getElem?_eq_some_iff.1 hb
  obtain ⟨hi', rfl⟩ := List.getElem?_eq_some_iff.1 ha'
  obtain ⟨hj', rfl⟩ := List.getElem?_eq_some_iff.1 hb'
  exact (h.get hi hi').sameRelation hr (h.get hj hj')

theorem shift?_eq_some_iff {removed offset moved : Nat} :
    shift? inserted removed offset = some moved ↔
      offset + inserted < Word.count ∧ moved + removed = offset + inserted := by
  simp only [shift?, Option.ite_none_right_eq_some, Option.some.injEq]
  omega

theorem shift?_eq_none {removed offset : Nat} (h : Word.count ≤ offset + inserted) :
    shift? inserted removed offset = none := by
  unfold shift?
  rw [if_neg]
  omega

/-- Rebasing moves a span, in the buffer that the moved span stands in, unless its new offsets are
no words. -/
theorem Moves.rebase? {span moved : Span} (h : Moves resolved inserted span moved)
    (hr : resolved.start < resolved.stop) (hm : moved.StandsFrom 0 buffer) :
    resolved.rebase? inserted buffer span = some moved ∨
      resolved.rebase? inserted buffer span = none ∧ Word.count ≤ span.stop + inserted := by
  unfold Span.rebase?
  cases h with
  | before hspan h =>
    have hne : ¬ span.Encloses resolved := fun he => by have := he.2; omega
    have hnl : ¬ resolved.stop < span.start := by omega
    rw [if_neg hne, if_neg hnl]
    exact .inl rfl
  | after hspan h hstart hstop hcontent =>
    have hne : ¬ span.Encloses resolved := fun he => by have := he.1; omega
    have hl : resolved.stop < span.start := by omega
    rw [if_neg hne, if_pos hl]
    rcases Nat.lt_or_ge (span.stop + inserted) Word.count with hword | hword
    · left
      rw [shift?_eq_some_iff.2 ⟨by omega, hstart⟩, shift?_eq_some_iff.2 ⟨hword, hstop⟩, ← hcontent]
      rfl
    · right
      rw [shift?_eq_none hword]
      exact ⟨by simp, hword⟩
  | around h h' hstart hstop =>
    have he : span.Encloses resolved := ⟨by omega, h'⟩
    rw [if_pos he, ← hstart]
    rcases Nat.lt_or_ge (span.stop + inserted) Word.count with hword | hword
    · left
      rw [shift?_eq_some_iff.2 ⟨hword, hstop⟩]
      simp [hm.slice?_content]
    · right
      rw [shift?_eq_none hword]
      exact ⟨rfl, hword⟩

theorem mapM_rebase? {waiting moved : List Span}
    (h : List.Forall₂ (Moves resolved inserted) waiting moved)
    (hr : resolved.start < resolved.stop) (hm : ∀ span ∈ moved, span.StandsFrom 0 buffer) :
    waiting.mapM (resolved.rebase? inserted buffer) = some moved ∨
      waiting.mapM (resolved.rebase? inserted buffer) = none ∧
        ∃ span ∈ waiting, Word.count ≤ span.stop + inserted := by
  induction h with
  | nil => exact .inl rfl
  | @cons span target waiting moved h hs ih =>
    simp only [List.mem_cons, forall_eq_or_imp] at hm
    simp only [List.mapM_cons, Option.bind_eq_bind, Option.pure_def, List.mem_cons,
      exists_eq_or_imp]
    rcases h.rebase? hr hm.1 with hspan | ⟨hspan, hword⟩
    · rcases ih hm.2 with hrest | ⟨hrest, hword⟩
      · simp [hspan, hrest]
      · simp [hspan, hrest, hword]
    · simp [hspan, hword]

private theorem Moves.eq_of_placeholderLength {span moved : Span}
    (h : Moves resolved resolved.placeholderLength span moved) (hs : span.StandsFrom 0 buffer)
    (hm : moved.StandsFrom 0 buffer) : moved = span := by
  have hstart : moved.start = span.start := by
    cases h <;> omega
  have hstop : moved.stop = span.stop := by
    cases h <;> omega
  have hcontent := hm.slice?_content
  rw [hstart, hstop, hs.slice?_content] at hcontent
  cases span
  cases moved
  simp_all

/-- A placeholder that gives way to its own text moves nothing. -/
theorem eq_of_forall₂_moves {waiting moved : List Span}
    (h : List.Forall₂ (Moves resolved resolved.placeholderLength) waiting moved)
    (hw : ∀ span ∈ waiting, span.StandsFrom 0 buffer)
    (hm : ∀ span ∈ moved, span.StandsFrom 0 buffer) : moved = waiting := by
  induction h with
  | nil => rfl
  | cons h hs ih =>
    simp only [List.mem_cons, forall_eq_or_imp] at hw hm
    rw [h.eq_of_placeholderLength hw.1 hm.1, ih hw.2 hm.2]

end

end Interpolation.Span
