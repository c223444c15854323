import Mathlib.Data.List.Perm.Basic
import Interpolation.Resolution.Run
import Interpolation.Proofs.Template.Settle

/-!
What a run keeps: its buffer is the text of a template whose placeholders are the waiting spans.
-/
namespace Interpolation

open Text

/-- Texts in memory are shorter than half the range of offsets. -/
def Text.Fits (t : Text) : Prop :=
  byteLength t < Word.signedBound

instance (t : Text) : Decidable t.Fits :=
  inferInstanceAs (Decidable (_ < _))

/-- What becomes of a placeholder is what a step puts in its place, or its own text. -/
private theorem replacement?_cases (bindings : List Binding) (policy : Policy) (span : Span) :
    (∃ value, replacement? bindings policy span.content = some value ∧
        Template.fill bindings policy span.content = ⟨value, hits bindings span.content⟩ ∧
        ((∀ b ∈ bindings, b.value.Fits) → value.Fits)) ∨
      replacement? bindings policy span.content = none ∧
        Template.fill bindings policy span.content = ⟨span.placeholder, 0⟩ := by
  unfold replacement? Template.fill hits
  cases hb : firstAccepting bindings span.content with
  | some binding =>
    exact .inl ⟨binding.value, rfl, rfl, fun h => h binding (List.mem_of_find?_eq_some hb)⟩
  | none =>
    cases policy with
    | keep => exact .inr ⟨rfl, rfl⟩
    | delete => exact .inl ⟨[], rfl, rfl, fun _ => by decide⟩

namespace Run

/-- The values and the texts that a run comes to on its way are texts in memory. -/
structure Fits (bindings : List Binding) (policy : Policy) (run : Run) : Prop where
  values : ∀ b ∈ bindings, b.value.Fits
  buffers : ∀ k ≤ run.waiting.length, ∀ next ∈ run.steps? bindings policy k, next.buffer.Fits

/-- The buffer is the text of `t`, and the placeholders of `t` wait for their turn. -/
structure Represents (run : Run) (t : Template) : Prop where
  text : t.text = run.buffer
  waiting : run.waiting.Perm t.spans
  innerFirst : Span.InnerFirst run.waiting

/-- What a run comes to if what is left of it has the value of `t`. -/
def expected (bindings : List Binding) (policy : Policy) (run : Run) (t : Template) : Resolution :=
  ⟨(t.evaluate bindings policy).output, run.replaced + (t.evaluate bindings policy).replaced⟩

namespace Represents

variable {bindings : List Binding} {policy : Policy} {run : Run} {t : Template}

theorem standsFrom (h : run.Represents t) {span : Span} (hs : span ∈ run.waiting) :
    span.StandsFrom 0 run.buffer := by
  have hspan := Template.standsFrom_of_mem (h.waiting.mem_iff.1 hs)
  rwa [h.text] at hspan

theorem eq_or_mem_waiting {span w : Span} {waiting : List Span} (h : run.Represents t)
    (hw : run.waiting = span :: waiting) (hmem : w ∈ t.spans) : w = span ∨ w ∈ waiting := by
  have hwaiting := h.waiting.mem_iff.2 hmem
  rwa [hw, List.mem_cons] at hwaiting

theorem step?_of_settles {span : Span} {waiting moved : List Span} {t' : Template}
    (h : run.Represents t) (hw : run.waiting = span :: waiting)
    (hsettles : Template.Settles (Template.fill bindings policy span.content).output span 0 t t')
    (hmoved : List.Forall₂
      (span.Moves (byteLength (Template.fill bindings policy span.content).output)) waiting moved)
    (hstands : ∀ w ∈ moved, w.StandsFrom 0 t'.text) :
    run.step? bindings policy = some ⟨t'.text, moved,
        run.replaced + (Template.fill bindings policy span.content).replaced⟩ ∨
      run.step? bindings policy = none ∧
        (run.buffer.Fits → ¬ ∀ b ∈ bindings, b.value.Fits) := by
  have hwaiting : ∀ w ∈ waiting, w.StandsFrom 0 run.buffer := fun w hmem =>
    h.standsFrom (by simp [hw, hmem])
  unfold step?
  rw [hw]
  dsimp only
  rcases replacement?_cases bindings policy span with ⟨value, hvalue, hfill, hfits⟩ | ⟨hnone, hfill⟩
  · rw [hfill] at hsettles hmoved
    have hsplice := hsettles.splice?
    rw [h.text] at hsplice
    rw [hvalue, hfill]
    rcases Span.mapM_rebase? hmoved hsettles.standsFrom.start_lt_stop hstands with
      hrebase | ⟨hrebase, w, hmem, hword⟩
    · left
      simp [hsplice, hrebase]
    · right
      -- Half the range of offsets for the buffer and half for the value leave room for their sum.
      refine ⟨by simp [hsplice, hrebase], fun hbuffer hvalues => ?_⟩
      have hstop := (hwaiting w hmem).stop_lt
      have hvalue := hfits hvalues
      unfold Text.Fits Word.signedBound at hbuffer hvalue
      dsimp only [Word.count] at hword
      omega
  · left
    -- The placeholder stays as literal text, which has its length, so nothing has to move.
    rw [hfill] at hsettles hmoved
    have htext := hsettles.text_eq_of_placeholder
    rw [htext, h.text] at hstands
    rw [Span.byteLength_placeholder] at hmoved
    rw [hnone, hfill, htext, h.text, Span.eq_of_forall₂_moves hmoved hwaiting hstands]
    rfl

/-- One step settles the placeholder whose turn it is. It is undefined only where texts are longer
than texts in memory can be. -/
theorem step {span : Span} {waiting : List Span} (h : run.Represents t)
    (hw : run.waiting = span :: waiting) :
    ∃ (next : Run) (t' : Template), next.Represents t' ∧
      Template.Settles (Template.fill bindings policy span.content).output span 0 t t' ∧
      Span.SameArrangement next.waiting waiting ∧
      next.expected bindings policy t' = run.expected bindings policy t ∧
      (run.step? bindings policy = some next ∨ run.step? bindings policy = none ∧
        (run.buffer.Fits → ¬ ∀ b ∈ bindings, b.value.Fits)) := by
  -- No other waiting span is enclosed by this one, so its placeholder is ready to settle.
  have hspan : span ∈ t.spans := h.waiting.mem_iff.1 (by simp [hw])
  have hfirst := h.innerFirst
  rw [hw, Span.InnerFirst, List.pairwise_cons] at hfirst
  have hinner : ∀ w ∈ t.spans, ¬ span.Encloses w := by
    intro w hmem
    rcases h.eq_or_mem_waiting hw hmem with rfl | hmem'
    · exact fun he => Nat.lt_irrefl _ he.1
    · exact hfirst.1 w hmem'
  obtain ⟨t', hsettles⟩ := Template.exists_settles
    (Template.fill bindings policy span.content).output hspan hinner
  obtain ⟨earlier, later, hspans, hmoves⟩ := hsettles.forall₂_moves
  have hperm : waiting.Perm (earlier ++ later) := by
    have hall := h.waiting
    rw [hw, Template.spans, hspans] at hall
    exact (hall.trans List.perm_middle).cons_inv
  -- Moving keeps the order in which the spans wait.
  obtain ⟨moved, hmoved, hperm'⟩ := List.perm_comp_forall₂ hperm hmoves
  have harrangement := Span.sameArrangement_of_forall₂_moves hsettles.standsFrom hmoved
  have hstands : ∀ w ∈ moved, w.StandsFrom 0 t'.text := fun w hmem =>
    Template.standsFrom_of_mem (hperm'.mem_iff.1 hmem)
  refine ⟨⟨t'.text, moved,
    run.replaced + (Template.fill bindings policy span.content).replaced⟩, t',
    ⟨rfl, hperm', Span.InnerFirst.of_sameArrangement hfirst.2 harrangement⟩, hsettles,
    harrangement, ?_, ?_⟩
  · rw [expected, expected, hsettles.evaluate, Nat.add_assoc]
  · exact h.step?_of_settles hw hsettles hmoved hstands

theorem settles_of_step? {next : Run} {span : Span} {waiting : List Span} (h : run.Represents t)
    (hw : run.waiting = span :: waiting) (hstep : run.step? bindings policy = some next) :
    ∃ t', next.Represents t' ∧
      Template.Settles (Template.fill bindings policy span.content).output span 0 t t' ∧
      Span.SameArrangement next.waiting waiting := by
  obtain ⟨next', t', hnext, hsettles, hsame, -, hstep' | ⟨hnone, -⟩⟩ :=
    @step bindings policy run t span waiting h hw
  · obtain rfl := Option.some.inj (hstep.symm.trans hstep')
    exact ⟨t', hnext, hsettles, hsame⟩
  · rw [hstep] at hnone
    cases hnone

end Represents

/-- What is true of a run over the placeholders `spans` of `t₀` after `k` steps: `t` is what is left
of `t₀`, the waiting spans lie to each other as they did in the beginning, and the value of the
whole is still the same. -/
structure Reached (bindings : List Binding) (policy : Policy) (t₀ : Template) (spans : List Span)
    (k : Nat) (run : Run) (t : Template) : Prop extends run.Represents t where
  arrangement : Span.SameArrangement run.waiting (spans.drop k)
  expected : run.expected bindings policy t = t₀.evaluate bindings policy

variable {bindings : List Binding} {policy : Policy} {t₀ : Template} {text : Text}
  {spans : List Span}

theorem reached_start (h : (start text spans).Represents t₀) :
    Reached bindings policy t₀ spans 0 (start text spans) t₀ :=
  ⟨h, .refl spans, by simp [Run.expected, start]⟩

theorem Reached.step {k : Nat} {run : Run} {t : Template}
    (h : Reached bindings policy t₀ spans k run t) :
    (∃ next t', run.step? bindings policy = some next ∧
        Reached bindings policy t₀ spans (k + 1) next t') ∨
      run.step? bindings policy = none ∧ k ≤ spans.length ∧
        (run.buffer.Fits → ¬ ∀ b ∈ bindings, b.value.Fits) := by
  have harrangement := h.arrangement
  cases hw : run.waiting with
  | nil =>
    left
    refine ⟨run, t, by rw [step?, hw], h.toRepresents, ?_, h.expected⟩
    rw [hw] at harrangement ⊢
    have hdrop := List.drop_eq_nil_iff.1 (List.length_eq_zero_iff.1 harrangement.1.symm)
    rw [List.drop_eq_nil_of_le (by omega)]
    exact .refl []
  | cons span waiting =>
    have hlt : k < spans.length := by
      have hlength := harrangement.1
      rw [hw, List.length_cons, List.length_drop] at hlength
      omega
    rw [hw, List.drop_eq_getElem_cons hlt] at harrangement
    obtain ⟨next, t', hnext, -, hsame, hexpected, hstep | ⟨hstep, hfits⟩⟩ :=
      h.toRepresents.step hw
    · exact .inl ⟨next, t', hstep, hnext, hsame.trans harrangement.tail,
        hexpected.trans h.expected⟩
    · exact .inr ⟨hstep, Nat.le_of_lt hlt, hfits⟩

/-- After any number of steps the run is as it should be, unless its texts have outgrown memory. -/
theorem reached_steps? (bindings : List Binding) (policy : Policy)
    (h : (start text spans).Represents t₀) (k : Nat) :
    (∃ run t, steps? bindings policy k (start text spans) = some run ∧
        Reached bindings policy t₀ spans k run t) ∨
      steps? bindings policy k (start text spans) = none ∧
        ¬ (start text spans).Fits bindings policy := by
  induction k with
  | zero => exact .inl ⟨_, t₀, rfl, reached_start h⟩
  | succ k ih =>
    rw [steps?_add]
    rcases ih with ⟨run, t, hrun, hreached⟩ | ⟨hrun, hfits⟩
    · rw [hrun]
      rcases hreached.step with ⟨next, t', hnext, hreached'⟩ | ⟨hnone, hk, hlong⟩
      · exact .inl ⟨next, t', by simp [steps?, hnext], hreached'⟩
      · refine .inr ⟨by simp [steps?, hnone], fun hfits => ?_⟩
        exact hlong (hfits.buffers k hk run hrun) hfits.values
    · exact .inr ⟨by rw [hrun]; rfl, hfits⟩

theorem reached_of_steps? {k : Nat} {run : Run} (h : (start text spans).Represents t₀)
    (hrun : steps? bindings policy k (start text spans) = some run) :
    ∃ t, Reached bindings policy t₀ spans k run t := by
  rcases reached_steps? bindings policy h k with ⟨run', t, hrun', hreached⟩ | ⟨hnone, -⟩
  · obtain rfl := Option.some.inj (hrun.symm.trans hrun')
    exact ⟨t, hreached⟩
  · rw [hrun] at hnone
    cases hnone

theorem Reached.waiting_eq_nil {k : Nat} {run : Run} {t : Template}
    (h : Reached bindings policy t₀ spans k run t) (hk : spans.length ≤ k) :
    run.waiting = [] := by
  have hlength := h.arrangement.1
  rw [List.drop_eq_nil_of_le hk] at hlength
  exact List.length_eq_zero_iff.1 hlength

/-- A run that has settled everything has come to the value of the template. -/
theorem Reached.resolution {k : Nat} {run : Run} {t : Template}
    (h : Reached bindings policy t₀ spans k run t) (hk : spans.length ≤ k) :
    run.resolution = t₀.evaluate bindings policy := by
  have hwaiting := h.waiting_eq_nil hk
  have hspans : t.spansFrom 0 = [] := (h.waiting.symm.trans (.of_eq hwaiting)).eq_nil
  rw [← h.expected, Run.expected, Template.evaluate_of_spansFrom_eq_nil hspans, h.text]
  rfl

end Run

/-- Resolving the placeholders of a template gives its value, unless a text on the way outgrows
memory. -/
theorem Run.Represents.substitute?_eq {bindings : List Binding} {policy : Policy} {t : Template}
    {text : Text} {spans : List Span} (h : (Run.start text spans).Represents t) :
    substitute? text spans bindings policy = some (t.evaluate bindings policy) ∨
      substitute? text spans bindings policy = none ∧
        ¬ (Run.start text spans).Fits bindings policy := by
  unfold substitute?
  rcases Run.reached_steps? bindings policy h spans.length with
    ⟨run, t', hrun, hreached⟩ | ⟨hrun, hfits⟩
  · left
    rw [hrun, Option.map_some, hreached.resolution (Nat.le_refl _)]
  · right
    rw [hrun]
    exact ⟨rfl, hfits⟩

end Interpolation
