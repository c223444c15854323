import Interpolation.Proofs.Resolution.Evaluation
import Interpolation.Proofs.Resolution.Safety

/-!
Two runs over one text stay in step as long as they choose the same at every turn.
-/
namespace Interpolation

open Template

section

variable {bindings : List Binding} {content : Text}

private theorem firstAccepting_append {later : List Binding}
    (h : firstAccepting bindings content = none → ∀ b ∈ later, b.accepts content = false) :
    firstAccepting (bindings ++ later) content = firstAccepting bindings content := by
  unfold firstAccepting at h ⊢
  rw [List.find?_append]
  cases hfirst : bindings.find? (·.accepts content) with
  | some b => rfl
  | none =>
    rw [Option.none_or, List.find?_eq_none]
    exact fun b hb => by simp [h hfirst b hb]

private theorem replacement?_of_accepts (h : (firstAccepting bindings content).isSome)
    (policy policy' : Policy) :
    replacement? bindings policy' content = replacement? bindings policy content := by
  obtain ⟨b, hb⟩ := Option.isSome_iff_exists.1 h
  unfold replacement?
  rw [hb]

end

namespace Run

/-- The content that the span at place `k` of `spans` has when its turn comes, if it does. -/
def turn? (bindings : List Binding) (policy : Policy) (text : Text) (spans : List Span) (k : Nat) :
    Option Text :=
  (steps? bindings policy k (start text spans)).bind fun run => run.waiting.head?.map Span.content

/-- When the turn of the span at place `k` comes, a binding accepts its content. -/
def AcceptsAt (bindings : List Binding) (policy : Policy) (text : Text) (spans : List Span)
    (k : Nat) : Prop :=
  ∀ content ∈ turn? bindings policy text spans k, (firstAccepting bindings content).isSome

instance (bindings : List Binding) (policy : Policy) (text : Text) (spans : List Span) (k : Nat) :
    Decidable (AcceptsAt bindings policy text spans k) :=
  inferInstanceAs (Decidable (∀ content ∈ turn? bindings policy text spans k, _))

section

variable {bindings bindings' : List Binding} {policy policy' : Policy} {text : Text}
  {spans : List Span}

theorem turn?_of_steps? {k : Nat} {run : Run} {span : Span} {waiting : List Span}
    (hrun : steps? bindings policy k (start text spans) = some run)
    (hw : run.waiting = span :: waiting) :
    turn? bindings policy text spans k = some span.content := by
  rw [turn?, hrun, Option.bind_some, hw]
  rfl

theorem step?_congr {run : Run}
    (h : ∀ content ∈ run.waiting.head?.map Span.content,
      replacement? bindings' policy' content = replacement? bindings policy content ∧
        hits bindings' content = hits bindings content) :
    run.step? bindings' policy' = run.step? bindings policy := by
  unfold step?
  cases hw : run.waiting with
  | nil => rfl
  | cons span waiting =>
    obtain ⟨hreplacement, hhits⟩ := h span.content (by simp [hw])
    dsimp only
    rw [hreplacement, hhits]

/-- Runs that choose the same at every turn are in the same state at every step. -/
theorem steps?_congr
    (h : ∀ k, ∀ content ∈ turn? bindings policy text spans k,
      replacement? bindings' policy' content = replacement? bindings policy content ∧
        hits bindings' content = hits bindings content) (k : Nat) :
    steps? bindings' policy' k (start text spans) =
      steps? bindings policy k (start text spans) := by
  induction k with
  | zero => rfl
  | succ k ih =>
    rw [steps?_add, steps?_add, ih]
    cases hrun : steps? bindings policy k (start text spans) with
    | none => rfl
    | some run =>
      have hstep : run.step? bindings' policy' = run.step? bindings policy := by
        refine step?_congr fun content hcontent => h k content ?_
        rwa [turn?, hrun]
      rw [Option.bind_some, Option.bind_some, steps?, steps?, hstep]
      rfl

theorem turn?_eq_none {k : Nat} (h : spans.Perm (scan text)) (hinner : Span.InnerFirst spans)
    (hk : spans.length ≤ k) : turn? bindings policy text spans k = none := by
  rw [turn?]
  cases hrun : steps? bindings policy k (start text spans) with
  | none => rfl
  | some run =>
    obtain ⟨t, hreached⟩ := reached_of_steps? (represents_parse h hinner) hrun
    rw [Option.bind_some, hreached.waiting_eq_nil hk]
    rfl

/-- A run in which a binding accepts every content is the same under each policy. -/
theorem steps?_of_acceptsAt (h : ∀ k, AcceptsAt bindings policy text spans k) (policy' : Policy)
    (k : Nat) :
    steps? bindings policy' k (start text spans) = steps? bindings policy k (start text spans) :=
  steps?_congr (fun k content hcontent =>
    ⟨replacement?_of_accepts (h k content hcontent) policy policy', rfl⟩) k

end

end Run

/-- Lists of bindings that choose the same one at every turn come to the same result. -/
theorem substitute?_congr {bindings bindings' : List Binding} {policy : Policy} {text : Text}
    {spans : List Span}
    (h : ∀ k, ∀ content ∈ Run.turn? bindings policy text spans k,
      firstAccepting bindings' content = firstAccepting bindings content) :
    substitute? text spans bindings' policy = substitute? text spans bindings policy := by
  unfold substitute?
  rw [Run.steps?_congr]
  intro k content hcontent
  unfold replacement? hits
  rw [h k content hcontent]
  exact ⟨rfl, rfl⟩

theorem Store.render?_congr {store store' : Store} {template : Text}
    (h : ∀ policy, resolve? template store'.bindings policy =
      resolve? template store.bindings policy) (mode : Mode) :
    store'.render? template mode = store.render? template mode := by
  cases mode with
  | keepUnmatched => exact h .keep
  | deleteUnmatched => exact h .delete
  | optimization => rw [render?, render?, h .keep, h .delete]

/-- At no turn do the bindings of the store leave a content to one of `later`. -/
def Store.LeavesNothing (store : Store) (template : Text) (policy : Policy)
    (later : List Binding) : Prop :=
  ∀ k, ∀ content ∈ Run.turn? store.bindings policy template (order (scan template)) k,
    firstAccepting store.bindings content = none → ∀ b ∈ later, b.accepts content = false

section

variable {store : Store} {template : Text} {policy : Policy} {later : List Binding}

theorem Store.LeavesNothing.resolve?_eq (h : store.LeavesNothing template policy later) :
    resolve? template (store.bindings ++ later) policy =
      resolve? template store.bindings policy := by
  unfold resolve?
  apply substitute?_congr
  intro k content hcontent
  exact firstAccepting_append (h k content hcontent)

theorem Store.LeavesNothing.render?_eq (h : ∀ policy, store.LeavesNothing template policy later)
    (mode : Mode) :
    Store.render? ⟨store.bindings ++ later⟩ template mode = store.render? template mode :=
  render?_congr (fun policy => (h policy).resolve?_eq) mode

private theorem Store.leavesNothing_of_acceptsAt
    (h : ∀ k, Run.AcceptsAt store.bindings .keep template (order (scan template)) k)
    (policy : Policy) (later : List Binding) : store.LeavesNothing template policy later := by
  intro k content hcontent hnone
  rw [Run.turn?, Run.steps?_of_acceptsAt h policy] at hcontent
  have hsome := h k content hcontent
  rw [hnone] at hsome
  cases hsome

end

/-- Bindings that come later take over nothing: if they accept no content that those of the store
leave at its turn, the result is the same as without them. -/
theorem render?_append_later (store : Store) (later : List Binding) (template : Text) :
    (∀ policy, store.LeavesNothing template policy later →
      resolve? template (store.bindings ++ later) policy =
        resolve? template store.bindings policy) ∧
    ((∀ policy, store.LeavesNothing template policy later) → ∀ mode,
      Store.render? ⟨store.bindings ++ later⟩ template mode = store.render? template mode) ∧
    ((∀ k, Run.AcceptsAt store.bindings .keep template (order (scan template)) k) → ∀ mode,
      Store.render? ⟨store.bindings ++ later⟩ template mode = store.render? template mode) ∧
    ∀ mode, store.RenderFits template mode → (store.render? template mode).isSome := by
  refine ⟨fun policy h => h.resolve?_eq, fun h mode => Store.LeavesNothing.render?_eq h mode,
    fun h mode => ?_, fun mode hfits => Store.render?_isSome hfits⟩
  exact Store.LeavesNothing.render?_eq
    (fun policy => Store.leavesNothing_of_acceptsAt h policy later) mode

/-- The later bindings accept the inner content, which the store accepts first, and what the outer
one was in the beginning, but not what it has become. In the second template the store accepts that
too. -/
theorem render?_append_later_shadowed :
    let store : Store := ⟨[⟨['a'], ['é'], .insensitive⟩, ⟨['d', 'É'], ['$', '{'], .insensitive⟩]⟩
    let later : List Binding := [⟨['a'], ['z'], .sensitive⟩, ⟨['c', '$', '{', 'a', '}'], [],
      .unspecified⟩]
    let template : Text := ['$', '{', 'c', '$', '{', 'A', '}', '}']
    let accepted : Text := ['$', '{', 'D', '$', '{', 'a', '}', '}']
    (∀ mode, Store.render? ⟨store.bindings ++ later⟩ template mode = store.render? template mode) ∧
    (∀ mode, Store.render? ⟨store.bindings ++ later⟩ accepted mode = store.render? accepted mode) ∧
    (store.render? template .optimization).isSome := by
  intro store later template accepted
  have horder : order (scan template) = [⟨4, 6, ['A']⟩, ⟨1, 7, ['c', '$', '{', 'A', '}']⟩] :=
    order_eq_of_perm (by decide) (by decide) (by decide)
  have horder' : order (scan accepted) = [⟨4, 6, ['a']⟩, ⟨1, 7, ['D', '$', '{', 'a', '}']⟩] :=
    order_eq_of_perm (by decide) (by decide) (by decide)
  have hleaves : ∀ policy, store.LeavesNothing template policy later := by
    rintro policy (_ | _ | k)
    · rw [horder]
      cases policy <;> decide
    · rw [horder]
      cases policy <;> decide
    · rw [Run.turn?_eq_none (order_perm _) (innerFirst_order_scan template) (by simp [horder])]
      nofun
  have haccepts : ∀ k, Run.AcceptsAt store.bindings .keep accepted (order (scan accepted)) k := by
    rintro (_ | _ | k)
    · rw [horder']
      decide
    · rw [horder']
      decide
    · unfold Run.AcceptsAt
      rw [Run.turn?_eq_none (order_perm _) (innerFirst_order_scan accepted) (by simp [horder'])]
      nofun
  have hfits : store.RenderFits template .optimization := by
    intro policy _
    rw [horder]
    cases policy <;> exact ⟨by decide, by decide⟩
  exact ⟨(render?_append_later store later template).2.1 hleaves,
    (render?_append_later store later accepted).2.2.1 haccepts,
    (render?_append_later store later template).2.2.2 .optimization hfits⟩

end Interpolation
