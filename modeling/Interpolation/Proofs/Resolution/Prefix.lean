import Interpolation.Resolution.Run

/-!
Runs over the first spans of a list go through the same buffers and counts as the whole run.
-/
namespace Interpolation

private theorem mapM_take_eq_some {α β : Type} {f : α → Option β} {l : List α} {l' : List β}
    (h : l.mapM f = some l') (n : Nat) : (l.take n).mapM f = some (l'.take n) := by
  induction l generalizing l' n with
  | nil =>
    obtain rfl : [] = l' := Option.some.inj h
    rw [List.take_nil, List.take_nil]
    rfl
  | cons a l ih =>
    rw [List.mapM_cons] at h
    obtain ⟨b, hb, h⟩ := Option.bind_eq_some_iff.1 h
    obtain ⟨bs, hbs, h⟩ := Option.bind_eq_some_iff.1 h
    obtain rfl := Option.some.inj h
    cases n with
    | zero => rfl
    | succ n =>
      rw [List.take_succ_cons, List.take_succ_cons, List.mapM_cons, hb, ih hbs n]
      rfl

private theorem replacement?_eq_none_of_keep {bindings : List Binding} {content : Text}
    (h : firstAccepting bindings content = none) : replacement? bindings .keep content = none := by
  unfold replacement?
  rw [h]

private theorem hits_le_one (bindings : List Binding) (content : Text) :
    hits bindings content ≤ 1 := by
  unfold hits
  split <;> omega

namespace Run

/-- What a step does. Without a waiting span nothing changes, a span that is kept lets its turn
pass, and one that is replaced is cut out of the buffer and moves those behind it. -/
inductive StepsTo (bindings : List Binding) (policy : Policy) : Run → Run → Prop
  | done {buffer : Text} {n : Nat} : StepsTo bindings policy ⟨buffer, [], n⟩ ⟨buffer, [], n⟩
  | kept {buffer : Text} {span : Span} {waiting : List Span} {n : Nat}
      (hnone : replacement? bindings policy span.content = none) :
      StepsTo bindings policy ⟨buffer, span :: waiting, n⟩ ⟨buffer, waiting, n⟩
  | replaced {buffer value spliced : Text} {span : Span} {waiting moved : List Span} {n : Nat}
      (hvalue : replacement? bindings policy span.content = some value)
      (hsplice : span.splice? value buffer = some spliced)
      (hmoved : waiting.mapM (span.rebase? value.byteLength spliced) = some moved) :
      StepsTo bindings policy ⟨buffer, span :: waiting, n⟩
        ⟨spliced, moved, n + hits bindings span.content⟩

variable {bindings : List Binding} {policy : Policy} {run next : Run} {text : Text}
  {spans : List Span}

theorem stepsTo_of_step? (h : run.step? bindings policy = some next) :
    StepsTo bindings policy run next := by
  obtain ⟨buffer, waiting, n⟩ := run
  cases waiting with
  | nil =>
    obtain rfl := Option.some.inj h
    exact .done
  | cons span waiting =>
    unfold step? at h
    dsimp only at h
    cases hvalue : replacement? bindings policy span.content with
    | none =>
      rw [hvalue] at h
      obtain rfl := Option.some.inj h
      exact .kept hvalue
    | some value =>
      rw [hvalue] at h
      obtain ⟨spliced, hsplice, h⟩ := Option.bind_eq_some_iff.1 h
      obtain ⟨moved, hmoved, h⟩ := Option.bind_eq_some_iff.1 h
      obtain rfl := Option.some.inj h
      exact .replaced hvalue hsplice hmoved

namespace StepsTo

theorem step?_eq (h : StepsTo bindings policy run next) :
    run.step? bindings policy = some next := by
  cases h with
  | done => rfl
  | kept hnone =>
    unfold step?
    dsimp only
    rw [hnone]
  | replaced hvalue hsplice hmoved =>
    unfold step?
    dsimp only
    rw [hvalue]
    simp [hsplice, hmoved]

private theorem replaced_cases (h : StepsTo bindings policy run next) :
    next.replaced = run.replaced ∨ next.replaced = run.replaced + 1 := by
  cases h with
  | done => exact .inl rfl
  | kept hnone => exact .inl rfl
  | replaced hvalue hsplice hmoved =>
    rename_i span _ _ n
    have hhits := hits_le_one bindings span.content
    dsimp only
    omega

end StepsTo

/-- The run with the first `n` of its waiting spans only. -/
def take (n : Nat) (run : Run) : Run :=
  { run with waiting := run.waiting.take n }

@[simp] theorem resolution_take (n : Nat) (run : Run) : (run.take n).resolution = run.resolution :=
  rfl

private theorem take_of_length_le {n : Nat} (h : run.waiting.length ≤ n) : run.take n = run := by
  rw [take, List.take_of_length_le h]

/-- A step does to the first spans what it would do to them alone. -/
theorem StepsTo.take (h : StepsTo bindings policy run next) (n : Nat) :
    StepsTo bindings policy (run.take (n + 1)) (next.take n) := by
  cases h with
  | done =>
    rw [Run.take, Run.take, List.take_nil, List.take_nil]
    exact .done
  | kept hnone => exact .kept hnone
  | replaced hvalue hsplice hmoved =>
    exact .replaced hvalue hsplice (mapM_take_eq_some hmoved n)

theorem steps?_take {k : Nat} (h : steps? bindings policy k run = some next) (n : Nat) :
    steps? bindings policy k (run.take (n + k)) = some (next.take n) := by
  induction k generalizing run with
  | zero =>
    obtain rfl := Option.some.inj h
    rfl
  | succ k ih =>
    obtain ⟨mid, hmid, h⟩ := Option.bind_eq_some_iff.1 h
    have hfirst := (stepsTo_of_step? hmid).take (n + k)
    rw [steps?, ← Nat.add_assoc, hfirst.step?_eq]
    exact ih h

/-- No span waits after as many steps as there were spans. -/
private theorem waiting_eq_nil_of_length_le {k : Nat} (h : steps? bindings policy k run = some next)
    (hk : run.waiting.length ≤ k) : next.waiting = [] := by
  have hall := steps?_take h 0
  rw [Nat.zero_add, take_of_length_le hk, h] at hall
  have hnext : next = next.take 0 := Option.some.inj hall
  rw [hnext]
  rfl

private theorem steps?_of_waiting_eq_nil (h : run.waiting = []) (k : Nat) :
    steps? bindings policy k run = some run := by
  induction k with
  | zero => rfl
  | succ k ih =>
    have hstep : run.step? bindings policy = some run := by
      rw [step?, h]
    rw [steps?, hstep]
    exact ih

private theorem step?_of_kept {span : Span} {waiting : List Span}
    (hw : run.waiting = span :: waiting)
    (h : firstAccepting bindings span.content = none) :
    run.step? bindings .keep = some { run with waiting } := by
  obtain ⟨buffer, _, n⟩ := run
  obtain rfl := hw
  have hnone : replacement? bindings .keep span.content = none := replacement?_eq_none_of_keep h
  exact (StepsTo.kept hnone).step?_eq

private theorem step?_of_steps?_succ {k : Nat}
    (hrun : steps? bindings policy k (start text spans) = some run)
    (hnext : steps? bindings policy (k + 1) (start text spans) = some next) :
    run.step? bindings policy = some next := by
  rw [steps?_add, hrun, Option.bind_some] at hnext
  obtain ⟨mid, hmid, hnext⟩ := Option.bind_eq_some_iff.1 hnext
  obtain rfl := Option.some.inj hnext
  exact hmid

end Run

section

variable {bindings : List Binding} {policy : Policy} {text : Text} {spans : List Span}

/-- Further steps after the last span leave the result as it is. -/
theorem substitute?_eq_steps? {k : Nat} (hk : spans.length ≤ k) :
    substitute? text spans bindings policy =
      (Run.steps? bindings policy k (.start text spans)).map (·.resolution) := by
  obtain ⟨j, rfl⟩ := Nat.exists_eq_add_of_le hk
  rw [substitute?, Run.steps?_add]
  cases hrun : Run.steps? bindings policy spans.length (.start text spans) with
  | none => rfl
  | some run =>
    have hw : run.waiting = [] := Run.waiting_eq_nil_of_length_le hrun (Nat.le_refl _)
    rw [Option.bind_some, Run.steps?_of_waiting_eq_nil hw]

theorem exists_steps?_of_substitute? {r : Resolution}
    (h : substitute? text spans bindings policy = some r) (k : Nat) :
    ∃ run, Run.steps? bindings policy k (.start text spans) = some run := by
  have hlong : spans.length ≤ k + spans.length := Nat.le_add_left _ _
  rw [substitute?_eq_steps? hlong, Run.steps?_add] at h
  obtain ⟨last, hlast, -⟩ := Option.map_eq_some_iff.1 h
  obtain ⟨run, hrun, -⟩ := Option.bind_eq_some_iff.1 hlast
  exact ⟨run, hrun⟩

theorem substitute?_take_of_steps? {k : Nat} {run : Run}
    (hrun : Run.steps? bindings policy k (.start text spans) = some run) :
    substitute? text (spans.take k) bindings policy = some run.resolution := by
  have htake := Run.steps?_take hrun 0
  rw [Nat.zero_add] at htake
  have hstart : Run.start text (spans.take k) = (Run.start text spans).take k := rfl
  rw [substitute?_eq_steps? (List.length_take_le k spans), hstart, htake, Option.map_some,
    Run.resolution_take]

end

/-- Spans that come later never matter to earlier steps. If resolving any spans is defined, so is
resolving the first `k` of them, with the buffer and the count that the whole run has after `k`
steps. The next step counts one more at most, and if it keeps its span, it changes nothing else. -/
theorem substitute?_take_of_substitute? (text : Text) (spans : List Span)
    (bindings : List Binding) (policy : Policy) (r : Resolution)
    (h : substitute? text spans bindings policy = some r) (k : Nat) :
    ∃ run next, Run.steps? bindings policy k (.start text spans) = some run ∧
      Run.steps? bindings policy (k + 1) (.start text spans) = some next ∧
      substitute? text (spans.take k) bindings policy = some run.resolution ∧
      (next.replaced = run.replaced ∨ next.replaced = run.replaced + 1) ∧
      ∀ span waiting, run.waiting = span :: waiting → policy = .keep →
        firstAccepting bindings span.content = none → next = { run with waiting } := by
  obtain ⟨run, hrun⟩ := exists_steps?_of_substitute? h k
  obtain ⟨next, hnext⟩ := exists_steps?_of_substitute? h (k + 1)
  have hstep : run.step? bindings policy = some next := Run.step?_of_steps?_succ hrun hnext
  refine ⟨run, next, hrun, hnext, substitute?_take_of_steps? hrun,
    (Run.stepsTo_of_step? hstep).replaced_cases, ?_⟩
  rintro span waiting hw rfl hnone
  rw [Run.step?_of_kept hw hnone] at hstep
  exact (Option.some.inj hstep).symm

/-- Spans that no scan finds. The first one, out of range, is kept, and so is the third, which reads
its content from the new buffer after the second; the fourth cuts into the value of the second. -/
theorem substitute?_take_of_substitute?_stale :
    let text : Text := ['a', '$', '{', 'b', '}', 'é']
    let spans : List Span := [⟨0, 99, ['q']⟩, ⟨2, 4, ['b']⟩, ⟨1, 5, ['b']⟩, ⟨3, 6, ['b']⟩,
      ⟨5, 5, []⟩]
    let bindings : List Binding := [⟨['b'], ['x', 'y', 'z', '→'], .sensitive⟩]
    let r : Resolution := ⟨['a', 'x', 'x', 'y', 'z', '→', 'é'], 2⟩
    substitute? text spans bindings .keep = some r ∧
      ∃ run next, Run.steps? bindings .keep 2 (.start text spans) = some run ∧
        Run.steps? bindings .keep 3 (.start text spans) = some next ∧
        substitute? text (spans.take 2) bindings .keep = some run.resolution ∧
        (next.replaced = run.replaced ∨ next.replaced = run.replaced + 1) ∧
        ∀ span waiting, run.waiting = span :: waiting → Policy.keep = .keep →
          firstAccepting bindings span.content = none → next = { run with waiting } := by
  intro text spans bindings r
  have hr : substitute? text spans bindings .keep = some r := by decide
  exact ⟨hr, substitute?_take_of_substitute? text spans bindings .keep r hr 2⟩

end Interpolation
