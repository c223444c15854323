import Interpolation.Resolution.Basic

/-!
Resolving the placeholders of a text one after the other.
-/
namespace Interpolation

/-- The state of a run: the text as it is now, the spans that wait for their turn as they stand in
that text, and the number of replacements so far. -/
structure Run where
  buffer : Text
  waiting : List Span
  replaced : Nat
  deriving DecidableEq, Repr

namespace Run

def start (text : Text) (spans : List Span) : Run :=
  ⟨text, spans, 0⟩

def resolution (run : Run) : Resolution :=
  ⟨run.buffer, run.replaced⟩

/-- Resolves the next waiting span. Without one, nothing changes. -/
def step? (bindings : List Binding) (policy : Policy) (run : Run) : Option Run :=
  match run.waiting with
  | [] => some run
  | span :: waiting =>
    match replacement? bindings policy span.content with
    | none => some { run with waiting }
    | some value => do
      let buffer ← span.splice? value run.buffer
      let waiting ← waiting.mapM (span.rebase? value.byteLength buffer)
      return ⟨buffer, waiting, run.replaced + hits bindings span.content⟩

/-- Resolves the next `k` waiting spans. -/
def steps? (bindings : List Binding) (policy : Policy) : Nat → Run → Option Run
  | 0, run => some run
  | k + 1, run => do
    let next ← run.step? bindings policy
    steps? bindings policy k next

theorem steps?_add (bindings : List Binding) (policy : Policy) (j k : Nat) (run : Run) :
    steps? bindings policy (j + k) run =
      (steps? bindings policy j run).bind (steps? bindings policy k) := by
  induction j generalizing run with
  | zero => simp [steps?]
  | succ j ih =>
    rw [Nat.succ_add]
    simp only [steps?, Option.bind_eq_bind, Option.bind_assoc, ih]

end Run

/-- Resolves the given spans of `text` in the given order. -/
def substitute? (text : Text) (spans : List Span) (bindings : List Binding) (policy : Policy) :
    Option Resolution :=
  (Run.steps? bindings policy spans.length (.start text spans)).map (·.resolution)

end Interpolation
