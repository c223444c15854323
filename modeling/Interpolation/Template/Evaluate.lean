import Interpolation.Template.Basic
import Interpolation.Resolution.Basic

/-!
Evaluating a template from the inside out.
-/
namespace Interpolation.Template

/-- What stands in the place of a placeholder whose body came to `content`: the value of the first
binding that accepts it, and without one the placeholder itself or nothing. -/
def fill (bindings : List Binding) (policy : Policy) (content : Text) : Resolution :=
  match firstAccepting bindings content, policy with
  | some binding, _ => ⟨binding.value, 1⟩
  | none, .keep => ⟨'$' :: '{' :: content ++ ['}'], 0⟩
  | none, .delete => ⟨[], 0⟩

/-- The text that a template comes to, with the number of its placeholders that took the value of a
binding. -/
def evaluate (bindings : List Binding) (policy : Policy) : Template → Resolution
  | empty => ⟨[], 0⟩
  | literal c rest =>
    let after := rest.evaluate bindings policy
    ⟨c :: after.output, after.replaced⟩
  | placeholder body rest =>
    let inner := body.evaluate bindings policy
    let filled := fill bindings policy inner.output
    let after := rest.evaluate bindings policy
    ⟨filled.output ++ after.output, inner.replaced + filled.replaced + after.replaced⟩

theorem evaluate_append (bindings : List Binding) (policy : Policy) (s t : Template) :
    (s ++ t).evaluate bindings policy =
      ⟨(s.evaluate bindings policy).output ++ (t.evaluate bindings policy).output,
        (s.evaluate bindings policy).replaced + (t.evaluate bindings policy).replaced⟩ := by
  induction s with
  | empty => simp [evaluate]
  | literal c rest ih => simp [evaluate, ih]
  | placeholder body rest _ ih => simp [evaluate, ih, Nat.add_assoc]

end Interpolation.Template
