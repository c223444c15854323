import Interpolation.Binding.Store

/-!
Which parts make no binding.
-/
namespace Interpolation

/-- Parts that are refused, with the reason that is given. A missing value counts before an empty
pattern, and blank characters are a pattern like any other. -/
inductive Refused : Option Text → Option Text → BindingError → Prop
  | noPattern (value : Option Text) : Refused none value .emptyPattern
  | noValue (pattern : Text) : Refused (some pattern) none (.missingValue pattern)
  | emptyPattern (value : Text) : Refused (some []) (some value) .emptyPattern

namespace Refused

theorem not_of_ne_nil {pattern value : Text} {e : BindingError} (h : pattern ≠ []) :
    ¬ Refused (some pattern) (some value) e := by
  intro hrefused
  cases hrefused
  exact h rfl

end Refused

/-- Parts are refused, or both are there and the pattern is not empty. -/
theorem refused_or_exists (pattern value : Option Text) :
    (∃ e, Refused pattern value e) ∨
      ∃ p v, pattern = some p ∧ value = some v ∧ p ≠ [] := by
  cases pattern with
  | none => exact Or.inl ⟨_, .noPattern value⟩
  | some p =>
    cases value with
    | none => exact Or.inl ⟨_, .noValue p⟩
    | some v =>
      by_cases hp : p = []
      · subst hp
        exact Or.inl ⟨_, .emptyPattern v⟩
      · exact Or.inr ⟨p, v, rfl, rfl, hp⟩

namespace Store

theorem insert_of_ne_nil (s : Store) {pattern : Text} (h : pattern ≠ []) (value : Text)
    (c : CaseSensitivity) :
    s.insert pattern value c = .ok ⟨s.bindings ++ [⟨pattern, value, c⟩]⟩ := by
  rw [insert, if_neg h]

theorem add_of_refused {pattern value : Option Text} {e : BindingError}
    (h : Refused pattern value e) (s : Store) (flag : Option Bool) :
    s.add pattern value flag = .error e := by
  cases h with
  | noPattern value => rfl
  | noValue pattern => rfl
  | emptyPattern value => rfl

theorem add_of_ne_nil (s : Store) {pattern : Text} (h : pattern ≠ []) (value : Text)
    (flag : Option Bool) :
    s.add (some pattern) (some value) flag =
      .ok ⟨s.bindings ++ [⟨pattern, value, .ofFlag flag⟩]⟩ :=
  s.insert_of_ne_nil h value (.ofFlag flag)

end Store

end Interpolation
