import Interpolation.Binding.Basic
import Interpolation.Proofs.Text.Sigma

/-!
Letter case of what a binding accepts. It counts only where a blank character decides whether a
word ends.
-/
namespace Interpolation

namespace Binding

variable {b : Binding} {content : Text}

/-- Of a lowercase form only the blank characters are removed for the comparison. -/
theorem accepts_lowercase_iff_key_eq (hb : b.caseSensitivity.isSensitive = false) :
    b.accepts content.lowercase = true ↔ b.key = content.lowercase.squeeze := by
  rw [accepts_iff_key_eq hb, Text.lowercase_squeeze_lowercase]

/-- A binding that ignores case accepts a content if and only if it accepts its lowercase form, as
long as no capital sigma has a form that it owes to a blank character. Otherwise it accepts at most
one of the two. In contents without blank characters case never matters. -/
theorem accepts_lowercase (b : Binding) (hb : b.caseSensitivity ≠ .sensitive) (content : Text) :
    (content.SigmasSteady → (b.accepts content = true ↔ b.accepts content.lowercase = true)) ∧
    (¬ content.SigmasSteady →
      ¬ (b.accepts content = true ∧ b.accepts content.lowercase = true)) ∧
    (b.accepts content = true ↔ b.accepts content.squeeze.lowercase = true) ∧
    ('Σ' ∉ content ∨ content.squeeze = content → content.SigmasSteady) := by
  rw [← CaseSensitivity.isSensitive_eq_false_iff] at hb
  refine ⟨?_, ?_, ?_, ?_⟩
  · intro hsteady
    rw [accepts_iff_key_eq hb, accepts_lowercase_iff_key_eq hb,
      Text.squeeze_lowercase_eq_iff.2 hsteady]
  · rintro hunsteady ⟨haccepts, hlowercase⟩
    rw [accepts_iff_key_eq hb] at haccepts
    rw [accepts_lowercase_iff_key_eq hb] at hlowercase
    exact hunsteady (Text.squeeze_lowercase_eq_iff.1 (hlowercase.symm.trans haccepts))
  · have hsteady := Text.sigmasSteady_of_squeeze_eq content.squeeze_squeeze
    rw [accepts_iff_key_eq hb, accepts_lowercase_iff_key_eq hb,
      Text.squeeze_lowercase_eq_iff.2 hsteady, Text.squeeze_squeeze]
  · rintro (h | h)
    · exact Text.sigmasSteady_of_not_mem h
    · exact Text.sigmasSteady_of_squeeze_eq h

/-- The first sigma stands at the front and the second ends a word, with the blanks and without
them. In the other content the blank makes an end of the word. -/
theorem accepts_lowercase_steady :
    let b : Binding := ⟨['σ', 'Α', 'ς', '1'], ['v'], .insensitive⟩
    let steady : Text := ['Σ', ' ', 'Α', 'Σ', '\t', '1']
    let unsteady : Text := ['Σ', 'Α', 'Σ', ' ', 'Β']
    b.caseSensitivity ≠ .sensitive ∧ steady.SigmasSteady ∧ ¬ unsteady.SigmasSteady ∧
      b.accepts steady.lowercase = true ∧
      ¬ (b.accepts unsteady = true ∧ b.accepts unsteady.lowercase = true) := by
  intro b steady unsteady
  have hb : b.caseSensitivity ≠ .sensitive := by decide
  have hsteady : steady.SigmasSteady := by decide +kernel
  have hunsteady : ¬ unsteady.SigmasSteady := by decide +kernel
  have haccepts : b.accepts steady = true := by decide +kernel
  exact ⟨hb, hsteady, hunsteady, ((accepts_lowercase b hb steady).1 hsteady).1 haccepts,
    (accepts_lowercase b hb unsteady).2.1 hunsteady⟩

/-- The pattern itself is accepted, and its lowercase form, in which the blank has made the sigma
final, is not. -/
theorem accepts_not_lowercase :
    let b : Binding := ⟨['Α', 'Σ', ' ', 'Β'], ['v'], .unspecified⟩
    b.caseSensitivity ≠ .sensitive ∧ b.accepts ['Α', 'Σ', ' ', 'Β'] = true ∧
      Text.lowercase ['Α', 'Σ', ' ', 'Β'] = ['α', 'ς', ' ', 'β'] ∧
      b.accepts ['α', 'ς', ' ', 'β'] = false := by
  decide +kernel

end Binding

end Interpolation
