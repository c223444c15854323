import Interpolation.Text.Basic

/-!
Spans: where the placeholders of a text stand.
-/
namespace Interpolation

/-- The place of one placeholder `${…}`: the byte offsets of its opening and of its closing brace,
and the text between them. -/
structure Span where
  start : Nat
  stop : Nat
  content : Text
  deriving DecidableEq, Repr

namespace Span

/-- Both braces of `a` stand outside both braces of `b`. -/
def Encloses (a b : Span) : Prop :=
  a.start < b.start ∧ b.stop < a.stop

instance (a b : Span) : Decidable (a.Encloses b) :=
  inferInstanceAs (Decidable (_ ∧ _))

/-- The number of bytes of the whole placeholder: its content, two braces and the dollar sign. -/
def placeholderLength (s : Span) : Nat :=
  s.content.byteLength + 3

theorem Encloses.trans {a b c : Span} (hab : a.Encloses b) (hbc : b.Encloses c) :
    a.Encloses c :=
  ⟨Nat.lt_trans hab.1 hbc.1, Nat.lt_trans hbc.2 hab.2⟩

theorem Encloses.asymm {a b : Span} (hab : a.Encloses b) : ¬ b.Encloses a :=
  fun hba => Nat.lt_asymm hab.1 hba.1

end Span

end Interpolation
