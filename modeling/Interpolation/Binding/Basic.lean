import Interpolation.Text.Blank
import Interpolation.Text.Lowercase

/-!
Bindings of a pattern to a value. Blank characters never matter, and letter case does where a
binding says so.
-/
namespace Interpolation

/-- What a binding says about letter case. Leaving it open means the same as ignoring case, but is
told apart from it where bindings are compared. -/
inductive CaseSensitivity
  | sensitive
  | insensitive
  | unspecified
  deriving DecidableEq, Repr

namespace CaseSensitivity

/-- An optional flag, true for case-sensitive bindings. -/
def ofFlag : Option Bool → CaseSensitivity
  | some true => .sensitive
  | some false => .insensitive
  | none => .unspecified

def isSensitive : CaseSensitivity → Bool
  | .sensitive => true
  | _ => false

theorem isSensitive_eq_false_iff {s : CaseSensitivity} :
    s.isSensitive = false ↔ s ≠ .sensitive := by
  cases s <;> decide

end CaseSensitivity

/-- A value to put in the place of every placeholder whose content the pattern accepts. -/
structure Binding where
  pattern : Text
  value : Text
  caseSensitivity : CaseSensitivity
  deriving DecidableEq, Repr

namespace Binding

/-- Whether a placeholder with this content takes the value of the binding. -/
def accepts (b : Binding) (content : Text) : Bool :=
  if b.caseSensitivity.isSensitive then content.squeeze == b.pattern.squeeze
  else content.squeeze.lowercase == b.pattern.squeeze.lowercase

/-- The lowercase form of the pattern without its blank characters. -/
def key (b : Binding) : Text :=
  b.pattern.squeeze.lowercase

/-- A binding accepts only contents that come down to its key. -/
theorem key_eq_of_accepts {b : Binding} {content : Text} (h : b.accepts content = true) :
    b.key = content.squeeze.lowercase := by
  unfold accepts at h
  split at h
  · rw [key, beq_iff_eq.1 h]
  · exact (beq_iff_eq.1 h).symm

/-- Where case does not matter, a binding accepts all contents that come down to its key. -/
theorem accepts_iff_key_eq {b : Binding} {content : Text}
    (hb : b.caseSensitivity.isSensitive = false) :
    b.accepts content = true ↔ b.key = content.squeeze.lowercase := by
  rw [accepts, hb, if_neg Bool.false_ne_true, beq_iff_eq, key]
  exact eq_comm

end Binding

def firstAccepting (bindings : List Binding) (content : Text) : Option Binding :=
  bindings.find? (·.accepts content)

end Interpolation
