import Interpolation.Binding.Basic

/-!
The ordered store of bindings. They are only ever added at the end.
-/
namespace Interpolation

inductive BindingError
  | emptyPattern
  | missingValue (pattern : Text)
  deriving DecidableEq, Repr

def BindingError.message : BindingError → String
  | .emptyPattern => "Invalid binding: pattern must not be empty"
  | .missingValue pattern =>
    "Invalid binding: missing value for pattern '" ++ String.ofList pattern ++ "'"

/-- Bindings in the order in which they were added. -/
structure Store where
  bindings : List Binding := []
  deriving DecidableEq, Repr

namespace Store

def size (s : Store) : Nat :=
  s.bindings.length

def get? (s : Store) (index : Nat) : Option Binding :=
  s.bindings[index]?

/-- Adds a binding whose pattern is not empty. -/
def insert (s : Store) (pattern value : Text) (caseSensitivity : CaseSensitivity) :
    Except BindingError Store :=
  if pattern = [] then .error .emptyPattern
  else .ok ⟨s.bindings ++ [⟨pattern, value, caseSensitivity⟩]⟩

/-- Adds a binding from parts that may be absent. A missing pattern is reported before a missing
value, and that before an empty pattern. -/
def add (s : Store) (pattern value : Option Text) (caseSensitive : Option Bool) :
    Except BindingError Store :=
  match pattern, value with
  | none, _ => .error .emptyPattern
  | some pattern, none => .error (.missingValue pattern)
  | some pattern, some value => s.insert pattern value (.ofFlag caseSensitive)

end Store

end Interpolation
