import Interpolation.Number.Binary64

/-!
Configuration values, and the steps by which keys lead into them.
-/
namespace Interpolation

/-- Keys, each of them once, with what they hold. Their order says nothing. -/
abbrev Entries (α : Type) := List (String × α)

inductive Value
  | null
  | boolean (b : Bool)
  | integer (n : Int)
  | float (x : Binary64)
  | string (s : String)
  | array (items : List Value)
  | table (entries : List (String × Value))
  deriving Repr

/-- One step into a value. Positions below zero count from the end of an array. -/
inductive Step
  | key (name : String)
  | position (index : Int)
  deriving DecidableEq, Repr

def Step.isName : Step → Bool
  | key _ => true
  | position _ => false

namespace Value

/-- The entries of a table, none for any other value. -/
def entries : Value → Entries Value
  | table entries => entries
  | _ => []

def get? (value : Value) (key : String) : Option Value :=
  value.entries.lookup key

def IsTable (value : Value) : Prop :=
  ∃ entries, value = .table entries

instance : DecidablePred IsTable
  | .table entries => isTrue ⟨entries, rfl⟩
  | .null | .boolean _ | .integer _ | .float _ | .string _ | .array _ => isFalse nofun

/-- The tables within tables that hold a value at the end of steps by name. -/
def nest : List Step → Value → Value
  | .key name :: steps, value => .table [(name, nest steps value)]
  | _, value => value

end Value

end Interpolation
