import Interpolation.Backend.Merging
import Interpolation.Number.Shortest
import Interpolation.Settings.Library

/-!
Reading from configuration values. Scalars convert freely to text and to truth values.
-/
namespace Interpolation

namespace Backend

/-- Why there are no settings: a document is not well formed, a value does not convert to what its
field holds, or a value has not the shape of its field. -/
inductive Fault
  | malformed
  | unconvertible
  | misshapen
  deriving DecidableEq, Repr

def Fault.message : Fault → String
  | malformed => "the document is not well formed"
  | unconvertible => "the value does not convert"
  | misshapen => "the value has another shape"

end Backend

namespace Value

open Backend

def toText : Value → Except Fault String
  | .string s => .ok s
  | .boolean b => .ok (if b then "true" else "false")
  | .integer n => .ok (String.ofList (Decimal.toText ⟨n < 0, n.natAbs, 0⟩))
  | .float x => .ok (String.ofList x.toText)
  | .null | .array _ | .table _ => .error .unconvertible

def truthOfWord? (word : String) : Option Bool :=
  match lowercaseString word with
  | "1" | "true" | "on" | "yes" => some true
  | "0" | "false" | "off" | "no" => some false
  | _ => none

def toTruth : Value → Except Fault Bool
  | .boolean b => .ok b
  | .integer n => .ok (n ≠ 0)
  | .float x => .ok x.isNonzero
  | .string s => (truthOfWord? s).elim (.error .unconvertible) .ok
  | .null | .array _ | .table _ => .error .unconvertible

/-- The fields of a record, in the order of their names. -/
def toFields (names : List String) : Value → Except Fault (Entries Value)
  | .table entries => .ok (names.filterMap fun name => (entries.lookup name).map (name, ·))
  | .array items => .ok (names.zip items)
  | _ => .error .misshapen

def toItems : Value → Except Fault (List Value)
  | .array items => .ok items
  | _ => .error .misshapen

/-- The choice that a string names in any casing, or a table by its only key. -/
def toChoice {α : Type} (choices : List (String × α)) : Value → Except Fault α
  | .string s | .table [(s, _)] =>
    (choices.find? fun choice => lowercaseString choice.1 = lowercaseString s).elim
      (.error .misshapen) fun choice => .ok choice.2
  | _ => .error .misshapen

end Value

namespace Backend

def reader : Reader Fault where
  fields := Value.toFields
  complete names value :=
    if value matches .array _ && value.items.length < names.length then .error .misshapen
    else .ok ()
  items := Value.toItems
  isAbsent value := value matches .null
  text := Value.toText
  truth := Value.toTruth
  choice := Value.toChoice

end Backend

end Interpolation
