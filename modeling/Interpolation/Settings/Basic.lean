import Interpolation.Binding.Store

/-!
The settings of the program and what they come to: a store of bindings.
-/
namespace Interpolation

inductive LogFormat
  | pretty
  | json
  deriving DecidableEq, Repr

namespace LogFormat

def name : LogFormat → String
  | pretty => "pretty"
  | json => "json"

/-- The names that configurations choose from. -/
def choices : List (String × LogFormat) :=
  [pretty, json].map fun format => (format.name, format)

end LogFormat

/-- A binding as configured. What is missing is reported where the binding is added to a store. -/
structure BindingEntry where
  pattern : Option String
  value : Option String
  caseSensitive : Option Bool
  deriving DecidableEq, Repr

structure Settings where
  mode : String
  format : LogFormat
  level : String
  bindings : List BindingEntry
  deriving DecidableEq, Repr

def Store.addEntry (store : Store) (entry : BindingEntry) : Except BindingError Store :=
  store.add (entry.pattern.map String.toList) (entry.value.map String.toList) entry.caseSensitive

/-- The store of the configured bindings in their order, or why the first faulty one is refused. -/
def Settings.store (settings : Settings) : Except BindingError Store :=
  settings.bindings.foldlM Store.addEntry {}

end Interpolation
