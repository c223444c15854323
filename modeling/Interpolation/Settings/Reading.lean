import Interpolation.Mode
import Interpolation.Settings.Basic
import Interpolation.Settings.Library

/-!
Settings from a configuration value. Each field that is there replaces its standard value.
-/
namespace Interpolation

namespace Settings

def standardMode : String := Mode.deleteUnmatched.name

def standardLevel : String := "info"

end Settings

namespace Reader

variable {ε : Type} (reader : Reader ε)

/-- Goes through the fields of a record, each of which changes what was read before it. -/
def record {α : Type} (names : List String) (take : α → String → Value → Except ε α) (start : α)
    (value : Value) : Except ε α := do
  (← reader.fields names value).foldlM (fun x (name, value) => take x name value) start

/-- What `read` makes of a value that may be absent. -/
def optional {α : Type} (read : Value → Except ε α) (value : Value) : Except ε (Option α) :=
  if reader.isAbsent value then .ok none else (read value).map some

def takeEngine (mode : String) : String → Value → Except ε String
  | "mode", value => reader.text value
  | _, _ => .ok mode

def engine (value : Value) : Except ε String :=
  reader.record ["mode"] reader.takeEngine Settings.standardMode value

def takeLogging (logging : LogFormat × String) : String → Value → Except ε (LogFormat × String)
  | "format", value => do return (← reader.choice LogFormat.choices value, logging.2)
  | "level", value => do return (logging.1, ← reader.text value)
  | _, _ => .ok logging

def logging (value : Value) : Except ε (LogFormat × String) :=
  reader.record ["format", "level"] reader.takeLogging (.pretty, Settings.standardLevel) value

def takeBinding (entry : BindingEntry) : String → Value → Except ε BindingEntry
  | "pattern", value => do return { entry with pattern := ← reader.optional reader.text value }
  | "value", value => do return { entry with value := ← reader.optional reader.text value }
  | "case_sensitive", value => do
    return { entry with caseSensitive := ← reader.optional reader.truth value }
  | _, _ => .ok entry

/-- A configured binding. No field of it has a standard value. -/
def binding (value : Value) : Except ε BindingEntry := do
  let names := ["pattern", "value", "case_sensitive"]
  let entry ← reader.record names reader.takeBinding ⟨none, none, none⟩ value
  reader.complete names value
  return entry

def bindings (value : Value) : Except ε (List BindingEntry) := do
  (← reader.items value).mapM reader.binding

def takeSettings (settings : Settings) : String → Value → Except ε Settings
  | "engine", value => do return { settings with mode := ← reader.engine value }
  | "logging", value => do
    let (format, level) ← reader.logging value
    return { settings with format, level }
  | "bindings", value => do return { settings with bindings := ← reader.bindings value }
  | _, _ => .ok settings

def settings (value : Value) : Except ε Settings :=
  reader.record ["engine", "logging", "bindings"] reader.takeSettings
    ⟨Settings.standardMode, .pretty, Settings.standardLevel, []⟩ value

end Reader

end Interpolation
