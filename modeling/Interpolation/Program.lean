import Interpolation.Logging
import Interpolation.Render
import Interpolation.Settings.Load

/-!
The program: settings, log filter, bindings, input, and the first of these to fail is reported.
-/
namespace Interpolation

structure Libraries where
  Files : Type
  settings : SettingsLibrary Files
  filters : FilterLibrary

structure Invocation (libs : Libraries) where
  files : libs.Files
  environment : Environment
  input : ByteArray

inductive Failure (libs : Libraries)
  | settings (e : libs.settings.Error)
  | logging (e : LoggingError)
  | binding (e : BindingError)
  | input

def Failure.message {libs : Libraries} : Failure libs → String
  | settings e => libs.settings.describe e
  | logging e => e.message
  | binding e => e.message
  | input => "I/O error: stream did not contain valid UTF-8"

/-- What a run leaves behind: its exit code, what it printed, and the failure that it reports. -/
structure Outcome (libs : Libraries) where
  code : UInt8
  stdout : Text
  failure : Option (Failure libs)

namespace Invocation

variable {libs : Libraries} (invocation : Invocation libs)

/-- The settings of the run, and the environment in which it goes on. -/
def loaded : Except (Abort libs.settings.Error) (Settings × Environment) :=
  Settings.load libs.settings invocation.files invocation.environment

/-- The output of the run, or why there is none. It breaks off with a call that does, and where
rendering would leave the memory. -/
def run : Except (Abort (Failure libs)) Text := do
  let (settings, environment) ← invocation.loaded.mapError (.map .settings)
  (startLogging libs.filters environment settings.format settings.level).mapError (.map .logging)
  let store ← settings.store.mapError fun e => .error (.binding e)
  match String.fromUTF8? invocation.input with
  | none => throw (.error .input)
  | some template =>
    match evaluate? (some template.toList) (some store) (some settings.mode) with
    | none => throw .panic
    | some output => return output.getD []

/-- The outcome of the run. Nothing is printed unless all stages succeed. -/
def outcome : Outcome libs :=
  match invocation.run with
  | .ok output => ⟨0, output, none⟩
  | .error (.error failure) => ⟨1, [], some failure⟩
  | .error .panic => ⟨101, [], none⟩

end Invocation

end Interpolation
