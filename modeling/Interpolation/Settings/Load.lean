import Interpolation.Settings.Reading

/-!
The layers of the settings: defaults, common configuration, that of the run, environment.
-/
namespace Interpolation.Settings

/-- The name of the configuration for all runs. -/
def commonName : String := "config/default"

def runModeVariable : String := "RUN_MODE"

def standardRunMode : String := "development"

def runName (environment : Environment) : String :=
  "config/" ++ (environment.var? runModeVariable).getD standardRunMode

def defaults : Entries Value :=
  [("engine.mode", .string standardMode), ("logging.format", .string "pretty"),
    ("logging.level", .string standardLevel)]

variable {Files : Type} (lib : SettingsLibrary Files)

/-- The settings that sources come to over the defaults. -/
def ofSources (sources : List (Entries Value)) : Except (Abort lib.Error) Settings :=
  (lib.build defaults sources >>= lib.reader.settings).mapError .error

/-- The settings of a TOML document. -/
def ofDocument (document : String) : Except (Abort lib.Error) Settings := do
  ofSources lib [← lib.document document]

/-- The settings among files and in an environment to which the file of variables has been added. -/
def ofEnvironment (files : Files) (environment : Environment) :
    Except (Abort lib.Error) Settings := do
  let common ← lib.file files commonName
  let ofRun ← lib.file files (runName environment)
  ofSources lib [common, ofRun, ← lib.ofEnvironment environment]

/-- The settings of a run, and the environment in which it goes on. -/
def load (files : Files) (own : Environment) :
    Except (Abort lib.Error) (Settings × Environment) :=
  match lib.loadVariables files own with
  | none => .error .panic
  | some environment => do return (← ofEnvironment lib files environment, environment)

end Interpolation.Settings
