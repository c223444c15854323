import Interpolation.Environment
import Interpolation.Settings.Basic

/-!
The start of logging, with a library for log filters as a parameter.
-/
namespace Interpolation

/-- The library for log filters. Its errors are known by their wording. -/
structure FilterLibrary where
  Filter : Type
  /-- The filter that directives stand for. -/
  parse : String → Except (Abort String) Filter
  /-- The filter of the environment. -/
  ofEnvironment : Environment → Except (Abort String) Filter
  /-- Sets up the one logger of the process. -/
  install : LogFormat → Filter → Except (Abort String) Unit

namespace FilterLibrary

def variableName : String := "RUST_LOG"

structure Lawful (lib : FilterLibrary) : Prop where
  /-- Without its variable the environment has no filter. -/
  ofEnvironment_unset {environment : Environment} (h : environment.var? variableName = none) :
    ∃ e, lib.ofEnvironment environment = .error (.error e)
  /-- The filter of the environment is the one in its variable. Where that is refused, so is this,
  in whichever words. -/
  ofEnvironment_set {environment : Environment} {directives : String}
    (h : environment.var? variableName = some directives) :
    ∃ reword : String → String,
      lib.ofEnvironment environment = (lib.parse directives).mapError (.map reword)
  /-- A process that has no logger yet gets one. -/
  install_eq (format : LogFormat) (filter : lib.Filter) : lib.install format filter = .ok ()

end FilterLibrary

inductive LoggingError
  | invalidFilter (level reason : String)
  | notInstalled (reason : String)
  deriving DecidableEq, Repr

def LoggingError.message : LoggingError → String
  | invalidFilter level reason => "Invalid log filter '" ++ level ++ "': " ++ reason
  | notInstalled reason => "Failed to install tracing subscriber: " ++ reason

variable (lib : FilterLibrary)

/-- The filter of the environment or, where that has none, the configured one. -/
def logFilter (environment : Environment) (level : String) :
    Except (Abort LoggingError) lib.Filter :=
  match lib.ofEnvironment environment with
  | .ok filter => .ok filter
  | .error .panic => .error .panic
  | .error (.error _) => (lib.parse level).mapError (.map (.invalidFilter level))

def startLogging (environment : Environment) (format : LogFormat) (level : String) :
    Except (Abort LoggingError) Unit := do
  let filter ← logFilter lib environment level
  (lib.install format filter).mapError (.map .notInstalled)

end Interpolation
