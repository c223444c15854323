import Interpolation.Backend.Entries
import Interpolation.Number.Reading
import Interpolation.Settings.Library

/-!
The configuration that environment variables stand for: `ENGINE_MODE` sets `engine.mode`.
-/
namespace Interpolation

def Value.ofVariable (text : String) : Value :=
  match lowercaseString text with
  | "true" => .boolean true
  | "false" => .boolean false
  | _ =>
    match Number.integer? text.toList with
    | some n => .integer n
    | none => (Number.float? text.toList).elim (.string text) .float

namespace Environment

/-- The variables as texts, if all of them are Unicode. -/
def texts? (environment : Environment) : Option (List (String × String)) :=
  environment.entries.mapM fun (name, value) => do return (← name.text?, ← value.text?)

/-- The entries that variables set. Of two with one key the later counts. -/
def entriesOf (texts : List (String × String)) : Entries Value :=
  texts.foldl (fun entries (name, value) => entries.put (keyOfVariable name) (.ofVariable value)) []

end Environment

end Interpolation
