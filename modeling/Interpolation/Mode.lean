/-!
The matching modes and their names.
-/
namespace Interpolation

/-- How placeholders that no binding accepts are treated: they stay, they go, or whichever of the
two lets more bindings match. -/
inductive Mode
  | keepUnmatched
  | deleteUnmatched
  | optimization
  deriving DecidableEq, Repr

namespace Mode

def standard : Mode := .deleteUnmatched

def name : Mode → String
  | .keepUnmatched => "keep-unmatched"
  | .deleteUnmatched => "delete-unmatched"
  | .optimization => "optimization"

/-- The mode of that name, to the letter; the standard mode for every other name and for none. -/
def ofName : Option String → Mode
  | some "keep-unmatched" => .keepUnmatched
  | some "optimization" => .optimization
  | _ => standard

end Mode

end Interpolation
