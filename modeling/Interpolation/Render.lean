import Interpolation.Span.Scan
import Interpolation.Span.Order
import Interpolation.Binding.Store
import Interpolation.Resolution.Run
import Interpolation.Mode

/-!
Resolving a template against a store of bindings. Results are undefined only where an edit is.
-/
namespace Interpolation

/-- Resolves all placeholders of `template`, in resolution order. -/
def resolve? (template : Text) (bindings : List Binding) (policy : Policy) : Option Resolution :=
  substitute? template (order (scan template)) bindings policy

/-- The result of keeping unmatched placeholders, or that of deleting them where it replaces
strictly more. -/
def Resolution.best (keep delete : Resolution) : Resolution :=
  if keep.replaced < delete.replaced then delete else keep

def Store.render? (store : Store) (template : Text) : Mode → Option Resolution
  | .keepUnmatched => resolve? template store.bindings .keep
  | .deleteUnmatched => resolve? template store.bindings .delete
  | .optimization => do
    let keep ← resolve? template store.bindings .keep
    let delete ← resolve? template store.bindings .delete
    return .best keep delete

/-- Resolves a template where each part may be absent. Nothing comes of no template, and a template
that is empty or has no store to go by stays as it is. -/
def evaluate? (template : Option Text) (store : Option Store) (mode : Option String) :
    Option (Option Text) :=
  match template, store with
  | none, _ => some none
  | some template, none => some (some template)
  | some template, some store =>
    if template = [] then some (some template)
    else (store.render? template (.ofName mode)).map fun resolution => some resolution.output

end Interpolation
