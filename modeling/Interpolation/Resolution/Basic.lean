import Interpolation.Span.Basic
import Interpolation.Binding.Basic
import Interpolation.Number.Word

/-!
The edits that resolving a text is made of. They are undefined (`none`) where a span does not
describe the text.
-/
namespace Interpolation

/-- What becomes of a placeholder that no binding accepts. -/
inductive Policy
  | keep
  | delete
  deriving DecidableEq, Repr

/-- A resolved text and how many of its placeholders took the value of a binding. -/
structure Resolution where
  output : Text
  replaced : Nat
  deriving DecidableEq, Repr

def replacement? (bindings : List Binding) (policy : Policy) (content : Text) : Option Text :=
  match firstAccepting bindings content, policy with
  | some binding, _ => some binding.value
  | none, .delete => some []
  | none, .keep => none

/-- How many replacements by a binding's value a placeholder with this content adds. -/
def hits (bindings : List Binding) (content : Text) : Nat :=
  if (firstAccepting bindings content).isSome then 1 else 0

namespace Span

/-- `buffer` with `value` in the place of the placeholder, from its dollar sign to its closing
brace. -/
def splice? (span : Span) (value buffer : Text) : Option Text :=
  if span.start = 0 then none
  else do
    let (head, _) ← buffer.splitAt? (span.start - 1)
    let (_, tail) ← buffer.splitAt? (span.stop + 1)
    return head ++ value ++ tail

/-- The offset after `inserted` bytes came and then `removed` bytes went before it. Offsets are
unsigned words, and neither step may leave their range. -/
def shift? (inserted removed offset : Nat) : Option Nat :=
  if offset + inserted < Word.count ∧ removed ≤ offset + inserted then
    some (offset + inserted - removed)
  else none

/-- A waiting span after `resolved` became `inserted` bytes, in the buffer that came of it. An
enclosing span gets a new end and reads its content again, one that starts later moves as a whole,
and all others stay. -/
def rebase? (resolved : Span) (inserted : Nat) (buffer : Text) (waiting : Span) : Option Span :=
  let shift := shift? inserted resolved.placeholderLength
  if waiting.Encloses resolved then do
    let stop ← shift waiting.stop
    let content ← buffer.slice? (waiting.start + 1) stop
    return ⟨waiting.start, stop, content⟩
  else if resolved.stop < waiting.start then do
    let start ← shift waiting.start
    let stop ← shift waiting.stop
    return ⟨start, stop, waiting.content⟩
  else some waiting

end Span

end Interpolation
