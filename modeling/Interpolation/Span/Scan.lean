import Interpolation.Span.Basic

/-!
Finding the placeholders of a text in one pass. Braces without a partner are ordinary characters.
-/
namespace Interpolation

/-- Scans what is left of `text` from byte offset `offset` on. `armed` tells that a `$` stands right
before it, `pending` holds the offsets of the opening braces still unclosed, innermost first. -/
def scanFrom (text : Text) (offset : Nat) (armed : Bool) (pending : List Nat) : Text → List Span
  | [] => []
  | '$' :: rest => scanFrom text (offset + 1) true pending rest
  | '{' :: rest =>
    scanFrom text (offset + 1) false (if armed then offset :: pending else pending) rest
  | '}' :: rest =>
    match pending with
    | [] => scanFrom text (offset + 1) false [] rest
    | start :: pending =>
      ⟨start, offset, (text.slice? (start + 1) offset).getD []⟩ ::
        scanFrom text (offset + 1) false pending rest
  | c :: rest => scanFrom text (offset + c.utf8Size) false pending rest

def scan (text : Text) : List Span :=
  scanFrom text 0 false [] text

end Interpolation
