import Interpolation.Environment
import Interpolation.Number.Reading
import Interpolation.Backend.Regex.Support

/-!
Log filters. A directive is followed without the blank characters around it, but its parts are cut
out of the whole of it at these offsets, so a cut may fall inside a character.
-/
namespace Interpolation.LogFilter

def invalid : Abort String :=
  .error "invalid filter directive"

def levelNames : List Text :=
  ["off", "error", "warn", "info", "debug", "trace"].map String.toList

def maxLevel : Nat := 5

/-- Whether `text` is the name of a level, in any case, or its number. -/
def isLevel (text : Text) : Bool :=
  let digits := (Text.skip? ['+'] text).getD text
  levelNames.contains (text.map Char.toLower) ||
    (digits ≠ [] && digits.all isDigit && natOfDigits 10 digits ≤ maxLevel)

def isInitial (c : Char) : Bool :=
  isAlphanumeric c || c = '_' || c = '-' || c = ':'

/-! ## Directives -/

/-- The part of a directive that is being followed, and the offset at which it began: a word that is
a level or a target, the name of a span, its field, or the level. -/
inductive Part
  | initial
  | word
  | span (start : Nat)
  | field (start : Nat)
  | afterField
  | afterSpan
  | level (start : Nat)
  deriving DecidableEq, Repr

/-- Whether a field is valid. Only what stands between its first equals sign and the second counts
as its value. -/
def isField (field : Text) : Bool :=
  match Text.pieces '=' field with
  | _ :: value :: _ => (Number.float? value).isSome || Regex.isUsable value
  | _ => field ≠ []

def between (directive : Text) (start stop : Nat) : Except (Abort String) Text :=
  (directive.slice? start stop).elim (.error .panic) .ok

/-- The part that goes on behind the character `c` at `offset`. -/
def Part.next (directive : Text) (offset : Nat) (c : Char) : Part → Except (Abort String) Part
  | .initial =>
    if c = '[' then .ok (.span (offset + 1))
    else if isInitial c then .ok .word
    else .error invalid
  | .word =>
    if c = '=' then (between directive 0 offset).map fun _ => .level (offset + 1)
    else if c = '[' then (between directive 0 offset).map fun _ => .span (offset + 1)
    else .ok .word
  | .span start =>
    if c = ']' then (between directive start offset).map fun _ => .afterSpan
    else if c = '{' then (between directive start offset).map fun _ => .field (offset + 1)
    else .ok (.span start)
  | .field start =>
    if c = '}' then do
      let field ← between directive start offset
      if isField field then .ok .afterField else .error invalid
    else .ok (.field start)
  | .afterField => if c = ']' then .ok .afterSpan else .error invalid
  | .afterSpan => if c = '=' then .ok (.level (offset + 1)) else .error invalid
  | .level start => .ok (.level start)

/-- Follows what is left of a directive from `offset` on, and gives the part in which it ends. -/
def follow (directive : Text) (offset : Nat) (part : Part) : Text → Except (Abort String) Part
  | [] => .ok part
  | c :: rest => do follow directive (offset + c.utf8Size) (← part.next directive offset c) rest

/-- Checks a directive. A word on its own is valid whether it names a level or not, but after an
equals sign a known level or nothing follows. -/
def checkDirective (directive : Text) : Except (Abort String) Unit := do
  match ← follow directive 0 .initial (Text.dropBlanks (Text.dropTrailingBlanks directive)) with
  | .word | .afterSpan => .ok ()
  | .level start =>
    let level ← between directive start directive.byteLength
    if level = [] || isLevel level then .ok () else .error invalid
  | _ => .error invalid

/-! ## Filters -/

def check (filter : String) : Except (Abort String) Unit :=
  ((Text.pieces ',' filter.toList).filter (· ≠ [])).forM checkDirective

end Interpolation.LogFilter
