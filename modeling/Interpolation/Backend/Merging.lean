import Interpolation.Backend.Entries
import Interpolation.Number.Word
import Interpolation.Text.Alphanumeric
import Interpolation.Text.Lowercase

/-!
The setting of values under paths such as `engine.mode` or `bindings[0]`.
-/
namespace Interpolation

namespace Step

def isNameChar (c : Char) : Bool :=
  isAsciiAlphanumeric c || c = '_' || c = '-' || c = ' '

def isPadding (c : Char) : Bool :=
  c = ' ' || c = '\t'

/-- Reads the digits of a position and its closing bracket. -/
def position? (text : Text) : Option (Int × Text) :=
  let text := text.dropWhile isPadding
  let (negative, text) := match text with
    | '-' :: rest => (true, rest)
    | _ => (false, text)
  let digits := text.takeWhile isDigit
  let magnitude : Int := natOfDigits 10 digits
  let index := if negative then -magnitude else magnitude
  match (text.drop digits.length).dropWhile isPadding with
  | ']' :: rest => if digits ≠ [] && Word.fitsSigned index then some (index, rest) else none
  | _ => none

def name? (text : Text) : Option (String × Text) :=
  let name := text.takeWhile isNameChar
  if name = [] then none else some (lowercaseString (String.ofList name), text.drop name.length)

/-- Reads the steps after the first, at most `fuel` of them. -/
def readRest? : Nat → Text → Option (List Step)
  | _, [] => some []
  | fuel + 1, '.' :: rest => do
    let (name, rest) ← name? rest
    return .key name :: (← readRest? fuel rest)
  | fuel + 1, '[' :: rest => do
    let (index, rest) ← position? rest
    return .position index :: (← readRest? fuel rest)
  | _, _ => none

def read? (text : Text) : Option (List Step) := do
  let (name, rest) ← name? text
  return .key name :: (← readRest? text.length rest)

def ofKey (key : String) : List Step :=
  (read? key.toList).getD [.key key]

end Step

namespace Value

def items : Value → List Value
  | array items => items
  | _ => []

mutual

/-- Lays a value under a key of a table, which it turns `base` into where `base` is none. Keys are
taken in lowercase. A table is laid over what the key holds, entry by entry. -/
def lay (key : String) : Value → Value → Value
  | .table incoming, base =>
    let held := (base.entries.lookup (lowercaseString key)).getD (.table [])
    .table (Entries.put (lowercaseString key) (layAll incoming held) base.entries)
  | value, base => .table (Entries.put (lowercaseString key) value base.entries)

/-- Lays entries over a value one after the other. Without any the value stays as it is. -/
def layAll : List (String × Value) → Value → Value
  | [], base => base
  | (key, value) :: rest, base => layAll rest (lay key value base)

end

/-- The items of an array with `value` at `index`, after nulls where it was shorter. -/
def setItem (index : Nat) (value : Value) (items : List Value) : List Value :=
  let padded := items ++ List.replicate (index + 1 - items.length) .null
  padded.set index value

/-- Lays a value where a path leads. What stands in the way of a step is replaced by an empty table
or array. A position before the start of an array leads nowhere. -/
def layAt (value : Value) : List Step → Value → Value
  | [], base => base
  | [.key name], base => lay name value base
  | .key name :: steps, base =>
    let held := (base.entries.lookup (lowercaseString name)).getD .null
    .table (Entries.put (lowercaseString name) (layAt value steps held) base.entries)
  | .position index :: steps, base =>
    let index := if index < 0 then index + base.items.length else index
    if index < 0 then base
    else
      let held := (base.items[index.toNat]?).getD .null
      let new := if steps = [] then value else layAt value steps held
      .array (setItem index.toNat new base.items)

def laySource (source : Entries Value) (base : Value) : Value :=
  source.foldl (fun base (key, value) => layAt value (Step.ofKey key) base) base

end Value

end Interpolation
