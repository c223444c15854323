import Interpolation.Backend.Entries
import Interpolation.Backend.Json.Number

/-!
JSON documents as configuration values. Of two members with one name the later counts.
-/
namespace Interpolation.Json

def isSpace (c : Char) : Bool :=
  c = ' ' || c = '\t' || c = '\n' || c = '\r'

def skipSpace (text : Text) : Text :=
  text.dropWhile isSpace

/-- The number that four hexadecimal digits stand for. -/
def unit? (digits : List Char) : Option Nat :=
  if digits.all fun c => (digitValue? c).isSome then some (natOfDigits 16 digits) else none

def charOfUnit? (unit : Nat) : Option Char :=
  if 0xD800 ≤ unit && unit < 0xE000 then none else some (Char.ofNat unit)

def charOfPair? (high low : Nat) : Option Char :=
  if 0xD800 ≤ high && high < 0xDC00 && 0xDC00 ≤ low && low < 0xE000 then
    some (Char.ofNat (0x10000 + (high - 0xD800) * 0x400 + (low - 0xDC00)))
  else none

def escaped? : Char → Option Char
  | '"' => some '"'
  | '\\' => some '\\'
  | '/' => some '/'
  | 'b' => some '\x08'
  | 'f' => some '\x0c'
  | 'n' => some '\n'
  | 'r' => some '\r'
  | 't' => some '\t'
  | _ => none

def string? : Text → Option (Text × Text)
  | '"' :: rest => some ([], rest)
  | '\\' :: 'u' :: a :: b :: c :: d :: rest => do
    let unit ← unit? [a, b, c, d]
    match charOfUnit? unit with
    | some char =>
      let (chars, rest) ← string? rest
      return (char :: chars, rest)
    | none =>
      match rest with
      | '\\' :: 'u' :: a :: b :: c :: d :: rest => do
        let char ← charOfPair? unit (← unit? [a, b, c, d])
        let (chars, rest) ← string? rest
        return (char :: chars, rest)
      | _ => none
  | '\\' :: c :: rest => do
    let char ← escaped? c
    let (chars, rest) ← string? rest
    return (char :: chars, rest)
  | c :: rest => do
    if c < ' ' || c = '\\' then none
    else
      let (chars, rest) ← string? rest
      return (c :: chars, rest)
  | [] => none

def name? (text : Text) : Option (String × Text) := do
  match skipSpace text with
  | '"' :: rest =>
    let (name, rest) ← string? rest
    match skipSpace rest with
    | ':' :: rest => return (String.ofList name, rest)
    | _ => none
  | _ => none

/-- Reads the items of an array that has some, at most `fuel` of them, and its closing bracket. -/
def items? (value? : Text → Option (Value × Text)) : Nat → Text → Option (List Value × Text)
  | 0, _ => none
  | fuel + 1, text => do
    let (item, rest) ← value? text
    match skipSpace rest with
    | ',' :: rest =>
      let (items, rest) ← items? value? fuel rest
      return (item :: items, rest)
    | ']' :: rest => return ([item], rest)
    | _ => none

/-- Reads the members of an object that has some, at most `fuel` of them, after those already read,
and its closing brace. -/
def members? (value? : Text → Option (Value × Text)) (read : Entries Value) :
    Nat → Text → Option (Entries Value × Text)
  | 0, _ => none
  | fuel + 1, text => do
    let (name, rest) ← name? text
    let (value, rest) ← value? rest
    let read := Entries.put name value read
    match skipSpace rest with
    | ',' :: rest => members? value? read fuel rest
    | '}' :: rest => return (read, rest)
    | _ => none

/-- Reads a value in which arrays and objects nest at most `depth` deep. -/
def value? (depth : Nat) (text : Text) : Option (Value × Text) :=
  match skipSpace text with
  | '"' :: rest => (string? rest).map fun (chars, rest) => (.string (String.ofList chars), rest)
  | '[' :: rest =>
    match depth, skipSpace rest with
    | 0, _ => none
    | _, ']' :: rest => some (.array [], rest)
    | depth + 1, rest =>
      (items? (value? depth) rest.length rest).map fun (items, rest) => (.array items, rest)
  | '{' :: rest =>
    match depth, skipSpace rest with
    | 0, _ => none
    | _, '}' :: rest => some (.table [], rest)
    | depth + 1, rest =>
      (members? (value? depth) [] rest.length rest).map fun (entries, rest) =>
        (.table entries, rest)
  | 'n' :: 'u' :: 'l' :: 'l' :: rest => some (.null, rest)
  | 't' :: 'r' :: 'u' :: 'e' :: rest => some (.boolean true, rest)
  | 'f' :: 'a' :: 'l' :: 's' :: 'e' :: rest => some (.boolean false, rest)
  | text => number? text

def maxDepth : Nat := 127

def document? (text : Text) : Option (Entries Value) := do
  match ← value? maxDepth text with
  | (.table entries, rest) => if skipSpace rest = [] then some entries else none
  | _ => none

end Interpolation.Json
