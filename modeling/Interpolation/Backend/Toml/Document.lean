import Interpolation.Backend.Toml.Quoted
import Interpolation.Backend.Toml.Number
import Interpolation.Backend.Toml.Moment
import Interpolation.Backend.Toml.Tree

/-!
TOML documents as configuration values. Arrays and inline tables nest to a limited depth.
-/
namespace Interpolation.Toml

/-- Reads the items of an array, at most `fuel` of them, and its closing bracket. A comma may follow
the last item. -/
def items? (item? : Text → Option (Item × Text)) : Nat → Text → Option (List Item × Text)
  | 0, _ => none
  | fuel + 1, text =>
    match skipLines false text with
    | ']' :: rest => some ([], rest)
    | text => do
      let (item, rest) ← item? text
      match skipLines false rest with
      | ',' :: rest =>
        let (items, rest) ← items? item? fuel rest
        return (item :: items, rest)
      | ']' :: rest => return ([item], rest)
      | _ => none

def pair? (item? : Text → Option (Item × Text)) (change : List String → String → Item →
    Option Items) (text : Text) : Option (Items × Text) := do
  let ((path, key), rest) ← key? maxKeyParts text
  match rest with
  | '=' :: rest =>
    let (item, rest) ← item? (skipSpace rest)
    return (← change path key item, rest)
  | _ => none

/-- Reads the pairs of an inline table that has some, at most `fuel` of them, after those already
read, and its closing brace. -/
def pairs? (item? : Text → Option (Item × Text)) (read : Items) :
    Nat → Text → Option (Items × Text)
  | 0, _ => none
  | fuel + 1, text => do
    let (read, rest) ← pair? item? (fun path key item => Items.add? key item path read) text
    match skipSpace rest with
    | ',' :: rest => pairs? item? read fuel rest
    | '}' :: rest => return (read, rest)
    | _ => none

/-- Reads an item in which arrays and inline tables nest at most `depth` deep. -/
def item? (depth : Nat) : Text → Option (Item × Text)
  | '[' :: rest =>
    match depth with
    | 0 => none
    | depth + 1 =>
      (items? (item? depth) (rest.length + 1) rest).map fun (items, rest) => (.array items, rest)
  | '{' :: rest =>
    match depth, skipSpace rest with
    | 0, _ => none
    | _, '}' :: rest => some (.table .closed [], rest)
    | depth + 1, _ =>
      (pairs? (item? depth) [] (rest.length + 1) rest).map fun (entries, rest) =>
        (.table .closed entries, rest)
  | 't' :: 'r' :: 'u' :: 'e' :: rest => some (.scalar (.boolean true), rest)
  | 'f' :: 'a' :: 'l' :: 's' :: 'e' :: rest => some (.scalar (.boolean false), rest)
  | text =>
    match string? text with
    | some (chars, rest) => some (.scalar (.string (String.ofList chars)), rest)
    | none =>
      match moment? text with
      | some (moment, rest) => some (.moment moment, rest)
      | none => (number? text).map fun (number, rest) => (.scalar number, rest)

def maxDepth : Nat := 79

/-- Reads the statements of a document, at most `fuel` of them. Pairs go to the table of the header
before them, whose path is `current`. -/
def statements? (current : List String) (items : Items) : Nat → Text → Option Items
  | 0, _ => none
  | fuel + 1, text =>
    match skipSpace text with
    | [] => some items
    | '\n' :: rest => statements? current items fuel rest
    | '\r' :: '\n' :: rest => statements? current items fuel rest
    | '#' :: rest => do
      let rest ← lineEnd? ('#' :: rest)
      statements? current items fuel rest
    | '[' :: '[' :: rest => do
      let ((path, key), rest) ← key? maxKeyParts rest
      let rest ← lineEnd? (← Text.skip? [']', ']'] rest)
      let items ← Items.changeAt? (Items.appendTable? key) path items
      statements? (path ++ [key]) items fuel rest
    | '[' :: rest => do
      let ((path, key), rest) ← key? maxKeyParts rest
      let rest ← lineEnd? (← Text.skip? [']'] rest)
      let items ← Items.changeAt? (Items.defineTable? key) path items
      statements? (path ++ [key]) items fuel rest
    | text => do
      let change (path : List String) (key : String) (item : Item) : Option Items :=
        Items.changeAt? (Items.add? key item path) current items
      let (items, rest) ← pair? (item? maxDepth) change text
      statements? current items fuel (← lineEnd? rest)

/-- The entries of the table that a document is. A byte order mark may stand in front. -/
def document? (text : Text) : Option (Entries Value) := do
  let text := Text.dropMark text
  match ← valueOfTable? (← statements? [] [] (text.length + 1) text) with
  | .table entries => some entries
  | _ => none

end Interpolation.Toml
