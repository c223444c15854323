import Interpolation.Backend.Toml.Moment
import Interpolation.Backend.Entries

/-!
Growing a TOML document statement by statement. Each table remembers how it came about, so that
nothing is defined twice.
-/
namespace Interpolation.Toml

/-- How a table came about: as a step on the way to the table of a header, as a step on the way to a
key, by a header of its own, or in braces, which say all there is of it. -/
inductive TableKind
  | implied
  | dotted
  | defined
  | closed
  deriving DecidableEq, Repr

/-- What a key of a growing document holds: a scalar, a date or time, an array, a table, or an array
of tables, of which the last can still grow. -/
inductive Item
  | scalar (v : Value)
  | moment (text : Text)
  | array (items : List Item)
  | table (kind : TableKind) (entries : List (String × Item))
  | tables (elements : List (List (String × Item)))

abbrev Items := Entries Item

namespace Items

/-- Changes the last element of an array of tables. -/
def changeLast? (change? : Items → Option Items) (elements : List Items) : Option (List Items) :=
  match elements.getLast? with
  | none => none
  | some last => (change? last).map fun last => elements.dropLast ++ [last]

/-- Changes the table that a header path leads to. Tables missing on the way come into being, and of
an array of tables the last is meant. -/
def changeAt? (change? : Items → Option Items) : List String → Items → Option Items
  | [], items => change? items
  | key :: path, items =>
    match items.lookup key with
    | none => (changeAt? change? path []).map fun new => .put key (.table .implied new) items
    | some (.scalar _) | some (.moment _) | some (.array _) | some (.table .closed _) => none
    | some (.table kind held) =>
      (changeAt? change? path held).map fun new => .put key (.table kind new) items
    | some (.tables elements) =>
      (changeLast? (changeAt? change? path) elements).map fun new => .put key (.tables new) items

/-- Begins the table of a header. A table that was only implied so far counts as defined here, after
the keys around it. -/
def defineTable? (key : String) (items : Items) : Option Items :=
  match items.lookup key with
  | none => some (.put key (.table .defined []) items)
  | some (.table .implied held) => some (.put key (.table .defined held) (.erase key items))
  | some _ => none

/-- Begins the next table of an array of tables. -/
def appendTable? (key : String) (items : Items) : Option Items :=
  match items.lookup key with
  | none => some (.put key (.tables [[]]) items)
  | some (.tables elements) => some (.put key (.tables (elements ++ [[]])) items)
  | some _ => none

/-- Adds an item under a key of this table or, along a dotted path, of one within it. The path goes
through no table that a header or braces defined, and ends in one that dotted keys made. -/
def add? (key : String) (item : Item) : List String → Items → Option Items
  | [], items => if (items.lookup key).isSome then none else some (.put key item items)
  | step :: path, items =>
    match items.lookup step with
    | none => (add? key item path []).map fun new => .put step (.table .dotted new) items
    | some (.scalar _) | some (.moment _) | some (.array _) => none
    | some (.table kind held) =>
      if kind = .dotted || (kind = .implied && path ≠ []) then
        (add? key item path held).map fun new => .put step (.table kind new) items
      else none
    | some (.tables elements) =>
      if path = [] then none
      else (changeLast? (add? key item path) elements).map fun new => .put step (.tables new) items

end Items

/-! ## Values -/

def momentKey : String := "$__toml_private_datetime"

def Item.toMoment? : Item → Option Value
  | .scalar (.string s) => (momentOfText? s.toList).map fun moment => .string (String.ofList moment)
  | _ => none

mutual

def Item.toValue? : Item → Option Value
  | .scalar v => some v
  | .moment text => some (.string (String.ofList text))
  | .array items => (valuesOfItems? items).map .array
  | .table _ entries => valueOfTable? entries
  | .tables elements => (valuesOfTables? elements).map .array

def valuesOfItems? : List Item → Option (List Value)
  | [] => some []
  | item :: rest => do return (← item.toValue?) :: (← valuesOfItems? rest)

/-- The value of a table. What comes after the key of moments does not count. -/
def valueOfTable? : List (String × Item) → Option Value
  | [] => some (.table [])
  | (key, item) :: rest =>
    if key = momentKey then item.toMoment?
    else do return .table ((key, ← item.toValue?) :: (← valuesOfEntries? rest))

def valuesOfEntries? : List (String × Item) → Option (List (String × Value))
  | [] => some []
  | (key, item) :: rest => do return (key, ← item.toValue?) :: (← valuesOfEntries? rest)

def valuesOfTables? : List (List (String × Item)) → Option (List Value)
  | [] => some []
  | entries :: rest => do return (← valueOfTable? entries) :: (← valuesOfTables? rest)

end

end Interpolation.Toml
