import Interpolation.Environment
import Interpolation.Settings.Value
import Interpolation.Text.Lowercase

/-!
What the settings are read with, as a parameter. `SettingsLibrary.Lawful` is what is relied on of
it, in the words of its documentation.
-/
namespace Interpolation

/-- How records are read from values. -/
structure Reader (ε : Type) where
  /-- The given fields of a record in the order in which they are gone through: of a table those
  under these keys, of an array those in these places. -/
  fields : List String → Value → Except ε (Entries Value)
  /-- An array has to hold all of these fields. In a table they may be missing. -/
  complete : List String → Value → Except ε Unit
  items : Value → Except ε (List Value)
  /-- Whether an optional value is none. -/
  isAbsent : Value → Bool
  text : Value → Except ε String
  truth : Value → Except ε Bool
  /-- The choice that a value names. -/
  choice : {α : Type} → List (String × α) → Value → Except ε α

/-- The libraries behind the settings. -/
structure SettingsLibrary (Files : Type) where
  Error : Type
  describe : Error → String
  /-- The environment after the file of variables, none where setting one breaks off. Faults of that
  file are passed over. -/
  loadVariables : Files → Environment → Option Environment
  /-- The entries of the configuration of a name, in whichever format there is a file of it. Without
  a file there are none. -/
  file : Files → String → Except (Abort Error) (Entries Value)
  /-- The entries of a TOML document. -/
  document : String → Except (Abort Error) (Entries Value)
  /-- The environment as a source. -/
  ofEnvironment : Environment → Except (Abort Error) (Entries Value)
  /-- The value that sources come to over defaults. -/
  build : Entries Value → List (Entries Value) → Except Error Value
  /-- The steps that a key of a source stands for. -/
  path : String → List Step
  /-- A value with another one set where steps lead. -/
  set : List Step → Value → Value → Value
  /-- The value that the text of a variable stands for. -/
  ofVariable : String → Value
  reader : Reader Error

/-- The key that a variable sets: its name in lowercase with points for underscores. -/
def keyOfVariable (name : String) : String :=
  String.ofList ((lowercaseString name).toList.map fun c => if c = '_' then '.' else c)

/-- Names that stand for themselves in paths and in any casing. -/
def IsPlain (name : String) : Prop :=
  name ≠ "" ∧ ∀ c ∈ name.toList, 'a' ≤ c ∧ c ≤ 'z'

instance : DecidablePred IsPlain := fun name =>
  decidable_of_iff (name ≠ "" ∧ name.toList.all (fun c => 'a' ≤ c && c ≤ 'z') = true)
    (by simp [IsPlain])

namespace SettingsLibrary

variable {Files : Type} (lib : SettingsLibrary Files)

/-- Entries of one table set in another, their keys being names. -/
def setAll (entries : Entries Value) (base : Value) : Value :=
  entries.foldl (fun base (key, value) => lib.set [.key key] value base) base

/-- Entries of a source set in a value, their keys being paths. -/
def setSource (source : Entries Value) (base : Value) : Value :=
  source.foldl (fun base (key, value) => lib.set (lib.path key) value base) base

/-- A value set where `held` was comes to `after`: a table is merged in entry by entry, and anything
else replaces what was there. -/
inductive Laid : Value → Option Value → Value → Prop
  | replaced {value : Value} {held : Option Value} (h : ¬ value.IsTable) : Laid value held value
  | merged {entries order : Entries Value} {held : Option Value} (h : order.Perm entries) :
      Laid (.table entries) held (lib.setAll order (held.getD (.table [])))

/-- Sources laid over a value one after the other come to `root`. -/
inductive Stacked : List (Entries Value) → Value → Value → Prop
  | nil {base : Value} : Stacked [] base base
  | cons {source order : Entries Value} {sources : List (Entries Value)} {base root : Value}
      (h : order.Perm source) (hrest : Stacked sources (lib.setSource order base) root) :
      Stacked (source :: sources) base root

/-- How values are set and sources laid over one another. -/
structure LayerLaws : Prop where
  /-- A value is set under its key in lowercase. -/
  set_key (key : String) (value base : Value) :
    (lib.set [.key key] value base).IsTable ∧
    ∃ after, lib.Laid value (base.get? (lowercaseString key)) after ∧
      ∀ name, (lib.set [.key key] value base).get? name =
        if name = lowercaseString key then some after else base.get? name
  /-- Names one after the other lead through tables within tables. -/
  set_names (name : String) {steps : List Step} (value base : Value)
    (h : ∀ step ∈ steps, step.isName = true) :
    lib.set (.key name :: steps) value base = lib.set [.key name] (.nest steps value) base
  /-- Of a table only what the first step names changes. -/
  set_elsewhere (key : String) (steps : List Step) (value : Value) {base : Value}
    (hbase : base.IsTable) :
    (lib.set (.key key :: steps) value base).IsTable ∧
    ∀ name, name ≠ lowercaseString key →
      (lib.set (.key key :: steps) value base).get? name = base.get? name
  /-- The defaults lie at the bottom, and over them the sources as they were added. -/
  build_stacked {defaults : Entries Value} {sources : List (Entries Value)} {root : Value}
    (h : lib.build defaults sources = .ok root) : lib.Stacked (defaults :: sources) (.table []) root

/-- How keys are read as paths. -/
structure PathLaws : Prop where
  /-- A key leads first to a name that it begins with, in whichever casing. -/
  path_head (key : String) :
    ∃ name steps front, lib.path key = .key name :: steps ∧ front <+: key.toList ∧
      lowercaseString name = lowercaseString (String.ofList front)
  /-- A point stands between the names of a path. -/
  path_dotted {first second : String} (hfirst : IsPlain first) (hsecond : IsPlain second) :
    lib.path (first ++ "." ++ second) = [.key first, .key second]

/-- What the environment sets. -/
structure VariableLaws : Prop where
  /-- Each entry is set by a variable. -/
  of_mem_environment {environment : Environment} {source : Entries Value}
    (h : lib.ofEnvironment environment = .ok source) {entry : String × Value}
    (hentry : entry ∈ source) :
    ∃ name value, environment.var? name = some value ∧
      entry = (keyOfVariable name, lib.ofVariable value)
  /-- Each variable sets its key. -/
  mem_environment {environment : Environment} {source : Entries Value}
    (h : lib.ofEnvironment environment = .ok source) {name value : String}
    (hvar : environment.var? name = some value) : keyOfVariable name ∈ source.map Prod.fst
  nodup_environment {environment : Environment} {source : Entries Value}
    (h : lib.ofEnvironment environment = .ok source) : (source.map Prod.fst).Nodup
  /-- The text of a variable stands for a scalar. -/
  ofVariable_not_isTable (text : String) : ¬ (lib.ofVariable text).IsTable

/-- How records are read from tables. -/
structure ReaderLaws : Prop where
  fields_table {names : List String} {entries record : Entries Value} (hnames : names.Nodup)
    (h : lib.reader.fields names (.table entries) = .ok record) :
    (record.map Prod.fst).Nodup ∧ ∀ name ∈ names, record.lookup name = entries.lookup name
  items_eq {value : Value} {items : List Value} (h : lib.reader.items value = .ok items) :
    value = .array items
  text_table (entries : Entries Value) (s : String) : lib.reader.text (.table entries) ≠ .ok s
  /-- A table names a choice by its only key. -/
  choice_table {α : Type} {choices : List (String × α)} {entries : Entries Value} {x : α} :
    lib.reader.choice choices (.table entries) = .ok x ↔
      ∃ key value, entries = [(key, value)] ∧ lib.reader.choice choices (.string key) = .ok x
  /-- The casing of a choice does not matter. -/
  choice_casing {α : Type} (choices : List (String × α)) {s s' : String}
    (h : lowercaseString s = lowercaseString s') (x : α) :
    lib.reader.choice choices (.string s) = .ok x ↔ lib.reader.choice choices (.string s') = .ok x

structure Lawful : Prop extends LayerLaws lib, PathLaws lib, VariableLaws lib, ReaderLaws lib

end SettingsLibrary

end Interpolation
