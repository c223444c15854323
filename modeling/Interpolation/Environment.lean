/-!
What surrounds a run: the variables of its environment, and calls that fail or break off.
-/
namespace Interpolation

/-- Text as the operating system gives it: Unicode, or bytes that stand for none. -/
inductive RawText
  | unicode (text : String)
  | other (bytes : ByteArray) (h : ¬ bytes.IsValidUTF8)

instance : DecidableEq RawText
  | .unicode text, .unicode text' => decidable_of_iff (text = text') (by simp)
  | .unicode _, .other .. => isFalse (by simp)
  | .other .., .unicode _ => isFalse (by simp)
  | .other bytes _, .other bytes' _ =>
    decidable_of_iff (bytes.data = bytes'.data) (by simp [ByteArray.ext_iff])

def RawText.text? : RawText → Option String
  | unicode text => some text
  | other .. => none

/-- The variables of an environment with their values, each variable once. -/
structure Environment where
  entries : List (RawText × RawText) := []
  nodup : (entries.map Prod.fst).Nodup := by decide
  deriving DecidableEq

namespace Environment

/-- The value of a variable, where both are Unicode. -/
def var? (environment : Environment) (name : String) : Option String :=
  (environment.entries.lookup (.unicode name)).bind RawText.text?

def names (environment : Environment) : List String :=
  environment.entries.filterMap fun (name, _) => name.text?

theorem mem_names_of_var? {environment : Environment} {name value : String}
    (h : environment.var? name = some value) : name ∈ environment.names := by
  obtain ⟨raw, hraw, -⟩ := Option.bind_eq_some_iff.1 h
  obtain ⟨front, back, hsplit, -⟩ := List.lookup_eq_some_iff.1 hraw
  rw [names, List.mem_filterMap]
  exact ⟨(.unicode name, raw), by rw [hsplit]; simp, rfl⟩

/-- Gives a variable a value, in the place of any that it had. -/
def set (environment : Environment) (name value : RawText) : Environment where
  entries := environment.entries.filter (·.1 ≠ name) ++ [(name, value)]
  nodup := by
    rw [List.map_append, List.nodup_append]
    refine ⟨environment.nodup.sublist (List.filter_sublist.map _), by simp, ?_⟩
    intro key hkey other hother
    obtain rfl := List.mem_singleton.1 hother
    obtain ⟨entry, hentry, rfl⟩ := List.mem_map.1 hkey
    simpa using (List.mem_filter.1 hentry).2

/-- The environment of a list. Of two values for one variable the first counts. -/
def ofList (entries : List (RawText × RawText)) : Environment :=
  entries.foldl (fun environment (name, value) =>
    if (environment.entries.lookup name).isSome then environment
    else environment.set name value) {}

end Environment

/-- How a call ends that gives no result: with an error, or by breaking off the run. -/
inductive Abort (ε : Type)
  | error (e : ε)
  | panic
  deriving DecidableEq, Repr

namespace Abort

variable {ε ε' : Type}

def map (f : ε → ε') : Abort ε → Abort ε'
  | error e => error (f e)
  | panic => panic

end Abort

end Interpolation
