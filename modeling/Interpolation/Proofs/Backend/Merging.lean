import Interpolation.Backend.Libraries
import Interpolation.Proofs.Text.Lowercase
import Mathlib.Data.Char

/-!
The runnable settings library sets values as it has to, and reads keys as paths.
-/
namespace Interpolation

namespace Value

variable {name : String}

/-- What a key comes to hold when a value is laid under it, by what it held before. -/
def laidOver : Value → Option Value → Value
  | .table entries, held => layAll entries (held.getD (.table []))
  | value, _ => value

private theorem lay_eq (key : String) (value base : Value) :
    lay key value base = .table (Entries.put (lowercaseString key)
      (value.laidOver (base.get? (lowercaseString key))) base.entries) := by
  cases value with
  | table entries => rw [lay]; rfl
  | _ =>
    rw [lay]
    · rfl
    · intro entries heq
      cases heq

theorem get?_lay (key name : String) (value base : Value) :
    (lay key value base).get? name =
      if name = lowercaseString key then some (value.laidOver (base.get? (lowercaseString key)))
      else base.get? name := by
  rw [lay_eq]
  exact Entries.lookup_put _ _ _ _

/-- Laying a value where names lead is laying nested tables. -/
theorem layAt_eq_lay (value base : Value) (name : String) {steps : List Step}
    (h : ∀ step ∈ steps, step.isName = true) :
    layAt value (.key name :: steps) base = lay name (nest steps value) base := by
  induction steps generalizing name base with
  | nil => rfl
  | cons step steps ih =>
    obtain ⟨hstep, hsteps⟩ := List.forall_mem_cons.1 h
    obtain ⟨next, rfl⟩ : ∃ next, step = .key next := by
      cases step with
      | key next => exact ⟨next, rfl⟩
      | position index => exact absurd hstep Bool.false_ne_true
    -- Where nothing is held, a path goes on from null and a table from an empty one.
    have hheld : ∀ held : Option Value, lay next (nest steps value) (held.getD .null) =
        lay next (nest steps value) (held.getD (.table [])) := by
      intro held
      cases held with
      | none => rw [lay_eq, lay_eq]; rfl
      | some held => rfl
    rw [layAt, ih _ _ hsteps, hheld, lay_eq name, nest, laidOver, layAll, layAll]
    · rfl
    · exact List.cons_ne_nil _ _

private theorem layAt_cons_eq (value base : Value) (key : String) (steps : List Step) :
    ∃ new, layAt value (.key key :: steps) base =
      .table (Entries.put (lowercaseString key) new base.entries) := by
  cases steps with
  | nil => exact ⟨_, by rw [layAt, lay_eq]⟩
  | cons step steps => exact ⟨_, by rw [layAt]; exact List.cons_ne_nil _ _⟩

end Value

namespace Backend

open Value SettingsLibrary

private theorem layAll_eq_setAll (entries : Entries Value) (base : Value) :
    layAll entries base = settingsLibrary.setAll entries base := by
  induction entries generalizing base with
  | nil => rw [layAll]; rfl
  | cons entry entries ih =>
    obtain ⟨key, value⟩ := entry
    rw [layAll, ih]
    rfl

private theorem laid_laidOver (value : Value) (held : Option Value) :
    settingsLibrary.Laid value held (value.laidOver held) := by
  cases value with
  | table entries =>
    rw [laidOver, layAll_eq_setAll]
    exact .merged (.refl entries)
  | _ =>
    apply Laid.replaced
    rintro ⟨entries, htable⟩
    cases htable

private theorem stacked_foldl (sources : List (Entries Value)) (base : Value) :
    settingsLibrary.Stacked sources base
      (sources.foldl (fun base source => laySource source base) base) := by
  induction sources generalizing base with
  | nil => exact .nil
  | cons source sources ih => exact .cons (.refl source) (ih _)

theorem layerLaws : settingsLibrary.LayerLaws where
  set_key key value base :=
    ⟨⟨_, lay_eq key value base⟩, _, laid_laidOver value _, fun name => get?_lay key name value base⟩
  set_names name _ value base h := layAt_eq_lay value base name h
  set_elsewhere key steps value base _ := by
    obtain ⟨new, hnew⟩ := layAt_cons_eq value base key steps
    refine ⟨⟨_, hnew⟩, fun name hname => ?_⟩
    change (layAt value (.key key :: steps) base).get? name = base.get? name
    rw [hnew]
    exact (Entries.lookup_put _ _ _ _).trans (if_neg hname)
  build_stacked h := by
    cases h
    exact stacked_foldl _ _

/-! ## Paths -/

private theorem exists_ofKey_eq (key : String) :
    ∃ name steps front, Step.ofKey key = .key name :: steps ∧ front <+: key.toList ∧
      lowercaseString name = lowercaseString (String.ofList front) := by
  unfold Step.ofKey
  cases hread : Step.read? key.toList with
  | none => exact ⟨key, [], key.toList, rfl, List.prefix_rfl, by rw [String.ofList_toList]⟩
  | some steps =>
    rw [Step.read?] at hread
    obtain ⟨⟨name, rest⟩, hname, hread⟩ := Option.bind_eq_some_iff.1 hread
    obtain ⟨steps', -, hread⟩ := Option.bind_eq_some_iff.1 hread
    cases hread
    unfold Step.name? at hname
    dsimp only at hname
    split at hname
    · cases hname
    · obtain ⟨rfl, -⟩ := Prod.mk.inj (Option.some.inj hname)
      exact ⟨_, steps', _, rfl, List.takeWhile_prefix Step.isNameChar,
        lowercaseString_lowercaseString _⟩

private theorem letter_cases {c : Char} (h : 'a' ≤ c ∧ c ≤ 'z') :
    Step.isNameChar c = true ∧ lowercaseChar c = [c] := by
  have hletters : ∀ n < 26, Step.isNameChar (Char.ofNat (97 + n)) = true ∧
      lowercaseChar (Char.ofNat (97 + n)) = [Char.ofNat (97 + n)] := by
    decide +kernel
  have hlow : 97 ≤ c.toNat := h.1
  have hhigh : c.toNat ≤ 122 := h.2
  have hc := hletters (c.toNat - 97) (by omega)
  rw [Nat.add_sub_cancel' hlow, Char.ofNat_toNat] at hc
  exact hc

/-- A plain name is read up to a character that belongs to no name. -/
private theorem name?_append {name : String} (h : IsPlain name) {rest : Text}
    (hrest : rest.takeWhile Step.isNameChar = []) :
    Step.name? (name.toList ++ rest) = some (name, rest) := by
  have htake : (name.toList ++ rest).takeWhile Step.isNameChar = name.toList := by
    rw [List.takeWhile_append_of_pos fun c hc => (letter_cases (h.2 c hc)).1, hrest,
      List.append_nil]
  have hlower : lowercaseString name = name :=
    lowercaseString_eq_self fun c hc => (letter_cases (h.2 c hc)).2
  have hne : name.toList ≠ [] := by simpa using h.1
  rw [Step.name?, htake, if_neg hne, String.ofList_toList, hlower, List.drop_left]

private theorem readRest?_nil (fuel : Nat) : Step.readRest? fuel [] = some [] := by
  cases fuel <;> rfl

theorem pathLaws : settingsLibrary.PathLaws where
  path_head := exists_ofKey_eq
  path_dotted {first second} hfirst hsecond := by
    have hkey : (first ++ "." ++ second).toList = first.toList ++ '.' :: second.toList := by
      simp
    have hpoint : ('.' :: second.toList).takeWhile Step.isNameChar = [] := by
      rw [List.takeWhile_cons_of_neg (by decide)]
    have hread : ∀ fuel, Step.readRest? (fuel + 1) ('.' :: second.toList) =
        some [.key second] := by
      intro fuel
      have hend : ([] : Text).takeWhile Step.isNameChar = [] := rfl
      have hname := name?_append hsecond hend
      rw [List.append_nil] at hname
      simp [Step.readRest?, hname, readRest?_nil]
    change Step.ofKey (first ++ "." ++ second) = _
    rw [Step.ofKey, hkey, Step.read?, name?_append hfirst hpoint, List.length_append,
      List.length_cons, ← Nat.add_assoc]
    simp [hread]

end Backend

end Interpolation
