import Interpolation.Settings.Library
import Mathlib.Data.List.Perm.Basic

/-!
What values laid over one another settle to. The last that sets anything decides, unless tables are
merged.
-/
namespace Interpolation

namespace Entries

theorem lookup_eq_none {α : Type} {key : String} {entries : Entries α}
    (h : key ∉ entries.map Prod.fst) : entries.lookup key = none := by
  rw [List.lookup_eq_none_iff]
  intro entry hentry
  rw [bne_iff_ne]
  rintro rfl
  exact h (List.mem_map_of_mem hentry)

theorem mem_of_lookup {α : Type} {key : String} {x : α} {entries : Entries α}
    (h : entries.lookup key = some x) : (key, x) ∈ entries := by
  obtain ⟨front, back, hsplit, -⟩ := List.lookup_eq_some_iff.1 h
  rw [hsplit]
  exact List.mem_append_right _ List.mem_cons_self

/-- The values that entries hold under a key in any casing. -/
def spelled (name : String) (entries : Entries Value) : List Value :=
  (entries.filter fun entry => lowercaseString entry.1 = name).map Prod.snd

variable {name key : String}

theorem spelled_cons_of_eq (h : lowercaseString key = name) (value : Value)
    (entries : Entries Value) :
    spelled name ((key, value) :: entries) = value :: spelled name entries := by
  rw [spelled, List.filter_cons_of_pos (by simpa using h)]
  rfl

theorem spelled_cons_of_ne (h : lowercaseString key ≠ name) (value : Value)
    (entries : Entries Value) :
    spelled name ((key, value) :: entries) = spelled name entries := by
  rw [spelled, List.filter_cons_of_neg (by simpa using h)]
  rfl

theorem spelled_perm {order entries : Entries Value} (h : order.Perm entries) (name : String) :
    (spelled name order).Perm (spelled name entries) :=
  (h.filter _).map _

end Entries

/-- There is only one order of a list that has no two items. -/
theorem eq_of_perm_of_length_le_one {α : Type} {order items : List α} (h : order.Perm items)
    (hitems : items.length ≤ 1) : order = items := by
  match items, hitems with
  | [], _ => exact h.eq_nil
  | [item], _ => exact List.perm_singleton.1 h

namespace Value

/-- Whether a value is a table without entries, which has nothing to merge. -/
def setsNothing : Value → Bool
  | .table [] => true
  | _ => false

/-- The last of some values that sets anything. -/
def last? (values : List Value) : Option Value :=
  (values.filter fun value => !value.setsNothing).getLast?

theorem last?_append (first second : List Value) :
    last? (first ++ second) = (last? second).or (last? first) := by
  rw [last?, List.filter_append, List.getLast?_append]
  rfl

theorem last?_singleton {value : Value} (h : value.setsNothing = false) :
    last? [value] = some value := by
  rw [last?, List.filter_cons_of_pos (by rw [h]; rfl)]
  rfl

theorem setsNothing_of_not_isTable {value : Value} (h : ¬ value.IsTable) :
    value.setsNothing = false := by
  cases value with
  | table entries => exact absurd ⟨entries, rfl⟩ h
  | _ => rfl

end Value

namespace SettingsLibrary

open Value

variable {Files : Type} {lib : SettingsLibrary Files}

/-- Values laid under a key one after the other, over what it held, come to what it holds then. -/
inductive Settles (lib : SettingsLibrary Files) : List Value → Option Value → Option Value → Prop
  | nil {held : Option Value} : Settles lib [] held held
  | cons {value after : Value} {values : List Value} {held result : Option Value}
      (h : lib.Laid value held after) (hrest : Settles lib values (some after) result) :
      Settles lib (value :: values) held result

theorem Settles.append {first second : List Value} {held between result : Option Value}
    (hfirst : lib.Settles first held between) (hsecond : lib.Settles second between result) :
    lib.Settles (first ++ second) held result := by
  induction hfirst with
  | nil => exact hsecond
  | cons h _ ih => exact .cons h (ih hsecond)

theorem Settles.isSome {values : List Value} {held result : Option Value}
    (h : lib.Settles values held result) (hne : values ≠ []) : result.isSome = true := by
  induction h with
  | nil => exact absurd rfl hne
  | @cons _ _ values _ _ _ hrest ih =>
    cases values with
    | nil => cases hrest; rfl
    | cons value values => exact ih (List.cons_ne_nil _ _)

section

variable (laws : lib.LayerLaws)

include laws

theorem settles_setAll (entries : Entries Value) (base : Value) (name : String) :
    lib.Settles (entries.spelled name) (base.get? name) ((lib.setAll entries base).get? name) := by
  induction entries generalizing base with
  | nil => exact .nil
  | cons entry entries ih =>
    obtain ⟨key, value⟩ := entry
    obtain ⟨-, after, hafter, hget⟩ := laws.set_key key value base
    have hrest := ih (lib.set [.key key] value base)
    rw [hget] at hrest
    by_cases h : lowercaseString key = name
    · rw [Entries.spelled_cons_of_eq h]
      rw [if_pos h.symm] at hrest
      rw [h] at hafter
      exact .cons hafter hrest
    · rw [Entries.spelled_cons_of_ne h]
      rw [if_neg (Ne.symm h)] at hrest
      exact hrest

private theorem isTable_setAll {entries : Entries Value} {base : Value}
    (h : base.IsTable ∨ entries ≠ []) : (lib.setAll entries base).IsTable := by
  induction entries generalizing base with
  | nil => exact h.resolve_right (not_not_intro rfl)
  | cons entry entries ih => exact ih (.inl (laws.set_key entry.1 entry.2 base).1)

private theorem isSome_get?_setAll {entries : Entries Value} {entry : String × Value}
    (h : entry ∈ entries) (base : Value) :
    ((lib.setAll entries base).get? (lowercaseString entry.1)).isSome = true := by
  apply (settles_setAll laws entries base _).isSome
  intro hnil
  rw [Entries.spelled, List.map_eq_nil_iff, List.filter_eq_nil_iff] at hnil
  exact hnil entry h (by simp)

/-- Tables settle to a table, and each of its fields to what it has in them. -/
theorem Settles.fields {values : List Value} {held result : Option Value}
    (h : lib.Settles values held result) (hvalues : ∀ value ∈ values, value.IsTable)
    (hheld : (held.getD (.table [])).IsTable) :
    (result.getD (.table [])).IsTable ∧
    ∀ field, (∀ value ∈ values, (value.entries.spelled field).length ≤ 1) →
      lib.Settles (values.flatMap fun value => value.entries.spelled field)
        ((held.getD (.table [])).get? field) ((result.getD (.table [])).get? field) := by
  induction h with
  | nil => exact ⟨hheld, fun field _ => .nil⟩
  | @cons value after values held result hlaid _ ih =>
    obtain ⟨hvalue, hrest⟩ := List.forall_mem_cons.1 hvalues
    cases hlaid with
    | replaced hnot => exact absurd hvalue hnot
    | @merged entries order _ horder =>
      have hafter : (lib.setAll order (held.getD (.table []))).IsTable :=
        isTable_setAll laws (.inl hheld)
      obtain ⟨hresult, hfields⟩ := ih hrest hafter
      refine ⟨hresult, fun field honce => ?_⟩
      obtain ⟨hentries, honce⟩ := List.forall_mem_cons.1 honce
      have hfield := settles_setAll laws order (held.getD (.table [])) field
      rw [eq_of_perm_of_length_le_one (Entries.spelled_perm horder field) hentries] at hfield
      exact hfield.append (hfields field honce)

end

/-- How values settle. Without one that sets anything, what was held stays, or a table without
entries comes to be held. Otherwise the last of them stands in its place, or, as a table, has been
merged into it. -/
inductive Settled (values : List Value) (held result : Option Value) : Prop
  | kept (hlast : last? values = none) (h : result = held)
  | begun (hlast : last? values = none) (hheld : held = none) (h : result = some (.table []))
  | replaced {value : Value} (hlast : last? values = some value) (h : result = some value)
  | merged {entries after : Entries Value} (hlast : last? values = some (.table entries))
      (h : result = some (.table after)) (hne : entries ≠ [])
      (hkeys : ∀ entry ∈ entries, (after.lookup (lowercaseString entry.1)).isSome = true)

private theorem last?_cons_of_some {value last : Value} {values : List Value}
    (h : last? values = some last) : last? (value :: values) = some last := by
  rw [← List.singleton_append, last?_append, h]
  rfl

private theorem last?_cons_of_none {value : Value} {values : List Value}
    (h : last? values = none) : last? (value :: values) = last? [value] := by
  rw [← List.singleton_append, last?_append, h]
  rfl

theorem Settles.settled (laws : lib.LayerLaws) {values : List Value} {held result : Option Value}
    (h : lib.Settles values held result) : Settled values held result := by
  induction h with
  | nil => exact .kept rfl rfl
  | @cons value after values held result hlaid _ ih =>
    cases ih with
    | replaced hlast hresult => exact .replaced (last?_cons_of_some hlast) hresult
    | merged hlast hresult hne hkeys => exact .merged (last?_cons_of_some hlast) hresult hne hkeys
    | begun _ hheld => cases hheld
    | kept hnone hresult =>
      -- Nothing after the first value sets anything, so it decides.
      have hlast : last? (value :: values) = last? [value] := last?_cons_of_none hnone
      cases hlaid with
      | replaced hnot =>
        rw [last?_singleton (setsNothing_of_not_isTable hnot)] at hlast
        exact .replaced hlast hresult
      | @merged entries order _ horder =>
        by_cases hne : entries = []
        · subst hne
          obtain rfl := horder.eq_nil
          cases held with
          | none => exact .begun hlast rfl hresult
          | some held => exact .kept hlast hresult
        · have horder' : order ≠ [] := by
            rintro rfl
            exact hne horder.nil_eq.symm
          obtain ⟨after, hafter⟩ : (lib.setAll order (held.getD (.table []))).IsTable :=
            isTable_setAll laws (.inr horder')
          rw [last?_singleton (by cases entries <;> trivial)] at hlast
          refine .merged hlast (hresult.trans (congrArg some hafter)) hne ?_
          intro entry hentry
          have hkey := isSome_get?_setAll laws (horder.mem_iff.2 hentry) (held.getD (.table []))
          rw [hafter] at hkey
          exact hkey

end SettingsLibrary

end Interpolation
