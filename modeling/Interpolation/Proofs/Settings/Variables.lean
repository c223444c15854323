import Interpolation.Settings.Load
import Interpolation.Proofs.Settings.Sources
import Interpolation.Proofs.Text.Lowercase
import Mathlib.Data.List.Nodup

/-!
The defaults and the environment as sources.
-/
namespace Interpolation

/-- A variable with the field that it sets. -/
structure Setter where
  name : String
  part : String
  field : String
  deriving DecidableEq, Repr

namespace Setter

def mode : Setter := ⟨"ENGINE_MODE", "engine", "mode"⟩

def format : Setter := ⟨"LOGGING_FORMAT", "logging", "format"⟩

def level : Setter := ⟨"LOGGING_LEVEL", "logging", "level"⟩

def all : List Setter := [mode, format, level]

def key (setter : Setter) : String := setter.part ++ "." ++ setter.field

variable {setter other : Setter}

private theorem isPlain_of_mem : ∀ setter ∈ all, IsPlain setter.part ∧ IsPlain setter.field := by
  decide +kernel

private theorem lowercase_of_mem : ∀ setter ∈ all,
    lowercaseString setter.part = setter.part ∧ lowercaseString setter.field = setter.field := by
  decide +kernel

private theorem keyOfVariable_of_mem : ∀ setter ∈ all, keyOfVariable setter.name = setter.key := by
  decide +kernel

private theorem key_eq_iff : ∀ setter ∈ all, ∀ other ∈ all,
    setter.key = other.key ↔ setter.part = other.part ∧ setter.field = other.field := by
  decide

private theorem key_injective : ∀ setter ∈ all, ∀ other ∈ all,
    setter.key = other.key → setter = other := by
  decide

end Setter

namespace Settings

/-- The parts of the settings. -/
def parts : List String := ["engine", "logging", "bindings"]

/-- The parts that hold fields. -/
def sections : List String := ["engine", "logging"]

theorem part_mem_sections : ∀ setter ∈ Setter.all, setter.part ∈ sections := by
  decide

private theorem mem_parts_of_mem_sections : ∀ part ∈ sections, part ∈ parts := by
  decide

theorem part_mem_parts : ∀ setter ∈ Setter.all, setter.part ∈ parts := by
  decide

end Settings

/-- No two keys of a table are the same name in different casings. -/
def Value.SpelledOnce (value : Value) : Prop :=
  (value.entries.map fun entry => lowercaseString entry.1).Nodup

instance (value : Value) : Decidable value.SpelledOnce :=
  inferInstanceAs (Decidable (List.Nodup _))

namespace SettingsLibrary

open Settings

variable {Files : Type} (lib : SettingsLibrary Files)

instance (name : String) (source : Entries Value) : Decidable (lib.ByNames name source) :=
  inferInstanceAs (Decidable (∀ entry ∈ source, _ → ∀ step ∈ lib.path entry.1, _))

/-- A source as the layers of the settings are expected: it leads into their parts by names, the
sections are tables, and no key of a setting is spelt twice. -/
structure Regular (source : Entries Value) : Prop where
  byNames : ∀ part ∈ parts, lib.ByNames part source
  isTable : ∀ part ∈ sections, ∀ value ∈ lib.given part source, value.IsTable
  fields : ∀ setter ∈ Setter.all, (lib.givenIn setter.part setter.field source).length ≤ 1
  bindings : (lib.given "bindings" source).length ≤ 1
  formats : ∀ value ∈ lib.givenIn "logging" "format" source, value.SpelledOnce

instance (source : Entries Value) : Decidable (lib.Regular source) :=
  decidable_of_iff (_ ∧ _ ∧ _ ∧ _ ∧ _)
    ⟨fun h => ⟨h.1, h.2.1, h.2.2.1, h.2.2.2.1, h.2.2.2.2⟩,
      fun h => ⟨h.1, h.2, h.3, h.4, h.5⟩⟩

/-- A source that gives the parts of the settings nothing but scalars under the keys of fields. -/
structure Plain (source : Entries Value) : Prop where
  setter : ∀ entry ∈ source, lowercaseString (lib.expand entry).1 ∈ parts →
    ∃ setter ∈ Setter.all, entry.1 = setter.key ∧ ¬ entry.2.IsTable
  nodup : (source.map Prod.fst).Nodup

variable {lib}

theorem Regular.of_perm {order source : Entries Value} (h : lib.Regular source)
    (horder : order.Perm source) : lib.Regular order where
  byNames part hpart := (h.byNames part hpart).of_perm horder
  isTable part hpart value hvalue :=
    h.isTable part hpart value ((given_perm horder part).mem_iff.1 hvalue)
  fields setter hsetter := by
    rw [(givenIn_perm horder _ _).length_eq]
    exact h.fields setter hsetter
  bindings := by
    rw [(given_perm horder _).length_eq]
    exact h.bindings
  formats value hvalue := h.formats value ((givenIn_perm horder _ _).mem_iff.1 hvalue)

variable (laws : lib.Lawful)

section

include laws

private theorem path_key {setter : Setter} (h : setter ∈ Setter.all) :
    lib.path setter.key = [.key setter.part, .key setter.field] :=
  laws.path_dotted (Setter.isPlain_of_mem setter h).1 (Setter.isPlain_of_mem setter h).2

theorem expand_key {setter : Setter} (h : setter ∈ Setter.all) (value : Value) :
    lib.expand (setter.key, value) = (setter.part, .table [(setter.field, value)]) :=
  expand_of_path (path_key laws h) value

/-- What a plain source gives to a field is what its key holds. -/
theorem Plain.givenIn_eq {source : Entries Value} (h : lib.Plain source) {setter : Setter}
    (hsetter : setter ∈ Setter.all) :
    lib.givenIn setter.part setter.field source = (source.lookup setter.key).toList := by
  induction source with
  | nil => rfl
  | cons entry source ih =>
    obtain ⟨key, value⟩ := entry
    have hnodup := h.nodup
    rw [List.map_cons, List.nodup_cons] at hnodup
    have hrest := ih ⟨fun entry hentry => h.setter entry (List.mem_cons_of_mem _ hentry), hnodup.2⟩
    obtain ⟨hpart, hfield⟩ := Setter.lowercase_of_mem setter hsetter
    by_cases hkey : key = setter.key
    · -- No later entry has the key again.
      subst hkey
      rw [Entries.lookup_eq_none hnodup.1] at hrest
      have hexpand := expand_key laws hsetter value
      rw [givenIn, given_cons_of_eq (by rw [hexpand, hpart]), hexpand, List.flatMap_cons]
      change Entries.spelled setter.field [(setter.field, value)] ++
        lib.givenIn setter.part setter.field source = _
      rw [Entries.spelled_cons_of_eq hfield, hrest, List.lookup_cons, beq_self_eq_true]
      rfl
    · rw [List.lookup_cons, beq_eq_false_iff_ne.2 (Ne.symm hkey), ← hrest]
      by_cases hlead : lowercaseString (lib.expand (key, value)).1 = setter.part
      · obtain ⟨other, hother, hotherKey, -⟩ := h.setter (key, value) List.mem_cons_self
          (by rw [hlead]; exact part_mem_parts setter hsetter)
        obtain rfl : key = other.key := hotherKey
        have hexpand := expand_key laws hother value
        obtain ⟨hotherPart, hotherField⟩ := Setter.lowercase_of_mem other hother
        rw [givenIn, given_cons_of_eq hlead, hexpand, List.flatMap_cons]
        rw [hexpand, hotherPart] at hlead
        have hne : lowercaseString other.field ≠ setter.field := by
          intro heq
          rw [hotherField] at heq
          exact hkey ((Setter.key_eq_iff other hother setter hsetter).2 ⟨hlead, heq⟩)
        change Entries.spelled setter.field [(other.field, value)] ++ _ = _
        rw [Entries.spelled_cons_of_ne hne]
        rfl
      · rw [givenIn, given_cons_of_ne hlead]
        rfl

theorem Plain.given_bindings {source : Entries Value} (h : lib.Plain source) :
    lib.given "bindings" source = [] := by
  rw [List.eq_nil_iff_forall_not_mem]
  intro value hvalue
  obtain ⟨⟨key, value⟩, hentry, hlead, -⟩ := mem_given.1 hvalue
  obtain ⟨setter, hsetter, rfl, -⟩ := h.setter _ hentry (by rw [hlead]; decide)
  rw [expand_key laws hsetter, (Setter.lowercase_of_mem setter hsetter).1] at hlead
  have hne : ∀ setter ∈ Setter.all, setter.part ≠ "bindings" := by decide
  exact hne setter hsetter hlead

theorem Plain.regular {source : Entries Value} (h : lib.Plain source) : lib.Regular source where
  byNames := by
    rintro part hpart ⟨key, value⟩ hentry hlead step hstep
    obtain ⟨setter, hsetter, rfl, -⟩ := h.setter _ hentry (by rw [hlead]; exact hpart)
    rw [path_key laws hsetter] at hstep
    rcases List.mem_cons.1 hstep with rfl | hstep
    · rfl
    · rw [List.mem_singleton.1 hstep]
      rfl
  isTable := by
    intro part hpart value hvalue
    obtain ⟨⟨key, value⟩, hentry, hlead, rfl⟩ := mem_given.1 hvalue
    obtain ⟨setter, hsetter, rfl, -⟩ := h.setter _ hentry
      (by rw [hlead]; exact mem_parts_of_mem_sections part hpart)
    rw [expand_key laws hsetter]
    exact ⟨_, rfl⟩
  fields := by
    intro setter hsetter
    rw [h.givenIn_eq laws hsetter]
    cases source.lookup setter.key <;> simp
  bindings := by
    rw [h.given_bindings laws]
    exact Nat.zero_le _
  formats := by
    intro value hvalue
    have hformat : Setter.format ∈ Setter.all := by decide
    change value ∈ lib.givenIn Setter.format.part Setter.format.field source at hvalue
    rw [h.givenIn_eq laws hformat, Option.mem_toList] at hvalue
    obtain ⟨-, -, -, hscalar⟩ := h.setter _ (Entries.mem_of_lookup hvalue)
      (by rw [expand_key laws hformat, (Setter.lowercase_of_mem _ hformat).1]; decide)
    cases value with
    | table entries => exact absurd ⟨entries, rfl⟩ hscalar
    | _ => exact List.nodup_nil

end

/-! ## Defaults -/

theorem plain_defaults : lib.Plain defaults where
  setter := by
    rintro entry hentry -
    have hkeys : ∀ entry ∈ defaults, ∃ setter ∈ Setter.all, entry.1 = setter.key ∧
        ¬ entry.2.IsTable := by
      decide
    exact hkeys entry hentry
  nodup := by decide

end SettingsLibrary

/-! ## The environment -/

private theorem lowercaseChar_of_mem_keyOfVariable {name : String} {c : Char}
    (h : c ∈ (keyOfVariable name).toList) : lowercaseChar c = [c] := by
  rw [keyOfVariable, String.toList_ofList] at h
  obtain ⟨d, hd, rfl⟩ := List.mem_map.1 h
  split
  · decide
  · rw [lowercaseString, String.toList_ofList] at hd
    exact Text.lowercaseChar_of_mem_lowercaseAfter hd

/-- A name without points that a key begins with is what the name of the variable begins with. -/
private theorem prefix_of_prefix_keyOfVariable {name part : String} (hpoint : '.' ∉ part.toList)
    (h : part.toList <+: (keyOfVariable name).toList) :
    part.toList <+: (lowercaseString name).toList := by
  rw [keyOfVariable, String.toList_ofList, List.prefix_map_iff] at h
  obtain ⟨front, hfront, hpart⟩ := h
  -- An underscore would have become a point, and the part has none.
  have hfixed : ∀ c ∈ front, (if c = '_' then '.' else c) = c := by
    intro c hc
    apply if_neg
    rintro rfl
    rw [hpart] at hpoint
    exact hpoint (List.mem_map.2 ⟨'_', hc, rfl⟩)
  rw [hpart, List.map_congr_left hfixed, List.map_id']
  exact hfront

namespace Environment

/-- No variable has a name that begins like a part of the settings, in any casing, unless it is a
variable of the settings. -/
def SetsOnly (environment : Environment) : Prop :=
  ∀ name ∈ environment.names, ∀ part ∈ Settings.parts,
    part.toList <+: (lowercaseString name).toList → name ∈ Setter.all.map Setter.name

instance (environment : Environment) : Decidable environment.SetsOnly :=
  inferInstanceAs (Decidable (∀ name ∈ environment.names, ∀ part ∈ Settings.parts, _ → _ ∈ _))

end Environment

namespace SettingsLibrary

variable {Files : Type} {lib : SettingsLibrary Files} (laws : lib.Lawful)
  {environment : Environment} {source : Entries Value}

include laws

/-- A key of a variable that leads into a part begins with it. -/
private theorem prefix_keyOfVariable {name part : String} {value : Value}
    (h : lowercaseString (lib.expand (keyOfVariable name, value)).1 = part) :
    part.toList <+: (keyOfVariable name).toList := by
  obtain ⟨first, steps, front, hpath, hfront, hfirst⟩ := laws.path_head (keyOfVariable name)
  have hfixed : ∀ c ∈ (String.ofList front).toList, lowercaseChar c = [c] := by
    intro c hc
    rw [String.toList_ofList] at hc
    exact lowercaseChar_of_mem_keyOfVariable (hfront.mem hc)
  rw [expand_of_path hpath, hfirst, lowercaseString_eq_self hfixed] at h
  rw [← h, String.toList_ofList]
  exact hfront

theorem plain_environment (hsets : environment.SetsOnly)
    (h : lib.ofEnvironment environment = .ok source) : lib.Plain source where
  setter := by
    intro entry hentry hlead
    obtain ⟨name, value, hvar, rfl⟩ := laws.of_mem_environment h hentry
    have hpoint : ∀ part ∈ Settings.parts, '.' ∉ part.toList := by decide
    have hprefix := prefix_of_prefix_keyOfVariable (hpoint _ hlead)
      (prefix_keyOfVariable laws rfl)
    obtain ⟨setter, hsetter, rfl⟩ := List.mem_map.1
      (hsets name (Environment.mem_names_of_var? hvar) _ hlead hprefix)
    exact ⟨setter, hsetter, Setter.keyOfVariable_of_mem setter hsetter,
      laws.ofVariable_not_isTable value⟩
  nodup := laws.nodup_environment h

/-- The key of a field holds the value of its variable. -/
theorem lookup_environment (hsets : environment.SetsOnly)
    (h : lib.ofEnvironment environment = .ok source) {setter : Setter}
    (hsetter : setter ∈ Setter.all) :
    source.lookup setter.key = (environment.var? setter.name).map lib.ofVariable := by
  -- Only the variable of the field has its key.
  have hname : ∀ name value, environment.var? name = some value →
      keyOfVariable name = setter.key → name = setter.name := by
    intro name value hvar hkey
    have hprefix : setter.part.toList <+: (keyOfVariable name).toList := by
      rw [hkey, Setter.key, String.append_assoc, String.toList_append]
      exact List.prefix_append _ _
    have hpoint : ∀ setter ∈ Setter.all, '.' ∉ setter.part.toList := by decide
    obtain ⟨other, hother, rfl⟩ := List.mem_map.1
      (hsets name (Environment.mem_names_of_var? hvar) _ (Settings.part_mem_parts setter hsetter)
        (prefix_of_prefix_keyOfVariable (hpoint setter hsetter) hprefix))
    rw [Setter.keyOfVariable_of_mem other hother] at hkey
    rw [Setter.key_injective other hother setter hsetter hkey]
  cases hlookup : source.lookup setter.key with
  | some value =>
    obtain ⟨name, text, hvar, hentry⟩ := laws.of_mem_environment h (Entries.mem_of_lookup hlookup)
    obtain ⟨hkey, rfl⟩ := Prod.mk.inj hentry
    obtain rfl := hname name text hvar hkey.symm
    rw [hvar]
    rfl
  | none =>
    cases hvar : environment.var? setter.name with
    | none => rfl
    | some value =>
      have hkey := laws.mem_environment h hvar
      rw [Setter.keyOfVariable_of_mem setter hsetter] at hkey
      obtain ⟨entry, hentry, heq⟩ := List.mem_map.1 hkey
      rw [List.lookup_eq_none_iff] at hlookup
      exact absurd heq.symm (bne_iff_ne.1 (hlookup entry hentry))

end SettingsLibrary

end Interpolation
