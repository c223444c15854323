import Interpolation.Settings.Reading
import Interpolation.Proofs.Settings.Variables

/-!
Settings read from values that settled. Merged tables read as no scalar and no array.
-/
namespace Interpolation

theorem exists_of_bind_eq_ok {ε α β : Type} {x : Except ε α} {f : α → Except ε β} {y : β}
    (h : x >>= f = .ok y) : ∃ a, x = .ok a ∧ f a = .ok y := by
  cases x with
  | error e => cases h
  | ok a => exact ⟨a, rfl, h⟩

private theorem forall₂_of_mapM_eq_ok {ε α β : Type} {f : α → Except ε β} {xs : List α}
    {ys : List β} (h : xs.mapM f = .ok ys) : List.Forall₂ (fun x y => f x = .ok y) xs ys := by
  induction xs generalizing ys with
  | nil =>
    cases h
    exact .nil
  | cons x xs ih =>
    rw [List.mapM_cons] at h
    obtain ⟨y, hy, h⟩ := exists_of_bind_eq_ok h
    obtain ⟨rest, hrest, h⟩ := exists_of_bind_eq_ok h
    cases h
    exact .cons hy (ih hrest)

namespace Reader

variable {ε : Type} {reader : Reader ε}

/-- What a field changes in the logging that was read before it. -/
private theorem takeLogging_cases {x x' : LogFormat × String} {name : String} {value : Value}
    (h : reader.takeLogging x name value = .ok x') :
    (name = "format" ∧ reader.choice LogFormat.choices value = .ok x'.1 ∧ x'.2 = x.2) ∨
      (name = "level" ∧ reader.text value = .ok x'.2 ∧ x'.1 = x.1) ∨
      (name ≠ "format" ∧ name ≠ "level" ∧ x' = x) := by
  unfold takeLogging at h
  split at h
  · obtain ⟨format, hformat, h⟩ := exists_of_bind_eq_ok h
    cases h
    exact .inl ⟨rfl, hformat, rfl⟩
  · obtain ⟨level, hlevel, h⟩ := exists_of_bind_eq_ok h
    cases h
    exact .inr (.inl ⟨rfl, hlevel, rfl⟩)
  · next hformat hlevel =>
    cases h
    exact .inr (.inr ⟨hformat, hlevel, rfl⟩)

/-- What a field changes in the settings that were read before it. -/
private theorem takeSettings_cases {x x' : Settings} {name : String} {value : Value}
    (h : reader.takeSettings x name value = .ok x') :
    (name = "engine" ∧ reader.engine value = .ok x'.mode ∧ x' = { x with mode := x'.mode }) ∨
      (name = "logging" ∧ reader.logging value = .ok (x'.format, x'.level) ∧
        x' = { x with format := x'.format, level := x'.level }) ∨
      (name = "bindings" ∧ reader.bindings value = .ok x'.bindings ∧
        x' = { x with bindings := x'.bindings }) ∨
      (name ≠ "engine" ∧ name ≠ "logging" ∧ name ≠ "bindings" ∧ x' = x) := by
  unfold takeSettings at h
  split at h
  · obtain ⟨mode, hmode, h⟩ := exists_of_bind_eq_ok h
    cases h
    exact .inl ⟨rfl, hmode, rfl⟩
  · obtain ⟨logging, hlogging, h⟩ := exists_of_bind_eq_ok h
    cases h
    exact .inr (.inl ⟨rfl, hlogging, rfl⟩)
  · obtain ⟨bindings, hbindings, h⟩ := exists_of_bind_eq_ok h
    cases h
    exact .inr (.inr (.inl ⟨rfl, hbindings, rfl⟩))
  · next hengine hlogging hbindings =>
    cases h
    exact .inr (.inr (.inr ⟨hengine, hlogging, hbindings, rfl⟩))

end Reader

namespace SettingsLibrary

open Reader

variable {Files : Type} {lib : SettingsLibrary Files} (laws : lib.Lawful)

include laws

/-! ## Fields of records -/

/-- A part of what is read from a table that one field alone decides: it comes from that field, or
is as at the start. -/
theorem record_field {α β : Type} {names : List String}
    {take : α → String → Value → Except lib.Error α} {start x : α} {entries : Entries Value}
    (h : lib.reader.record names take start (.table entries) = .ok x) (hnames : names.Nodup)
    {name : String} (hname : name ∈ names) (part : α → β) {read : Value → Except lib.Error β}
    (htake : ∀ x value x', take x name value = .ok x' → read value = .ok (part x'))
    (hother : ∀ x other value x', other ≠ name → take x other value = .ok x' →
      part x' = part x) :
    (entries.lookup name).elim (Except.ok (part start)) read = .ok (part x) := by
  obtain ⟨record, hfields, hfold⟩ := exists_of_bind_eq_ok h
  obtain ⟨hnodup, hlookup⟩ := laws.fields_table hnames hfields
  rw [← hlookup name hname]
  clear h hfields hlookup
  induction record generalizing start with
  | nil =>
    cases hfold
    rfl
  | cons field record ih =>
    obtain ⟨key, value⟩ := field
    rw [List.map_cons, List.nodup_cons] at hnodup
    rw [List.foldlM_cons] at hfold
    obtain ⟨next, hstep, hfold⟩ := exists_of_bind_eq_ok hfold
    have hrest := ih hfold hnodup.2
    by_cases hkey : key = name
    · -- The later fields have other names, so the part stays as it is now.
      subst hkey
      rw [Entries.lookup_eq_none hnodup.1] at hrest
      rw [List.lookup_cons, beq_self_eq_true, ← Except.ok.inj hrest]
      exact htake _ _ _ hstep
    · rw [List.lookup_cons, beq_eq_false_iff_ne.2 (Ne.symm hkey)]
      rw [hother _ _ _ _ hkey hstep] at hrest
      exact hrest

theorem engine_table {entries : Entries Value} {mode : String}
    (h : lib.reader.engine (.table entries) = .ok mode) :
    (entries.lookup "mode").elim (.ok Settings.standardMode) lib.reader.text = .ok mode := by
  refine record_field laws h (by decide) (by decide) id (fun _ _ _ => id) ?_
  intro x other value x' hne htake
  unfold Reader.takeEngine at htake
  split at htake
  · exact absurd rfl hne
  · exact (Except.ok.inj htake).symm

theorem logging_table {entries : Entries Value} {logging : LogFormat × String}
    (h : lib.reader.logging (.table entries) = .ok logging) :
    (entries.lookup "format").elim (.ok .pretty) (lib.reader.choice LogFormat.choices) =
        .ok logging.1 ∧
      (entries.lookup "level").elim (.ok Settings.standardLevel) lib.reader.text =
        .ok logging.2 := by
  constructor
  · refine record_field laws h (by decide) (by decide) Prod.fst ?_ ?_
    · intro x value x' htake
      rcases takeLogging_cases htake with ⟨-, hread, -⟩ | ⟨hname, -⟩ | ⟨hname, -⟩
      · exact hread
      · exact absurd hname (by decide)
      · exact absurd rfl hname
    · intro x other value x' hne htake
      rcases takeLogging_cases htake with ⟨hname, -⟩ | ⟨-, -, hsame⟩ | ⟨-, -, rfl⟩
      · exact absurd hname hne
      · exact hsame
      · rfl
  · refine record_field laws h (by decide) (by decide) Prod.snd ?_ ?_
    · intro x value x' htake
      rcases takeLogging_cases htake with ⟨hname, -⟩ | ⟨-, hread, -⟩ | ⟨-, hname, -⟩
      · exact absurd hname (by decide)
      · exact hread
      · exact absurd rfl hname
    · intro x other value x' hne htake
      rcases takeLogging_cases htake with ⟨-, -, hsame⟩ | ⟨hname, -⟩ | ⟨-, -, rfl⟩
      · exact hsame
      · exact absurd hname hne
      · rfl

/-- What each part of the settings is read from. -/
theorem settings_table {entries : Entries Value} {settings : Settings}
    (h : lib.reader.settings (.table entries) = .ok settings) :
    (entries.lookup "engine").elim (.ok Settings.standardMode) lib.reader.engine =
        .ok settings.mode ∧
      (entries.lookup "logging").elim (.ok (.pretty, Settings.standardLevel)) lib.reader.logging =
        .ok (settings.format, settings.level) ∧
      (entries.lookup "bindings").elim (.ok []) lib.reader.bindings = .ok settings.bindings := by
  refine ⟨?_, ?_, ?_⟩
  · refine record_field laws h (by decide) (by decide) Settings.mode ?_ ?_
    · intro x value x' htake
      rcases takeSettings_cases htake with ⟨-, hread, -⟩ | ⟨hname, -⟩ | ⟨hname, -⟩ | ⟨hname, -⟩
      · exact hread
      · exact absurd hname (by decide)
      · exact absurd hname (by decide)
      · exact absurd rfl hname
    · intro x other value x' hne htake
      rcases takeSettings_cases htake with
        ⟨hname, -⟩ | ⟨-, -, hsame⟩ | ⟨-, -, hsame⟩ | ⟨-, -, -, hsame⟩
      · exact absurd hname hne
      all_goals rw [hsame]
  · refine record_field laws h (by decide) (by decide) (fun x => (x.format, x.level)) ?_ ?_
    · intro x value x' htake
      rcases takeSettings_cases htake with
        ⟨hname, -⟩ | ⟨-, hread, -⟩ | ⟨hname, -⟩ | ⟨-, hname, -⟩
      · exact absurd hname (by decide)
      · exact hread
      · exact absurd hname (by decide)
      · exact absurd rfl hname
    · intro x other value x' hne htake
      rcases takeSettings_cases htake with
        ⟨-, -, hsame⟩ | ⟨hname, -⟩ | ⟨-, -, hsame⟩ | ⟨-, -, -, hsame⟩
      · rw [hsame]
      · exact absurd hname hne
      all_goals rw [hsame]
  · refine record_field laws h (by decide) (by decide) Settings.bindings ?_ ?_
    · intro x value x' htake
      rcases takeSettings_cases htake with
        ⟨hname, -⟩ | ⟨hname, -⟩ | ⟨-, hread, -⟩ | ⟨-, -, hname, -⟩
      · exact absurd hname (by decide)
      · exact absurd hname (by decide)
      · exact hread
      · exact absurd rfl hname
    · intro x other value x' hne htake
      rcases takeSettings_cases htake with
        ⟨-, -, hsame⟩ | ⟨-, -, hsame⟩ | ⟨hname, -⟩ | ⟨-, -, -, hsame⟩
      · rw [hsame]
      · rw [hsame]
      · exact absurd hname hne
      · rw [hsame]

/-! ## Values that settled -/

variable {values : List Value} {value last : Value}

/-- Where tables read as nothing, what is read is the last value. -/
theorem read_of_settles {α : Type} {read : Value → Except lib.Error α}
    (hread : ∀ entries x, read (.table entries) ≠ .ok x) (hlast : Value.last? values = some last)
    (h : lib.Settles values none (some value)) {x : α} (hx : read value = .ok x) :
    read last = .ok x := by
  cases h.settled laws.toLayerLaws with
  | kept hnone => cases hnone.symm.trans hlast
  | begun hnone => cases hnone.symm.trans hlast
  | replaced hlast' h =>
    obtain rfl := Option.some.inj (hlast.symm.trans hlast')
    rw [← Option.some.inj h]
    exact hx
  | merged _ h =>
    rw [Option.some.inj h] at hx
    exact absurd hx (hread _ x)

/-- A table that names a choice after it was merged names it by itself. -/
theorem choice_of_settles {α : Type} {choices : List (String × α)}
    (hspelled : last.SpelledOnce) (hlast : Value.last? values = some last)
    (h : lib.Settles values none (some value)) {x : α}
    (hx : lib.reader.choice choices value = .ok x) : lib.reader.choice choices last = .ok x := by
  cases h.settled laws.toLayerLaws with
  | kept hnone => cases hnone.symm.trans hlast
  | begun hnone => cases hnone.symm.trans hlast
  | replaced hlast' h =>
    obtain rfl := Option.some.inj (hlast.symm.trans hlast')
    rw [← Option.some.inj h]
    exact hx
  | @merged entries after hlast' h hne hkeys =>
    obtain rfl := Option.some.inj (hlast.symm.trans hlast')
    rw [Option.some.inj h] at hx
    obtain ⟨only, held, rfl, hchoice⟩ := laws.choice_table.1 hx
    -- The one key of the merged table is the key of every entry, and these differ.
    have hkey : ∀ entry ∈ entries, lowercaseString entry.1 = only := by
      intro entry hentry
      have hsome := hkeys entry hentry
      by_contra hne
      rw [List.lookup_cons, beq_eq_false_iff_ne.2 hne] at hsome
      exact absurd hsome (by simp)
    match entries, hne, hspelled, hkey with
    | [(key, value)], _, _, hkey =>
      refine laws.choice_table.2 ⟨key, value, rfl, (laws.choice_casing choices ?_ x).1 hchoice⟩
      rw [← hkey _ (List.mem_singleton_self _), lowercaseString_lowercaseString]
    | first :: second :: rest, _, hspelled, hkey =>
      have hfirst := hkey first (by simp)
      have hsecond := hkey second (by simp)
      unfold Value.SpelledOnce at hspelled
      simp [Value.entries, hfirst, hsecond] at hspelled

/-- The bindings are the items of the last value, if there is one. -/
theorem bindings_of_settles {result : Option Value} (h : lib.Settles values none result)
    {bindings : List BindingEntry}
    (hbindings : result.elim (.ok []) lib.reader.bindings = .ok bindings) :
    match Value.last? values with
    | none => bindings = []
    | some last => ∃ items, last = .array items ∧
        List.Forall₂ (fun item entry => lib.reader.binding item = .ok entry) items bindings := by
  have htable : ∀ entries, lib.reader.bindings (.table entries) ≠ .ok bindings := by
    intro entries h
    obtain ⟨items, hitems, -⟩ := exists_of_bind_eq_ok h
    cases laws.items_eq hitems
  cases h.settled laws.toLayerLaws with
  | kept hlast h =>
    rw [hlast]
    rw [h] at hbindings
    exact (Except.ok.inj hbindings).symm
  | begun _ _ h =>
    rw [h] at hbindings
    exact absurd hbindings (htable _)
  | merged _ h =>
    rw [h] at hbindings
    exact absurd hbindings (htable _)
  | @replaced last hlast h =>
    rw [hlast]
    rw [h] at hbindings
    obtain ⟨items, hitems, hmap⟩ := exists_of_bind_eq_ok hbindings
    exact ⟨items, laws.items_eq hitems, forall₂_of_mapM_eq_ok hmap⟩

end SettingsLibrary

end Interpolation
