import Interpolation.Proofs.Settings.Merging
import Mathlib.Data.List.Forall2

/-!
Sources, whose keys are paths. What is said of a key holds of sources that lead into it by names.
-/
namespace Interpolation.SettingsLibrary

open Value

variable {Files : Type} (lib : SettingsLibrary Files)

/-- The entry of a table that an entry of a source stands for, as far as its key leads by names. -/
def expand (entry : String × Value) : String × Value :=
  match lib.path entry.1 with
  | .key name :: steps => (name, nest steps entry.2)
  | _ => entry

/-- The values that a source gives to a key. -/
def given (name : String) (source : Entries Value) : List Value :=
  Entries.spelled name (source.map lib.expand)

/-- The values that a source gives to a field of a section. -/
def givenIn (part field : String) (source : Entries Value) : List Value :=
  (lib.given part source).flatMap fun value => value.entries.spelled field

/-- No entry of a source leads into a key by a position. -/
def ByNames (name : String) (source : Entries Value) : Prop :=
  ∀ entry ∈ source, lowercaseString (lib.expand entry).1 = name →
    ∀ step ∈ lib.path entry.1, step.isName = true

variable {lib} {name part field : String}

theorem expand_of_path {key : String} {steps : List Step}
    (h : lib.path key = .key name :: steps) (value : Value) :
    lib.expand (key, value) = (name, nest steps value) := by
  rw [expand, h]

theorem given_cons_of_eq {entry : String × Value}
    (h : lowercaseString (lib.expand entry).1 = name) (source : Entries Value) :
    lib.given name (entry :: source) = (lib.expand entry).2 :: lib.given name source :=
  Entries.spelled_cons_of_eq h _ _

theorem given_cons_of_ne {entry : String × Value}
    (h : lowercaseString (lib.expand entry).1 ≠ name) (source : Entries Value) :
    lib.given name (entry :: source) = lib.given name source :=
  Entries.spelled_cons_of_ne h _ _

theorem mem_given {value : Value} {source : Entries Value} :
    value ∈ lib.given name source ↔
      ∃ entry ∈ source, lowercaseString (lib.expand entry).1 = name ∧
        (lib.expand entry).2 = value := by
  rw [given, Entries.spelled, List.filter_map, List.map_map, List.mem_map]
  constructor
  · rintro ⟨entry, hentry, rfl⟩
    obtain ⟨hmem, hname⟩ := List.mem_filter.1 hentry
    exact ⟨entry, hmem, of_decide_eq_true hname, rfl⟩
  · rintro ⟨entry, hentry, hname, rfl⟩
    exact ⟨entry, List.mem_filter.2 ⟨hentry, decide_eq_true hname⟩, rfl⟩

theorem given_perm {order source : Entries Value} (h : order.Perm source) (name : String) :
    (lib.given name order).Perm (lib.given name source) :=
  Entries.spelled_perm (h.map _) name

theorem givenIn_perm {order source : Entries Value} (h : order.Perm source)
    (part field : String) : (lib.givenIn part field order).Perm (lib.givenIn part field source) :=
  (given_perm h part).flatMap_right _

/-- A value of a section has a field no more often than the source gives it. -/
theorem length_spelled_le {value : Value} {source : Entries Value}
    (h : value ∈ lib.given part source) :
    (value.entries.spelled field).length ≤ (lib.givenIn part field source).length := by
  obtain ⟨before, after, hsplit⟩ := List.append_of_mem h
  rw [givenIn, hsplit, List.flatMap_append, List.flatMap_cons]
  simp only [List.length_append]
  omega

theorem ByNames.of_perm {order source : Entries Value} (h : lib.ByNames name source)
    (horder : order.Perm source) : lib.ByNames name order :=
  fun entry hentry => h entry (horder.mem_iff.1 hentry)

section

variable (laws : lib.Lawful)

include laws

private theorem isTable_setSource (source : Entries Value) {base : Value} (h : base.IsTable) :
    (lib.setSource source base).IsTable := by
  induction source generalizing base with
  | nil => exact h
  | cons entry source ih =>
    obtain ⟨key, value⟩ := entry
    obtain ⟨first, steps, -, hpath, -⟩ := laws.path_head key
    have hset := (laws.set_elsewhere first steps value h).1
    rw [← hpath] at hset
    exact ih hset

theorem settles_setSource {source : Entries Value} {base : Value} (hbase : base.IsTable)
    (h : lib.ByNames name source) :
    lib.Settles (lib.given name source) (base.get? name)
      ((lib.setSource source base).get? name) := by
  induction source generalizing base with
  | nil => exact .nil
  | cons entry source ih =>
    obtain ⟨key, value⟩ := entry
    obtain ⟨hentry, hsource⟩ := List.forall_mem_cons.1 h
    obtain ⟨first, steps, -, hpath, -⟩ := laws.path_head key
    obtain ⟨htable, helsewhere⟩ := laws.set_elsewhere first steps value hbase
    rw [← hpath] at htable helsewhere
    have hexpand := expand_of_path hpath value
    have hrest := ih htable hsource
    by_cases hname : lowercaseString first = name
    · -- The key leads by names, so nested tables are laid under the first of them.
      have hnames : ∀ step ∈ steps, step.isName = true := by
        intro step hstep
        exact hentry (by rw [hexpand]; exact hname) step
          (by rw [hpath]; exact List.mem_cons_of_mem _ hstep)
      obtain ⟨-, after, hafter, hget⟩ := laws.set_key first (nest steps value) base
      rw [hpath, laws.set_names first value base hnames, hget, if_pos hname.symm] at hrest
      rw [hname] at hafter
      rw [given_cons_of_eq (by rw [hexpand]; exact hname), hexpand]
      have hsource : lib.setSource ((key, value) :: source) base =
          lib.setSource source (lib.set [.key first] (nest steps value) base) := by
        rw [← laws.set_names first value base hnames, ← hpath]
        rfl
      rw [hsource]
      exact .cons hafter hrest
    · rw [helsewhere name (Ne.symm hname)] at hrest
      rw [given_cons_of_ne (by rw [hexpand]; exact hname)]
      exact hrest

/-- In whichever order the entries of each source are gone through, a key settles to what the
sources give it, the last one on top. -/
theorem Stacked.settles {sources : List (Entries Value)} {base root : Value}
    (h : lib.Stacked sources base root) (hbase : base.IsTable) :
    root.IsTable ∧ ∃ orders, List.Forall₂ List.Perm orders sources ∧
      ∀ name, (∀ source ∈ sources, lib.ByNames name source) →
        lib.Settles (orders.flatMap (lib.given name)) (base.get? name) (root.get? name) := by
  induction h with
  | nil => exact ⟨hbase, [], .nil, fun name _ => .nil⟩
  | @cons source order sources base root horder _ ih =>
    obtain ⟨hroot, orders, horders, hrest⟩ := ih (isTable_setSource laws order hbase)
    refine ⟨hroot, order :: orders, .cons horder horders, fun name hnames => ?_⟩
    obtain ⟨hsource, hnames⟩ := List.forall_mem_cons.1 hnames
    exact (settles_setSource laws hbase (hsource.of_perm horder)).append (hrest name hnames)

end

/-- Where each source gives at most one thing, the order of its entries does not matter. -/
theorem flatMap_eq_of_perm {orders sources : List (Entries Value)}
    (h : List.Forall₂ List.Perm orders sources) {f : Entries Value → List Value}
    (hf : ∀ {order source : Entries Value}, order.Perm source → (f order).Perm (f source))
    (honce : ∀ source ∈ sources, (f source).length ≤ 1) :
    orders.flatMap f = sources.flatMap f := by
  induction h with
  | nil => rfl
  | cons horder _ ih =>
    obtain ⟨hsource, hrest⟩ := List.forall_mem_cons.1 honce
    rw [List.flatMap_cons, List.flatMap_cons, ih hrest,
      eq_of_perm_of_length_le_one (hf horder) hsource]

end Interpolation.SettingsLibrary
