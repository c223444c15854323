import Interpolation.Settings.Basic
import Interpolation.Proofs.Binding.Refusal

/-!
The store that configured bindings come to, up to the first that is refused.
-/
namespace Interpolation

namespace BindingEntry

/-- The reason for which the store refuses a configured binding. -/
def Refused (entry : BindingEntry) (e : BindingError) : Prop :=
  Interpolation.Refused (entry.pattern.map String.toList) (entry.value.map String.toList) e

/-- The binding that an entry with all its parts stands for. -/
def binding? (entry : BindingEntry) : Option Binding := do
  let pattern ← entry.pattern
  let value ← entry.value
  return ⟨pattern.toList, value.toList, .ofFlag entry.caseSensitive⟩

end BindingEntry

namespace Store

variable {entry : BindingEntry} {entries : List BindingEntry}

private theorem addEntry_of_refused {e : BindingError} (h : entry.Refused e) (store : Store) :
    store.addEntry entry = .error e :=
  add_of_refused h store entry.caseSensitive

/-- An entry that is not refused adds its binding. -/
private theorem exists_addEntry_eq (store : Store) (h : ∀ e, ¬ entry.Refused e) :
    ∃ b, entry.binding? = some b ∧ store.addEntry entry = .ok ⟨store.bindings ++ [b]⟩ := by
  obtain ⟨pattern, value, flag⟩ := entry
  rcases refused_or_exists (pattern.map String.toList) (value.map String.toList) with
    ⟨e, he⟩ | ⟨p, v, hp, hv, hne⟩
  · exact absurd he (h e)
  · obtain ⟨pattern, rfl, rfl⟩ := Option.map_eq_some_iff.1 hp
    obtain ⟨value, rfl, rfl⟩ := Option.map_eq_some_iff.1 hv
    exact ⟨_, rfl, store.add_of_ne_nil hne value.toList flag⟩

/-- Without a refusal the store grows by one binding for each entry. -/
theorem foldlM_addEntry (store : Store) (h : ∀ entry ∈ entries, ∀ e, ¬ entry.Refused e) :
    ∃ bindings, entries.map BindingEntry.binding? = bindings.map some ∧
      entries.foldlM addEntry store = .ok ⟨store.bindings ++ bindings⟩ := by
  induction entries generalizing store with
  | nil => exact ⟨[], rfl, by rw [List.append_nil]; rfl⟩
  | cons entry entries ih =>
    rw [List.forall_mem_cons] at h
    obtain ⟨b, hb, hadd⟩ := store.exists_addEntry_eq h.1
    obtain ⟨bindings, hbindings, hrest⟩ := ih ⟨store.bindings ++ [b]⟩ h.2
    refine ⟨b :: bindings, by rw [List.map_cons, hb, hbindings]; rfl, ?_⟩
    rw [List.foldlM_cons, hadd]
    change entries.foldlM addEntry ⟨store.bindings ++ [b]⟩ = .ok ⟨store.bindings ++ b :: bindings⟩
    rw [hrest, List.append_assoc]
    rfl

/-- The first refusal is the result, whatever comes after it. -/
theorem foldlM_addEntry_of_refused (store : Store) {before after : List BindingEntry}
    {e : BindingError} (hbefore : ∀ entry ∈ before, ∀ e, ¬ entry.Refused e)
    (he : entry.Refused e) :
    (before ++ entry :: after).foldlM addEntry store = .error e := by
  obtain ⟨bindings, -, hbindings⟩ := store.foldlM_addEntry hbefore
  rw [List.foldlM_append, hbindings]
  change (entry :: after).foldlM addEntry ⟨store.bindings ++ bindings⟩ = .error e
  rw [List.foldlM_cons, addEntry_of_refused he]
  rfl

end Store

/-- No entry is refused, or there is a first one that is. -/
theorem BindingEntry.refused_cases (entries : List BindingEntry) :
    (∀ entry ∈ entries, ∀ e, ¬ entry.Refused e) ∨
      ∃ before entry after e, entries = before ++ entry :: after ∧
        (∀ entry ∈ before, ∀ e, ¬ entry.Refused e) ∧ entry.Refused e := by
  induction entries with
  | nil => exact Or.inl (by simp)
  | cons entry entries ih =>
    by_cases hentry : ∃ e, entry.Refused e
    · obtain ⟨e, he⟩ := hentry
      exact Or.inr ⟨[], entry, entries, e, rfl, by simp, he⟩
    · rw [not_exists] at hentry
      rcases ih with hrest | ⟨before, first, after, e, rfl, hbefore, he⟩
      · exact Or.inl (List.forall_mem_cons.2 ⟨hentry, hrest⟩)
      · exact Or.inr ⟨entry :: before, first, after, e, rfl,
          List.forall_mem_cons.2 ⟨hentry, hbefore⟩, he⟩

namespace CaseSensitivity

/-- The optional flag that stands for a setting. -/
def flag : CaseSensitivity → Option Bool
  | .sensitive => some true
  | .insensitive => some false
  | .unspecified => none

private theorem ofFlag_eq_iff {flag : Option Bool} {c : CaseSensitivity} :
    ofFlag flag = c ↔ flag = c.flag := by
  rcases flag with _ | _ | _ <;> cases c <;> simp [ofFlag, CaseSensitivity.flag]

end CaseSensitivity

namespace BindingEntry

/-- The entry has a pattern, which is not empty, and a value, which may be. -/
structure Complete (entry : BindingEntry) : Prop where
  pattern : ∃ pattern, entry.pattern = some pattern ∧ pattern ≠ ""
  value : ∃ value, entry.value = some value

/-- The entry that a binding is written as. -/
def ofBinding (b : Binding) : BindingEntry :=
  ⟨some (String.ofList b.pattern), some (String.ofList b.value), b.caseSensitivity.flag⟩

variable {entry : BindingEntry} {b : Binding}

private theorem Complete.not_refused (h : entry.Complete) (e : BindingError) :
    ¬ entry.Refused e := by
  obtain ⟨⟨pattern, hpattern, hne⟩, ⟨value, hvalue⟩⟩ := h
  rw [Refused, hpattern, hvalue]
  apply Interpolation.Refused.not_of_ne_nil
  intro hnil
  exact hne (String.toList_eq_nil_iff.1 hnil)

theorem complete_iff_not_refused : entry.Complete ↔ ∀ e, ¬ entry.Refused e := by
  refine ⟨Complete.not_refused, fun h => ?_⟩
  rcases refused_or_exists (entry.pattern.map String.toList) (entry.value.map String.toList) with
    ⟨e, he⟩ | ⟨p, v, hp, hv, hne⟩
  · exact absurd he (h e)
  · obtain ⟨pattern, hpattern, rfl⟩ := Option.map_eq_some_iff.1 hp
    obtain ⟨value, hvalue, rfl⟩ := Option.map_eq_some_iff.1 hv
    refine ⟨⟨pattern, hpattern, ?_⟩, ⟨value, hvalue⟩⟩
    rintro rfl
    exact hne rfl

private theorem complete_ofBinding_iff : (ofBinding b).Complete ↔ b.pattern ≠ [] := by
  constructor
  · rintro ⟨⟨pattern, hpattern, hne⟩, -⟩ hnil
    obtain rfl := Option.some.inj hpattern
    exact hne (String.ofList_eq_empty_iff.2 hnil)
  · intro h
    refine ⟨⟨_, rfl, ?_⟩, ⟨_, rfl⟩⟩
    intro hempty
    exact h (String.ofList_eq_empty_iff.1 hempty)

/-- Nothing of an entry is lost in its binding. -/
private theorem binding?_eq_some_iff : entry.binding? = some b ↔ entry = ofBinding b := by
  constructor
  · intro h
    obtain ⟨pattern, value, flag⟩ := entry
    obtain ⟨p, hp, h⟩ := Option.bind_eq_some_iff.1 h
    obtain ⟨v, hv, h⟩ := Option.bind_eq_some_iff.1 h
    obtain rfl := Option.some.inj h
    change pattern = some p at hp
    change value = some v at hv
    rw [hp, hv, ofBinding, String.ofList_toList, String.ofList_toList,
      ← CaseSensitivity.ofFlag_eq_iff.1 rfl]
  · rintro rfl
    rw [binding?, ofBinding]
    change some (Binding.mk (String.ofList b.pattern).toList (String.ofList b.value).toList
      (.ofFlag b.caseSensitivity.flag)) = some b
    rw [String.toList_ofList, String.toList_ofList, CaseSensitivity.ofFlag_eq_iff.2 rfl]

private theorem ofBinding_injective : Function.Injective ofBinding := by
  intro b b' h
  have hb := binding?_eq_some_iff.2 h
  rw [binding?_eq_some_iff.2 rfl] at hb
  exact Option.some.inj hb

private theorem map_binding?_eq_map_some_iff {entries : List BindingEntry}
    {bindings : List Binding} :
    entries.map binding? = bindings.map some ↔ entries = bindings.map ofBinding := by
  induction entries generalizing bindings with
  | nil => cases bindings <;> simp
  | cons entry entries ih =>
    cases bindings with
    | nil => simp
    | cons b bindings =>
      rw [List.map_cons, List.map_cons, List.map_cons, List.cons.injEq, List.cons.injEq,
        binding?_eq_some_iff, ih]

end BindingEntry

namespace Settings

variable {settings : Settings}

/-- Complete entries make a store, and are what its bindings are written as. -/
private theorem exists_store_of_complete (h : ∀ entry ∈ settings.bindings, entry.Complete) :
    ∃ store, settings.store = .ok store ∧ settings.bindings = store.bindings.map .ofBinding := by
  obtain ⟨bindings, hbindings, hstore⟩ :=
    Store.foldlM_addEntry {} fun entry hentry => (h entry hentry).not_refused
  exact ⟨_, hstore, BindingEntry.map_binding?_eq_map_some_iff.1 hbindings⟩

private theorem store_of_first_refused {before after : List BindingEntry} {entry : BindingEntry}
    {e : BindingError} (hentries : settings.bindings = before ++ entry :: after)
    (hbefore : ∀ entry ∈ before, entry.Complete) (he : entry.Refused e) :
    settings.store = .error e := by
  rw [store, hentries]
  exact Store.foldlM_addEntry_of_refused {} (fun entry hentry => (hbefore entry hentry).not_refused)
    he

private theorem complete_or_first_refused (settings : Settings) :
    (∀ entry ∈ settings.bindings, entry.Complete) ∨
      ∃ before entry after e, settings.bindings = before ++ entry :: after ∧
        (∀ entry ∈ before, entry.Complete) ∧ entry.Refused e := by
  simpa only [← BindingEntry.complete_iff_not_refused] using
    BindingEntry.refused_cases settings.bindings

private theorem complete_of_store {store : Store} (hstore : settings.store = .ok store) :
    ∀ entry ∈ settings.bindings, entry.Complete := by
  rcases settings.complete_or_first_refused with
    h | ⟨before, entry, after, e, hentries, hbefore, he⟩
  · exact h
  · rw [store_of_first_refused hentries hbefore he] at hstore
    cases hstore

theorem store_eq_ok_iff {store : Store} :
    settings.store = .ok store ↔
      settings.bindings = store.bindings.map .ofBinding ∧ ∀ b ∈ store.bindings, b.pattern ≠ [] := by
  constructor
  · intro hstore
    have h := complete_of_store hstore
    obtain ⟨store', hstore', hentries⟩ := exists_store_of_complete h
    obtain rfl := Except.ok.inj (hstore.symm.trans hstore')
    rw [hentries, List.forall_mem_map] at h
    exact ⟨hentries, fun b hb => BindingEntry.complete_ofBinding_iff.1 (h b hb)⟩
  · rintro ⟨hentries, hne⟩
    have h : ∀ entry ∈ settings.bindings, entry.Complete := by
      rw [hentries, List.forall_mem_map]
      exact fun b hb => BindingEntry.complete_ofBinding_iff.2 (hne b hb)
    obtain ⟨store', hstore', hentries'⟩ := exists_store_of_complete h
    have hbindings : store'.bindings = store.bindings :=
      (List.map_inj_right fun _ _ hb => BindingEntry.ofBinding_injective hb).1
        (hentries'.symm.trans hentries)
    obtain rfl : store' = store := congrArg Store.mk hbindings
    exact hstore'

theorem store_eq_error_iff {e : BindingError} :
    settings.store = .error e ↔
      ∃ before entry after, settings.bindings = before ++ entry :: after ∧
        (∀ entry ∈ before, entry.Complete) ∧ entry.Refused e := by
  constructor
  · intro hstore
    rcases settings.complete_or_first_refused with
      h | ⟨before, entry, after, e', hentries, hbefore, he⟩
    · obtain ⟨store, hstore', -⟩ := exists_store_of_complete h
      rw [hstore'] at hstore
      cases hstore
    · rw [store_of_first_refused hentries hbefore he] at hstore
      cases hstore
      exact ⟨before, entry, after, hentries, hbefore, he⟩
  · rintro ⟨before, entry, after, hentries, hbefore, he⟩
    exact store_of_first_refused hentries hbefore he

/-- All configured bindings are complete, and the store holds them in their order as they are
written, or the first that is not complete gives the reason why there is no store. -/
theorem store_all_or_first_refusal (settings : Settings) :
    ((∃ store, settings.store = .ok store) ↔ ∀ entry ∈ settings.bindings, entry.Complete) ∧
    (∀ store, settings.store = .ok store ↔
      settings.bindings = store.bindings.map .ofBinding ∧ ∀ b ∈ store.bindings, b.pattern ≠ []) ∧
    ∀ e, settings.store = .error e ↔
      ∃ before entry after, settings.bindings = before ++ entry :: after ∧
        (∀ entry ∈ before, entry.Complete) ∧ entry.Refused e := by
  refine ⟨⟨?_, ?_⟩, fun _ => store_eq_ok_iff, fun _ => store_eq_error_iff⟩
  · rintro ⟨store, hstore⟩
    exact complete_of_store hstore
  · intro h
    obtain ⟨store, hstore, -⟩ := exists_store_of_complete h
    exact ⟨store, hstore⟩

/-- Of the second entry the missing value counts and not the empty pattern, and the third entry is
not looked at. -/
example : Settings.store ⟨"", .pretty, "", [⟨some " ", some "", some false⟩,
    ⟨some "", none, none⟩, ⟨none, some "x", none⟩]⟩ = .error (.missingValue []) :=
  rfl

end Settings

end Interpolation
