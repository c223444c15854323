import Interpolation.Proofs.Backend.Merging
import Mathlib.Data.List.Induction
import Mathlib.Data.List.Nodup

/-!
The runnable libraries are as they have to be.
-/
namespace Interpolation

/-! ## The environment as a source -/

namespace Environment

variable {environment : Environment} {texts : List (String × String)} {name value : String}

private theorem text?_eq_some_iff {raw : RawText} :
    raw.text? = some value ↔ raw = .unicode value := by
  cases raw with
  | unicode text => simp [RawText.text?]
  | other bytes h => simp [RawText.text?]

private theorem entries_eq_of_texts? (h : environment.texts? = some texts) :
    environment.entries = texts.map fun text => (.unicode text.1, .unicode text.2) := by
  unfold texts? at h
  generalize environment.entries = entries at h ⊢
  induction entries generalizing texts with
  | nil =>
    cases h
    rfl
  | cons entry rest ih =>
    rw [List.mapM_cons] at h
    obtain ⟨text, htext, h⟩ := Option.bind_eq_some_iff.1 h
    obtain ⟨texts, htexts, h⟩ := Option.bind_eq_some_iff.1 h
    obtain ⟨name, hname, htext⟩ := Option.bind_eq_some_iff.1 htext
    obtain ⟨value, hvalue, htext⟩ := Option.bind_eq_some_iff.1 htext
    cases h
    cases htext
    rw [List.map_cons, ← ih htexts, ← text?_eq_some_iff.1 hname, ← text?_eq_some_iff.1 hvalue]

private theorem mem_of_texts? (h : environment.texts? = some texts) :
    (name, value) ∈ texts ↔ environment.var? name = some value := by
  have hentries := entries_eq_of_texts? h
  have hinj : Function.Injective fun text : String × String =>
      (RawText.unicode text.1, RawText.unicode text.2) := by
    rintro ⟨name, value⟩ ⟨name', value'⟩ heq
    cases heq
    rfl
  rw [← List.mem_map_of_injective hinj, ← hentries, var?, Option.bind_eq_some_iff]
  constructor
  · intro hmem
    refine ⟨.unicode value, ?_, rfl⟩
    obtain ⟨front, back, hsplit⟩ := List.append_of_mem hmem
    refine List.lookup_eq_some_iff.2 ⟨front, back, hsplit, fun entry hentry => ?_⟩
    -- Each variable is there once, so no earlier one has this name.
    have hnodup := environment.nodup
    rw [hsplit, List.map_append, List.nodup_append] at hnodup
    rw [bne_iff_ne]
    exact (hnodup.2.2 _ (List.mem_map_of_mem hentry) _ List.mem_cons_self).symm
  · rintro ⟨raw, hlookup, htext⟩
    obtain ⟨front, back, hsplit, -⟩ := List.lookup_eq_some_iff.1 hlookup
    rw [hsplit, ← text?_eq_some_iff.1 htext]
    exact List.mem_append_right _ List.mem_cons_self

private theorem entriesOf_append (texts : List (String × String)) (name value : String) :
    entriesOf (texts ++ [(name, value)]) =
      (entriesOf texts).put (keyOfVariable name) (.ofVariable value) :=
  List.foldl_concat ..

private theorem of_mem_entriesOf {entry : String × Value} (h : entry ∈ entriesOf texts) :
    ∃ name value, (name, value) ∈ texts ∧ entry = (keyOfVariable name, .ofVariable value) := by
  induction texts using List.reverseRecOn with
  | nil => cases h
  | append_singleton texts text ih =>
    rw [entriesOf_append] at h
    rcases Entries.mem_of_mem_put h with rfl | h
    · exact ⟨text.1, text.2, List.mem_append_right _ List.mem_cons_self, rfl⟩
    · obtain ⟨name, value, hmem, hentry⟩ := ih h
      exact ⟨name, value, List.mem_append_left _ hmem, hentry⟩

private theorem mem_keys_entriesOf (h : (name, value) ∈ texts) :
    keyOfVariable name ∈ (entriesOf texts).map Prod.fst := by
  induction texts using List.reverseRecOn with
  | nil => cases h
  | append_singleton texts text ih =>
    rw [entriesOf_append, Entries.mem_keys_put]
    rcases List.mem_append.1 h with h | h
    · exact .inr (ih h)
    · rw [← List.mem_singleton.1 h]
      exact .inl rfl

private theorem nodup_entriesOf (texts : List (String × String)) :
    ((entriesOf texts).map Prod.fst).Nodup := by
  induction texts using List.reverseRecOn with
  | nil => exact List.nodup_nil
  | append_singleton texts text ih =>
    rw [entriesOf_append]
    exact Entries.nodup_put _ _ ih

end Environment

namespace Backend

theorem ofVariable_not_isTable (text : String) : ¬ (Value.ofVariable text).IsTable := by
  rintro ⟨entries, h⟩
  unfold Value.ofVariable at h
  split at h
  · cases h
  · cases h
  · split at h
    · cases h
    · cases hfloat : Number.float? text.toList with
      | none => rw [hfloat] at h; cases h
      | some x => rw [hfloat] at h; cases h

private theorem ofEnvironment_eq_ok {environment : Environment} {source : Entries Value}
    (h : settingsLibrary.ofEnvironment environment = .ok source) :
    ∃ texts, environment.texts? = some texts ∧ source = Environment.entriesOf texts := by
  change environment.texts?.elim _ _ = _ at h
  cases htexts : environment.texts? with
  | none => rw [htexts] at h; cases h
  | some texts => rw [htexts] at h; exact ⟨texts, rfl, (Except.ok.inj h).symm⟩

theorem variableLaws : settingsLibrary.VariableLaws where
  of_mem_environment h _ hentry := by
    obtain ⟨texts, htexts, rfl⟩ := ofEnvironment_eq_ok h
    obtain ⟨name, value, hmem, rfl⟩ := Environment.of_mem_entriesOf hentry
    exact ⟨name, value, (Environment.mem_of_texts? htexts).1 hmem, rfl⟩
  mem_environment h _ _ hvar := by
    obtain ⟨texts, htexts, rfl⟩ := ofEnvironment_eq_ok h
    exact Environment.mem_keys_entriesOf ((Environment.mem_of_texts? htexts).2 hvar)
  nodup_environment h := by
    obtain ⟨texts, -, rfl⟩ := ofEnvironment_eq_ok h
    exact Environment.nodup_entriesOf texts
  ofVariable_not_isTable := ofVariable_not_isTable

/-! ## The reader -/

private theorem lookup_filterMap (names : List String) (entries : Entries Value) (name : String) :
    (names.filterMap fun name => (entries.lookup name).map (name, ·)).lookup name =
      if name ∈ names then entries.lookup name else none := by
  induction names with
  | nil => rfl
  | cons first names ih =>
    by_cases hname : name = first
    · subst hname
      rw [if_pos List.mem_cons_self]
      cases hlookup : entries.lookup name with
      | none => rw [List.filterMap_cons_none (by rw [hlookup]; rfl), ih, hlookup, ite_self]
      | some value =>
        rw [List.filterMap_cons_some (by rw [hlookup]; rfl), List.lookup_cons, beq_self_eq_true]
    · have hmem : name ∈ first :: names ↔ name ∈ names := by simp [hname]
      cases hfirst : entries.lookup first with
      | none =>
        rw [List.filterMap_cons_none (by rw [hfirst]; rfl)]
        simp only [ih, hmem]
      | some value =>
        rw [List.filterMap_cons_some (by rw [hfirst]; rfl), List.lookup_cons,
          beq_eq_false_iff_ne.2 hname]
        simp only [ih, hmem]

private theorem nodup_filterMap {names : List String} (h : names.Nodup) (entries : Entries Value) :
    ((names.filterMap fun name => (entries.lookup name).map (name, ·)).map Prod.fst).Nodup := by
  rw [List.map_filterMap]
  apply h.filterMap
  intro first second key hfirst hsecond
  simp only [Option.map_map, Option.mem_def, Option.map_eq_some_iff] at hfirst hsecond
  obtain ⟨_, -, rfl⟩ := hfirst
  obtain ⟨_, -, rfl⟩ := hsecond
  rfl

theorem readerLaws : settingsLibrary.ReaderLaws where
  fields_table {names entries record} hnames h := by
    obtain rfl := Except.ok.inj h
    exact ⟨nodup_filterMap hnames entries, fun name hname => by
      rw [lookup_filterMap, if_pos hname]⟩
  items_eq {value items} h := by
    cases value with
    | array items' => rw [← Except.ok.inj h]
    | _ => cases h
  text_table _ _ h := by cases h
  choice_table {α choices entries x} := by
    constructor
    · intro h
      match entries, h with
      | [(key, value)], h => exact ⟨key, value, rfl, h⟩
    · rintro ⟨key, value, rfl, h⟩
      exact h
  choice_casing choices s s' h x := by
    change Value.toChoice choices (.string s) = .ok x ↔ Value.toChoice choices (.string s') = .ok x
    rw [Value.toChoice, Value.toChoice, h]

theorem lawful : settingsLibrary.Lawful :=
  ⟨layerLaws, pathLaws, variableLaws, readerLaws⟩

/-! ## Log filters -/

theorem filterLibrary_lawful : filterLibrary.Lawful where
  ofEnvironment_unset h := by
    unfold filterLibrary
    dsimp only
    rw [h]
    exact ⟨_, rfl⟩
  ofEnvironment_set {environment directives} h := by
    refine ⟨id, ?_⟩
    unfold filterLibrary
    dsimp only
    rw [h]
    change (LogFilter.check directives).map _ = ((LogFilter.check directives).map _).mapError _
    cases LogFilter.check directives with
    | ok => rfl
    | error abort => cases abort <;> rfl
  install_eq _ _ := rfl

end Backend

end Interpolation
