import Interpolation.Session
import Interpolation.Proofs.Binding.Refusal

/-!
A store as the log of the insertions that it accepted.
-/
namespace Interpolation

namespace Command

/-- The parts of the binding that a command asks to insert. -/
def parts? : Command → Option (Option Text × Option Text × CaseSensitivity)
  | .add pattern value flag => some (pattern, value, .ofFlag flag)
  | .insert pattern value c => some (some pattern, some value, c)
  | _ => none

/-- The binding that a command has inserted, as its answer tells. -/
def logged (command : Command) : Reply → Option Binding
  | .done => do
    let (pattern, value, c) ← command.parts?
    return ⟨← pattern, ← value, c⟩
  | _ => none

end Command

namespace Store

/-- The bindings of the insertions that were accepted, in their order. -/
def log (store : Store) (commands : List Command) : List Binding :=
  (commands.zip (store.performAll commands)).filterMap fun (command, reply) =>
    command.logged reply

private theorem log_cons (store : Store) (command : Command) (commands : List Command) :
    store.log (command :: commands) =
      (command.logged (store.perform command).1).toList ++
        (store.perform command).2.log commands := by
  rw [log, performAll]
  dsimp only
  rw [List.zip_cons_cons, List.filterMap_cons]
  dsimp only
  cases command.logged (store.perform command).1 <;> rfl

section

variable {command : Command} {pattern value : Option Text} {c : CaseSensitivity}

/-- A refused insertion leaves the store as it was. -/
private theorem perform_of_refused (store : Store) (h : command.parts? = some (pattern, value, c))
    {e : BindingError} (he : Refused pattern value e) :
    store.perform command = (.refused e, store) := by
  cases command with
  | add pattern' value' flag =>
    cases h
    rw [perform, add_of_refused he]
    rfl
  | insert pattern' value' c' =>
    cases h
    cases he
    rfl
  | _ => cases h

/-- Every other insertion is accepted and puts its binding last. -/
private theorem perform_of_ne_nil (store : Store) {p v : Text}
    (h : command.parts? = some (some p, some v, c)) (hp : p ≠ []) :
    store.perform command = (.done, ⟨store.bindings ++ [⟨p, v, c⟩]⟩) := by
  cases command with
  | add pattern' value' flag =>
    cases h
    rw [perform, add_of_ne_nil _ hp]
    rfl
  | insert pattern' value' c' =>
    cases h
    rw [perform, insert_of_ne_nil _ hp]
    rfl
  | _ => cases h

private theorem perform_fst_eq_refused_iff (store : Store)
    (h : command.parts? = some (pattern, value, c)) {e : BindingError} :
    (store.perform command).1 = .refused e ↔ Refused pattern value e := by
  constructor
  · intro hreply
    rcases refused_or_exists pattern value with ⟨e', he'⟩ | ⟨p, v, rfl, rfl, hp⟩
    · rw [store.perform_of_refused h he'] at hreply
      cases hreply
      exact he'
    · rw [store.perform_of_ne_nil h hp] at hreply
      cases hreply
  · intro he
    rw [store.perform_of_refused h he]

end

/-- Commands that insert nothing only look at the store. -/
private theorem perform_snd_of_parts?_eq_none (store : Store) {command : Command}
    (h : command.parts? = none) : (store.perform command).2 = store := by
  cases command with
  | add => cases h
  | insert => cases h
  | _ => rfl

private theorem bindings_perform (store : Store) (command : Command) :
    (store.perform command).2.bindings =
      store.bindings ++ (command.logged (store.perform command).1).toList := by
  cases hparts : command.parts? with
  | none =>
    have hlogged : command.logged (store.perform command).1 = none := by
      unfold Command.logged
      split
      · rw [hparts]
        rfl
      · rfl
    rw [store.perform_snd_of_parts?_eq_none hparts, hlogged]
    simp
  | some parts =>
    obtain ⟨pattern, value, c⟩ := parts
    rcases refused_or_exists pattern value with ⟨e, he⟩ | ⟨p, v, rfl, rfl, hp⟩
    · rw [store.perform_of_refused hparts he]
      simp [Command.logged]
    · rw [store.perform_of_ne_nil hparts hp]
      simp [Command.logged, hparts]

/-- The log grows with the store. -/
private theorem bindings_after (store : Store) (commands : List Command) :
    (store.after commands).bindings = store.bindings ++ store.log commands := by
  induction commands generalizing store with
  | nil => simp [after, log]
  | cons command commands ih =>
    have hrest := ih (store.perform command).2
    rw [bindings_perform, List.append_assoc, ← log_cons] at hrest
    exact hrest

private theorem pattern_ne_nil_of_logged (store : Store) {command : Command} {b : Binding}
    (h : command.logged (store.perform command).1 = some b) : b.pattern ≠ [] := by
  cases hparts : command.parts? with
  | none =>
    unfold Command.logged at h
    split at h
    · rw [hparts] at h
      cases h
    · cases h
  | some parts =>
    obtain ⟨pattern, value, c⟩ := parts
    rcases refused_or_exists pattern value with ⟨e, he⟩ | ⟨p, v, rfl, rfl, hp⟩
    · rw [store.perform_of_refused hparts he] at h
      cases h
    · rw [store.perform_of_ne_nil hparts hp] at h
      unfold Command.logged at h
      rw [hparts] at h
      cases h
      exact hp

private theorem pattern_ne_nil_of_mem_log (store : Store) (commands : List Command) :
    ∀ b ∈ store.log commands, b.pattern ≠ [] := by
  induction commands generalizing store with
  | nil => simp [log]
  | cons command commands ih =>
    intro b hb
    rw [log_cons, List.mem_append, Option.mem_toList] at hb
    rcases hb with hb | hb
    · exact store.pattern_ne_nil_of_logged hb
    · exact ih _ b hb

end Store

/-- The flag is not lost in what is stored. -/
private theorem CaseSensitivity.ofFlag_injective {flag flag' : Option Bool}
    (h : ofFlag flag = ofFlag flag') : flag = flag' := by
  rcases flag with _ | _ | _ <;> rcases flag' with _ | _ | _ <;> simp_all [ofFlag]

/-- The store after any commands holds what was accepted, in order. Whatever came before, an
insertion is refused for the fault of its parts alone, and is then as if it had not been asked for;
without a fault its binding comes last. -/
theorem store_is_log (commands : List Command) :
    (Store.after {} commands).bindings = Store.log {} commands ∧
    (∀ b ∈ (Store.after {} commands).bindings, b.pattern ≠ []) ∧
    (∀ command pattern value c, command.parts? = some (pattern, value, c) →
      (∀ e, ((Store.after {} commands).perform command).1 = .refused e ↔
        Refused pattern value e) ∧
      (∀ e, Refused pattern value e →
        ((Store.after {} commands).perform command).2 = Store.after {} commands) ∧
      ((∀ e, ¬ Refused pattern value e) →
        ∃ p v, pattern = some p ∧ value = some v ∧
          (Store.after {} commands).perform command =
            (.done, ⟨(Store.after {} commands).bindings ++ [⟨p, v, c⟩]⟩))) ∧
    ∀ flag flag', CaseSensitivity.ofFlag flag = .ofFlag flag' → flag = flag' := by
  have hlog := Store.bindings_after {} commands
  rw [List.nil_append] at hlog
  refine ⟨hlog, ?_, ?_, fun _ _ => CaseSensitivity.ofFlag_injective⟩
  · rw [hlog]
    exact Store.pattern_ne_nil_of_mem_log {} commands
  · intro command pattern value c hparts
    refine ⟨fun e => Store.perform_fst_eq_refused_iff _ hparts, ?_, ?_⟩
    · intro e he
      rw [Store.perform_of_refused _ hparts he]
    · intro hnone
      rcases refused_or_exists pattern value with ⟨e, he⟩ | ⟨p, v, rfl, rfl, hp⟩
      · exact absurd he (hnone e)
      · exact ⟨p, v, rfl, rfl, Store.perform_of_ne_nil _ hparts hp⟩

/-- Between insertions that are accepted, a blank pattern and an empty value among them, come
refusals, a copy and a rendering. An empty pattern without a value is refused for the value. -/
theorem store_is_log_mixed :
    let commands : List Command := [.insert [' '] [] .sensitive, .add none none (some true),
      .snapshot, .add (some ['a']) (some [' ', 'b']) none, .add (some []) (some ['x']) none,
      .render ['$', '{', 'a', '}'] .optimization, .insert ['a'] ['c'] .insensitive]
    Store.log {} commands = [⟨[' '], [], .sensitive⟩, ⟨['a'], [' ', 'b'], .unspecified⟩,
        ⟨['a'], ['c'], .insensitive⟩] ∧
      ((Store.after {} commands).perform (.add (some []) none none)).1 =
        .refused (.missingValue []) := by
  intro commands
  obtain ⟨hlog, -, hinsertions, -⟩ := store_is_log commands
  have hreply := (hinsertions (.add (some []) none none) (some []) none .unspecified rfl).1
    (.missingValue [])
  exact ⟨hlog.symm, hreply.2 (.noValue [])⟩

end Interpolation
