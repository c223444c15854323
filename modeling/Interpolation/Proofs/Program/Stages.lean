import Interpolation.Program
import Interpolation.Proofs.Backend.Laws
import Interpolation.Proofs.Program.Logging
import Interpolation.Proofs.Resolution.Safety
import Interpolation.Proofs.Settings.Bindings

/-!
The stages of a run. The first to fail is reported, whatever those after it would have done.
-/
namespace Interpolation

open Text

private theorem Store.render?_nil (store : Store) (mode : Mode) :
    store.render? [] mode = some ⟨[], 0⟩ := by
  have hresolve : ∀ policy, resolve? [] store.bindings policy = some ⟨[], 0⟩ := by
    intro policy
    have horder : order (scan []) = [] := List.mergeSort_nil
    rw [resolve?, horder]
    rfl
  cases mode with
  | keepUnmatched => exact hresolve .keep
  | deleteUnmatched => exact hresolve .delete
  | optimization =>
    rw [render?, hresolve, hresolve]
    rfl

/-- A template and a store evaluate to what they are rendered as, the empty template too. -/
theorem evaluate?_some (template : Text) (store : Store) (mode : Option String) :
    evaluate? (some template) (some store) mode =
      (store.render? template (.ofName mode)).map fun resolution => some resolution.output := by
  rw [evaluate?]
  split
  · next h =>
    subst h
    rw [store.render?_nil]
    rfl
  · rfl

private theorem fromUTF8?_utf8Encode (t : Text) :
    String.fromUTF8? t.utf8Encode = some (.ofList t) := by
  have hvalid : t.utf8Encode.IsValidUTF8 := .intro t rfl
  rw [String.fromUTF8?, dif_pos hvalid]
  rfl

namespace Invocation

variable {libs : Libraries}

/-- All stages succeed, with these settings in this environment, this store and this template. -/
structure Succeeds (invocation : Invocation libs) (settings : Settings) (environment : Environment)
    (store : Store) (template : Text) : Prop where
  loads : invocation.loaded = .ok (settings, environment)
  usable : libs.filters.Usable environment settings.level
  accepted : settings.store = .ok store
  reads : invocation.input = template.utf8Encode

/-- The first stage that fails, with its failure. Of the configured bindings it is the first faulty
one that counts. -/
inductive FailsFirst (invocation : Invocation libs) : Failure libs → Prop
  | settings {e : libs.settings.Error} (h : invocation.loaded = .error (.error e)) :
      FailsFirst invocation (.settings e)
  | logging {settings : Settings} {environment : Environment} {reason : String}
      (hloaded : invocation.loaded = .ok (settings, environment))
      (h : ¬ libs.filters.Usable environment settings.level)
      (hreason : libs.filters.parse settings.level = .error (.error reason)) :
      FailsFirst invocation (.logging (.invalidFilter settings.level reason))
  | binding {settings : Settings} {environment : Environment}
      (hloaded : invocation.loaded = .ok (settings, environment))
      (hfilter : libs.filters.Usable environment settings.level)
      {before after : List BindingEntry} {entry : BindingEntry} {e : BindingError}
      (hentries : settings.bindings = before ++ entry :: after)
      (hbefore : ∀ entry ∈ before, ∀ e, ¬ entry.Refused e) (h : entry.Refused e) :
      FailsFirst invocation (.binding e)
  | input {settings : Settings} {environment : Environment}
      (hloaded : invocation.loaded = .ok (settings, environment))
      (hfilter : libs.filters.Usable environment settings.level)
      (hentries : ∀ entry ∈ settings.bindings, ∀ e, ¬ entry.Refused e)
      (h : ¬ invocation.input.IsValidUTF8) : FailsFirst invocation .input

/-- A library breaks off the run: while the settings are read or while the log filter is. -/
inductive Breaks (invocation : Invocation libs) : Prop
  | settings (h : invocation.loaded = .error .panic)
  | logging {settings : Settings} {environment : Environment}
      (hloaded : invocation.loaded = .ok (settings, environment))
      (h : libs.filters.Breaks environment settings.level)

def Fits (invocation : Invocation libs) : Prop :=
  ∀ settings environment store template,
    invocation.Succeeds settings environment store template →
      store.RenderFits template (.ofName (some settings.mode))

section

variable {invocation : Invocation libs} {settings : Settings} {environment : Environment}
  {store : Store} {template : Text}

/-! ## What a run comes to, by the results of its stages -/

private theorem run_of_settings {abort : Abort libs.settings.Error}
    (h : invocation.loaded = .error abort) :
    invocation.run = .error (abort.map .settings) := by
  rw [run, h]
  rfl

variable (hloaded : invocation.loaded = .ok (settings, environment))

include hloaded

private theorem run_of_logging {abort : Abort LoggingError}
    (h : startLogging libs.filters environment settings.format settings.level = .error abort) :
    invocation.run = .error (abort.map .logging) := by
  rw [run, hloaded]
  simp only [Except.mapError, bind, Except.bind, h]

variable (hlogging : startLogging libs.filters environment settings.format settings.level = .ok ())

include hlogging

private theorem run_of_store {e : BindingError} (h : settings.store = .error e) :
    invocation.run = .error (.error (.binding e)) := by
  rw [run, hloaded]
  simp only [Except.mapError, bind, Except.bind, hlogging, h]

private theorem run_of_input (hstore : settings.store = .ok store)
    (h : ¬ invocation.input.IsValidUTF8) : invocation.run = .error (.error .input) := by
  have hinput : String.fromUTF8? invocation.input = none := by
    rw [String.fromUTF8?, dif_neg h]
  rw [run, hloaded]
  simp only [Except.mapError, bind, Except.bind, hlogging, hstore, hinput]
  rfl

private theorem run_of_render (hstore : settings.store = .ok store)
    (htemplate : invocation.input = template.utf8Encode) {resolution : Resolution}
    (hrender : store.render? template (.ofName (some settings.mode)) = some resolution) :
    invocation.run = .ok resolution.output := by
  have hinput : String.fromUTF8? invocation.input = some (.ofList template) := by
    rw [htemplate, fromUTF8?_utf8Encode]
  rw [run, hloaded]
  simp only [Except.mapError, bind, Except.bind, hlogging, hstore, hinput, String.toList_ofList,
    evaluate?_some, hrender]
  rfl

end

section

variable {invocation : Invocation libs} {settings : Settings} {environment : Environment}
  {store : Store} {template : Text}

/-- A library breaks off the run, or all stages succeed, or one is the first to fail. -/
theorem succeeds_or_failsFirst (hunbroken : ¬ invocation.Breaks) :
    (∃ settings environment store template,
        invocation.Succeeds settings environment store template) ∨
      ∃ failure, invocation.FailsFirst failure := by
  cases hloaded : invocation.loaded with
  | error abort =>
    cases abort with
    | error e => exact .inr ⟨_, .settings hloaded⟩
    | panic => exact absurd (.settings hloaded) hunbroken
  | ok loaded =>
    obtain ⟨settings, environment⟩ := loaded
    by_cases hfilter : libs.filters.Usable environment settings.level
    · rcases BindingEntry.refused_cases settings.bindings with
        haccepted | ⟨before, entry, after, e, hentries, hbefore, he⟩
      · obtain ⟨bindings, -, hstore⟩ := Store.foldlM_addEntry {} haccepted
        by_cases hinput : invocation.input.IsValidUTF8
        · obtain ⟨template, htemplate⟩ := hinput
          exact .inl ⟨settings, environment, _, template, hloaded, hfilter, hstore, htemplate⟩
        · exact .inr ⟨_, .input hloaded hfilter haccepted hinput⟩
      · exact .inr ⟨_, .binding hloaded hfilter hentries hbefore he⟩
    · obtain ⟨-, reason, hreason⟩ :=
        refused_of_not_usable (fun hbreaks => hunbroken (.logging hloaded hbreaks)) hfilter
      exact .inr ⟨_, .logging hloaded hfilter hreason⟩

variable (laws : libs.filters.Lawful)

include laws

private theorem logs_of_usable (hunbroken : ¬ invocation.Breaks)
    (hloaded : invocation.loaded = .ok (settings, environment))
    (h : libs.filters.Usable environment settings.level) :
    startLogging libs.filters environment settings.format settings.level = .ok () :=
  startLogging_of_usable laws (fun hbreaks => hunbroken (.logging hloaded hbreaks)) h

theorem run_of_failsFirst (hunbroken : ¬ invocation.Breaks) {failure : Failure libs}
    (h : invocation.FailsFirst failure) : invocation.run = .error (.error failure) := by
  cases h with
  | settings h => exact run_of_settings h
  | logging hloaded h hreason =>
    obtain ⟨hunfiltered, -⟩ :=
      refused_of_not_usable (fun hbreaks => hunbroken (.logging hloaded hbreaks)) h
    exact run_of_logging hloaded (startLogging_of_refused laws hunfiltered hreason)
  | binding hloaded hfilter hentries hbefore h =>
    apply run_of_store hloaded (logs_of_usable laws hunbroken hloaded hfilter)
    rw [Settings.store, hentries]
    exact Store.foldlM_addEntry_of_refused {} hbefore h
  | input hloaded hfilter hentries h =>
    obtain ⟨bindings, -, hstore⟩ := Store.foldlM_addEntry {} hentries
    exact run_of_input hloaded (logs_of_usable laws hunbroken hloaded hfilter) hstore h

theorem run_of_breaks (h : invocation.Breaks) : invocation.run = .error .panic := by
  cases h with
  | settings h => exact run_of_settings h
  | logging hloaded h => exact run_of_logging hloaded (startLogging_of_breaks laws h)

theorem run_of_succeeds (hunbroken : ¬ invocation.Breaks)
    (h : invocation.Succeeds settings environment store template) {resolution : Resolution}
    (hrender : store.render? template (.ofName (some settings.mode)) = some resolution) :
    invocation.run = .ok resolution.output :=
  run_of_render h.loads (logs_of_usable laws hunbroken h.loads h.usable) h.accepted h.reads hrender

omit laws in
private theorem Succeeds.unique {settings' : Settings} {environment' : Environment}
    {store' : Store} {template' : Text}
    (h : invocation.Succeeds settings environment store template)
    (h' : invocation.Succeeds settings' environment' store' template') :
    settings = settings' ∧ store = store' ∧ template = template' := by
  have hsettings : settings = settings' :=
    congrArg Prod.fst (Except.ok.inj (h.loads.symm.trans h'.loads))
  subst hsettings
  have hstore : store = store' := Except.ok.inj (h.accepted.symm.trans h'.accepted)
  have hread := fromUTF8?_utf8Encode template
  rw [← h.reads, h'.reads, fromUTF8?_utf8Encode] at hread
  exact ⟨rfl, hstore, (String.ofList_injective (Option.some.inj hread)).symm⟩

omit laws in
private theorem Succeeds.fits (h : invocation.Succeeds settings environment store template)
    (hrender : store.RenderFits template (.ofName (some settings.mode))) : invocation.Fits := by
  intro settings' environment' store' template' h'
  obtain ⟨rfl, rfl, rfl⟩ := h.unique h'
  exact hrender

end

/-- What a run leaves behind is the rendering of its input, or the failure of the first stage that
fails, unless a library breaks it off. -/
theorem outcome_of_stages (laws : libs.filters.Lawful) (invocation : Invocation libs)
    (hfits : invocation.Fits) :
    (¬ invocation.Breaks →
      (invocation.outcome.code = 0 ↔ ∃ settings environment store template,
        invocation.Succeeds settings environment store template) ∧
      (∀ settings environment store template,
        invocation.Succeeds settings environment store template →
          ∃ resolution, store.render? template (.ofName (some settings.mode)) = some resolution ∧
            invocation.outcome = ⟨0, resolution.output, none⟩) ∧
      ((¬ ∃ settings environment store template,
          invocation.Succeeds settings environment store template) →
        ∃ failure, invocation.FailsFirst failure) ∧
      ∀ failure, invocation.FailsFirst failure → invocation.outcome = ⟨1, [], some failure⟩) ∧
    (invocation.Breaks → invocation.outcome = ⟨101, [], none⟩) := by
  refine ⟨fun hunbroken => ?_, fun hbreaks => ?_⟩
  · have hsucceeds : ∀ settings environment store template,
        invocation.Succeeds settings environment store template →
          ∃ resolution, store.render? template (.ofName (some settings.mode)) = some resolution ∧
            invocation.outcome = ⟨0, resolution.output, none⟩ := by
      intro settings environment store template h
      have hsome := Store.render?_isSome (hfits settings environment store template h)
      obtain ⟨resolution, hrender⟩ := Option.isSome_iff_exists.1 hsome
      refine ⟨resolution, hrender, ?_⟩
      rw [outcome, run_of_succeeds laws hunbroken h hrender]
    have hfails : ∀ failure, invocation.FailsFirst failure →
        invocation.outcome = ⟨1, [], some failure⟩ := by
      intro failure h
      rw [outcome, run_of_failsFirst laws hunbroken h]
    refine ⟨⟨?_, ?_⟩, hsucceeds, (succeeds_or_failsFirst hunbroken).resolve_left, hfails⟩
    · intro hcode
      rcases succeeds_or_failsFirst hunbroken with h | ⟨failure, h⟩
      · exact h
      · rw [hfails failure h] at hcode
        cases hcode
    · rintro ⟨settings, environment, store, template, h⟩
      obtain ⟨resolution, -, houtcome⟩ := hsucceeds settings environment store template h
      rw [houtcome]
  · rw [outcome, run_of_breaks laws hbreaks]

section

open Backend

instance : DecidableEq libraries.settings.Error := inferInstanceAs (DecidableEq Fault)

instance : DecidableEq libraries.filters.Filter := inferInstanceAs (DecidableEq String)

private theorem not_breaks_of_valid {invocation : Invocation libs} {settings : Settings}
    {environment : Environment} (hloaded : invocation.loaded = .ok (settings, environment))
    (hlevel : libs.filters.Valid settings.level)
    (hvariable : ∀ directives, environment.var? FilterLibrary.variableName = some directives →
      libs.filters.parse directives ≠ .error .panic) : ¬ invocation.Breaks := by
  intro h
  cases h with
  | settings h => cases hloaded.symm.trans h
  | logging hloaded' h =>
    cases Except.ok.inj (hloaded.symm.trans hloaded')
    rcases h with ⟨directives, hvar, hpanic⟩ | ⟨-, hpanic⟩
    · exact hvariable directives hvar hpanic
    · obtain ⟨filter, hfilter⟩ := hlevel
      cases hfilter.symm.trans hpanic

/-- An invalid filter in the variable gives way to the configured one. In the second run a binding
without a value comes before input that is no text, and is what is reported. -/
theorem outcome_of_stages_overridden :
    let accepted := "[[bindings]]\npattern = \"a\"\nvalue = \"é\"\n"
    let faulty := accepted ++ "[[bindings]]\npattern = \"b\"\n"
    let rendered : Invocation libraries :=
      ⟨.ofTexts [("config/default.toml", accepted)],
        .ofList [(.unicode "RUST_LOG", .unicode "a=loud")], ['x', '$', '{', 'A', '}'].utf8Encode⟩
    let refused : Invocation libraries :=
      ⟨.ofTexts [("config/default.toml", faulty)],
        .ofList [(.unicode "LOGGING_LEVEL", .unicode "warn")], ⟨#[0xff]⟩⟩
    (∃ resolution, Store.render? ⟨[⟨['a'], ['é'], .unspecified⟩]⟩ ['x', '$', '{', 'A', '}']
        .deleteUnmatched = some resolution ∧ rendered.outcome = ⟨0, resolution.output, none⟩) ∧
      refused.outcome = ⟨1, [], some (.binding (.missingValue ['b']))⟩ := by
  intro accepted faulty rendered refused
  constructor
  · have horder : order (scan ['x', '$', '{', 'A', '}']) = [⟨2, 4, ['A']⟩] :=
      order_eq_of_perm (by decide) (by decide) (by decide)
    have hlevel : libraries.filters.Valid "info" := ⟨"info", by decide +kernel⟩
    have hsucceeds : rendered.Succeeds
        ⟨"delete-unmatched", .pretty, "info", [⟨some "a", some "é", none⟩]⟩ rendered.environment
        ⟨[⟨['a'], ['é'], .unspecified⟩]⟩ ['x', '$', '{', 'A', '}'] :=
      ⟨by decide +kernel, .inr hlevel, by decide, rfl⟩
    have hfits : rendered.Fits := by
      apply hsucceeds.fits
      intro policy _
      rw [horder]
      cases policy <;> exact ⟨by decide, by decide⟩
    have hunbroken : ¬ rendered.Breaks := by
      apply not_breaks_of_valid hsucceeds.loads hlevel
      intro directives hvar
      obtain rfl : "a=loud" = directives := Option.some.inj hvar
      decide +kernel
    obtain ⟨-, hrenders, -⟩ :=
      (outcome_of_stages filterLibrary_lawful rendered hfits).1 hunbroken
    exact hrenders _ _ _ _ hsucceeds
  · have hlevel : libraries.filters.Valid "warn" := ⟨"warn", by decide +kernel⟩
    have hloaded : refused.loaded = .ok (⟨"delete-unmatched", .pretty, "warn",
        [⟨some "a", some "é", none⟩, ⟨some "b", none, none⟩]⟩, refused.environment) := by
      decide +kernel
    have hfits : refused.Fits := by
      intro settings environment store template h
      obtain rfl : settings = _ := congrArg Prod.fst (Except.ok.inj (h.loads.symm.trans hloaded))
      cases h.accepted
    have hunbroken : ¬ refused.Breaks :=
      not_breaks_of_valid hloaded hlevel fun directives hvar => nomatch hvar
    have hbefore : ∀ entry ∈ [(⟨some "a", some "é", none⟩ : BindingEntry)],
        ∀ e, ¬ entry.Refused e := by
      intro entry hentry e
      obtain rfl := List.mem_singleton.1 hentry
      exact Refused.not_of_ne_nil (by decide)
    have hentries : [⟨some "a", some "é", none⟩, ⟨some "b", none, none⟩] =
        [(⟨some "a", some "é", none⟩ : BindingEntry)] ++ ⟨some "b", none, none⟩ :: [] := rfl
    have hfails : refused.FailsFirst (.binding (.missingValue ['b'])) :=
      .binding hloaded (.inr hlevel) hentries hbefore (.noValue ['b'])
    exact ((outcome_of_stages filterLibrary_lawful refused hfits).1 hunbroken).2.2.2 _ hfails

/-- A directive of the variable begins with a blank character of two bytes. All stages succeed, for
the configured filter is valid, but the run breaks off at the directive. -/
theorem outcome_of_blank_directive :
    let invocation : Invocation libraries :=
      ⟨{}, .ofList [(.unicode "RUST_LOG", .unicode "\u00a0a=info")],
        ['p', 'l', 'a', 'i', 'n'].utf8Encode⟩
    (∃ settings environment store template,
        invocation.Succeeds settings environment store template) ∧
      invocation.outcome.code = 101 := by
  intro invocation
  constructor
  · refine ⟨⟨"delete-unmatched", .pretty, "info", []⟩, invocation.environment, {},
      ['p', 'l', 'a', 'i', 'n'], ?_⟩
    exact ⟨by decide +kernel, .inr ⟨"info", by decide +kernel⟩, rfl, rfl⟩
  · decide +kernel

end

end Invocation

end Interpolation
