import Interpolation.Logging

/-!
When logging starts: with a valid filter in the environment, or else with a valid level.
-/
namespace Interpolation

namespace FilterLibrary

variable (lib : FilterLibrary) (environment : Environment) (level : String)

def Valid (directives : String) : Prop :=
  ∃ filter, lib.parse directives = .ok filter

/-- A filter is there to be used: the one of the environment, if its variable is set and valid, or
else the configured one. -/
def Usable : Prop :=
  (∃ directives, environment.var? variableName = some directives ∧ lib.Valid directives) ∨
    lib.Valid level

/-- The environment has no filter. Its variable is not set, or is refused. -/
def Unfiltered : Prop :=
  ∀ directives, environment.var? variableName = some directives →
    ∃ reason, lib.parse directives = .error (.error reason)

/-- Reading the filter of the environment breaks off, or reading the configured one in its place. -/
def Breaks : Prop :=
  (∃ directives, environment.var? variableName = some directives ∧
    lib.parse directives = .error .panic) ∨
  lib.Unfiltered environment ∧ lib.parse level = .error .panic

end FilterLibrary

open FilterLibrary

variable {lib : FilterLibrary} (laws : lib.Lawful) {environment : Environment}
  {format : LogFormat} {level : String}

include laws

theorem logFilter_of_var? {directives : String}
    (h : environment.var? variableName = some directives) :
    logFilter lib environment level =
      match lib.parse directives with
      | .ok filter => .ok filter
      | .error .panic => .error .panic
      | .error (.error _) => (lib.parse level).mapError (.map (.invalidFilter level)) := by
  obtain ⟨reword, hreword⟩ := laws.ofEnvironment_set h
  rw [logFilter, hreword]
  cases lib.parse directives with
  | ok filter => rfl
  | error abort => cases abort <;> rfl

theorem logFilter_of_unfiltered (h : lib.Unfiltered environment) :
    logFilter lib environment level =
      (lib.parse level).mapError (.map (.invalidFilter level)) := by
  cases hvar : environment.var? variableName with
  | none =>
    obtain ⟨e, he⟩ := laws.ofEnvironment_unset hvar
    rw [logFilter, he]
  | some directives =>
    obtain ⟨reason, hreason⟩ := h directives hvar
    rw [logFilter_of_var? laws hvar, hreason]

private theorem startLogging_of_logFilter {filter : lib.Filter}
    (h : logFilter lib environment level = .ok filter) :
    startLogging lib environment format level = .ok () := by
  rw [startLogging, h]
  change (lib.install format filter).mapError _ = _
  rw [laws.install_eq]
  rfl

theorem startLogging_of_breaks (h : lib.Breaks environment level) :
    startLogging lib environment format level = .error .panic := by
  have hfilter : logFilter lib environment level = .error .panic := by
    rcases h with ⟨directives, hvar, hpanic⟩ | ⟨hunfiltered, hpanic⟩
    · rw [logFilter_of_var? laws hvar, hpanic]
    · rw [logFilter_of_unfiltered laws hunfiltered, hpanic]
      rfl
  rw [startLogging, hfilter]
  rfl

omit laws in
/-- Unless something breaks off, the environment has a valid filter or none. -/
private theorem valid_or_unfiltered (h : ¬ lib.Breaks environment level) :
    (∃ directives, environment.var? variableName = some directives ∧ lib.Valid directives) ∨
      lib.Unfiltered environment := by
  cases hvar : environment.var? variableName with
  | none => exact .inr fun _ h => nomatch hvar.symm.trans h
  | some directives =>
    cases hparse : lib.parse directives with
    | ok filter => exact .inl ⟨directives, rfl, filter, hparse⟩
    | error abort =>
      cases abort with
      | panic => exact absurd (.inl ⟨directives, hvar, hparse⟩) h
      | error reason =>
        refine .inr fun other hother => ⟨reason, ?_⟩
        rw [← Option.some.inj (hvar.symm.trans hother)]
        exact hparse

theorem startLogging_of_usable (hunbroken : ¬ lib.Breaks environment level)
    (h : lib.Usable environment level) : startLogging lib environment format level = .ok () := by
  rcases valid_or_unfiltered hunbroken with ⟨directives, hvar, filter, hfilter⟩ | hunfiltered
  · have hlog : logFilter lib environment level = .ok filter := by
      rw [logFilter_of_var? laws hvar, hfilter]
    exact startLogging_of_logFilter laws hlog
  · obtain ⟨filter, hfilter⟩ : lib.Valid level := by
      refine h.resolve_left ?_
      rintro ⟨directives, hvar, filter, hfilter⟩
      obtain ⟨reason, hreason⟩ := hunfiltered directives hvar
      cases hfilter.symm.trans hreason
    have hlog : logFilter lib environment level = .ok filter := by
      rw [logFilter_of_unfiltered laws hunfiltered, hfilter]
      rfl
    exact startLogging_of_logFilter laws hlog

theorem startLogging_of_refused (hunfiltered : lib.Unfiltered environment) {reason : String}
    (h : lib.parse level = .error (.error reason)) :
    startLogging lib environment format level =
      .error (.error (.invalidFilter level reason)) := by
  rw [startLogging, logFilter_of_unfiltered laws hunfiltered, h]
  rfl

omit laws in
/-- Where nothing breaks off and there is no filter to be used, the environment has none and the
configured one is refused. -/
theorem refused_of_not_usable (hunbroken : ¬ lib.Breaks environment level)
    (h : ¬ lib.Usable environment level) :
    lib.Unfiltered environment ∧ ∃ reason, lib.parse level = .error (.error reason) := by
  rw [Usable, not_or] at h
  have hunfiltered := (valid_or_unfiltered hunbroken).resolve_left h.1
  refine ⟨hunfiltered, ?_⟩
  cases hparse : lib.parse level with
  | ok filter => exact absurd ⟨filter, hparse⟩ h.2
  | error abort =>
    cases abort with
    | panic => exact absurd (.inr ⟨hunfiltered, hparse⟩) hunbroken
    | error reason => exact ⟨reason, rfl⟩

end Interpolation
