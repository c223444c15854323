import Interpolation.Proofs.Backend.Laws
import Interpolation.Proofs.Settings.Reading

/-!
Which layer decides a setting: for each field the last that sets it.
-/
namespace Interpolation.Settings

open SettingsLibrary Value

variable {Files : Type} {lib : SettingsLibrary Files}

private theorem forall_regular_of_perm {orders sources : List (Entries Value)}
    (h : List.Forall₂ List.Perm orders sources)
    (hregular : ∀ source ∈ sources, lib.Regular source) :
    ∀ order ∈ orders, lib.Regular order := by
  induction h with
  | nil => exact hregular
  | cons horder _ ih =>
    obtain ⟨hsource, hrest⟩ := List.forall_mem_cons.1 hregular
    exact List.forall_mem_cons.2 ⟨hsource.of_perm horder, ih hrest⟩

section

variable (laws : lib.Lawful) {sources : List (Entries Value)} {root : Value}
  (hregular : ∀ source ∈ sources, lib.Regular source)
  (h : lib.Stacked sources (.table []) root)

include laws hregular h

/-- A section that some source gives a field to comes to be a table, and the field settles to what
the sources give it. -/
theorem exists_field {setter : Setter} (hsetter : setter ∈ Setter.all)
    (hgiven : sources.flatMap (lib.givenIn setter.part setter.field) ≠ []) :
    ∃ entries value, root.get? setter.part = some (.table entries) ∧
      entries.lookup setter.field = some value ∧
      lib.Settles (sources.flatMap (lib.givenIn setter.part setter.field)) none (some value) := by
  obtain ⟨-, orders, horders, hsettles⟩ := h.settles laws ⟨[], rfl⟩
  have horderRegular := forall_regular_of_perm horders hregular
  have hpart := hsettles setter.part fun source hsource =>
    (hregular source hsource).byNames _ (part_mem_parts setter hsetter)
  have htables : ∀ value ∈ orders.flatMap (lib.given setter.part), value.IsTable := by
    intro value hvalue
    obtain ⟨order, horder, hvalue⟩ := List.mem_flatMap.1 hvalue
    exact (horderRegular order horder).isTable _ (part_mem_sections setter hsetter) value hvalue
  have honce : ∀ value ∈ orders.flatMap (lib.given setter.part),
      (value.entries.spelled setter.field).length ≤ 1 := by
    intro value hvalue
    obtain ⟨order, horder, hvalue⟩ := List.mem_flatMap.1 hvalue
    exact Nat.le_trans (length_spelled_le hvalue)
      ((horderRegular order horder).fields setter hsetter)
  obtain ⟨htable, hfields⟩ := hpart.fields laws.toLayerLaws htables ⟨[], rfl⟩
  have hfield := hfields setter.field honce
  rw [List.flatMap_assoc] at hfield
  change lib.Settles (orders.flatMap (lib.givenIn setter.part setter.field)) none _ at hfield
  rw [flatMap_eq_of_perm horders (fun horder => givenIn_perm horder _ _)
    fun source hsource => (hregular source hsource).fields setter hsetter] at hfield
  obtain ⟨value, hvalue⟩ := Option.isSome_iff_exists.1 (hfield.isSome hgiven)
  rw [hvalue] at hfield
  cases hroot : root.get? setter.part with
  | none =>
    rw [hroot] at hvalue
    cases hvalue
  | some part =>
    rw [hroot] at htable hvalue
    obtain ⟨entries, rfl⟩ := htable
    exact ⟨entries, value, rfl, hvalue, hfield⟩

/-- The bindings settle to what the sources give them. -/
theorem settles_bindings :
    lib.Settles (sources.flatMap (lib.given "bindings")) none (root.get? "bindings") := by
  obtain ⟨-, orders, horders, hsettles⟩ := h.settles laws ⟨[], rfl⟩
  have hbindings := hsettles "bindings" fun source hsource =>
    (hregular source hsource).byNames _ (by decide)
  rw [flatMap_eq_of_perm horders (fun horder => given_perm horder _)
    fun source hsource => (hregular source hsource).bindings] at hbindings
  exact hbindings

end

/-! ## The layers of a run -/

private theorem mem_of_last?_eq_some {values : List Value} {last : Value}
    (h : last? values = some last) : last ∈ values :=
  (List.mem_filter.1 (List.mem_of_getLast? h)).1

variable (lib) in
/-- The value of the last layer that sets a field: of the environment, or else of the configuration
of the run, or else of the common one. -/
def lastSet? (setter : Setter) (environment : Environment) (ofRun common : Entries Value) :
    Option Value :=
  ((environment.var? setter.name).map lib.ofVariable).or
    ((last? (lib.givenIn setter.part setter.field ofRun)).or
      (last? (lib.givenIn setter.part setter.field common)))

section

variable (laws : lib.Lawful) {environment : Environment} {top : Entries Value}
  (hsets : environment.SetsOnly) (htop : lib.ofEnvironment environment = .ok top)
  {setter : Setter} (hsetter : setter ∈ Setter.all) {standard : Value}
  (hstandard : defaults.lookup setter.key = some standard)

include laws hsets htop hsetter hstandard

private theorem last?_layers (ofRun common : Entries Value) :
    last? ([defaults, common, ofRun, top].flatMap (lib.givenIn setter.part setter.field)) =
      some ((lastSet? lib setter environment ofRun common).getD standard) := by
  have hdefaults : last? (lib.givenIn setter.part setter.field defaults) = some standard := by
    have hscalars : ∀ entry ∈ defaults, entry.2.setsNothing = false := by decide
    rw [plain_defaults.givenIn_eq laws hsetter, hstandard]
    exact last?_singleton (hscalars _ (Entries.mem_of_lookup hstandard))
  have hlast : last? (lib.givenIn setter.part setter.field top) =
      (environment.var? setter.name).map lib.ofVariable := by
    rw [(plain_environment laws hsets htop).givenIn_eq laws hsetter,
      lookup_environment laws hsets htop hsetter]
    cases environment.var? setter.name with
    | none => rfl
    | some value =>
      exact last?_singleton (setsNothing_of_not_isTable (laws.ofVariable_not_isTable value))
  rw [List.flatMap_cons, List.flatMap_cons, List.flatMap_cons, List.flatMap_singleton, last?_append,
    last?_append, last?_append, hdefaults, hlast, Option.or_some, Option.or_assoc]
  rfl

/-- A field settles to what the layers give it, and the last of them that sets it decides. -/
private theorem exists_field_of_layers {ofRun common : Entries Value}
    (hregular : ∀ source ∈ [defaults, common, ofRun, top], lib.Regular source) {root : Value}
    (h : lib.Stacked [defaults, common, ofRun, top] (.table []) root) :
    ∃ entries value, root.get? setter.part = some (.table entries) ∧
      entries.lookup setter.field = some value ∧
      lib.Settles ([defaults, common, ofRun, top].flatMap (lib.givenIn setter.part setter.field))
        none (some value) ∧
      last? ([defaults, common, ofRun, top].flatMap (lib.givenIn setter.part setter.field)) =
        some ((lastSet? lib setter environment ofRun common).getD standard) := by
  have hlast := last?_layers laws hsets htop hsetter hstandard ofRun common
  obtain ⟨entries, value, hpart, hvalue, hsettles⟩ := exists_field laws hregular h hsetter
    (List.ne_nil_of_mem (mem_of_last?_eq_some hlast))
  exact ⟨entries, value, hpart, hvalue, hsettles, hlast⟩

end

private theorem eq_ok_of_mapError_eq_ok {ε ε' α : Type} {x : Except ε α} {f : ε → ε'} {y : α}
    (h : x.mapError f = .ok y) : x = .ok y := by
  cases x with
  | error e => cases h
  | ok a =>
    cases h
    rfl

private theorem exists_build_of_load {files : Files} {own environment : Environment}
    {settings : Settings} {common ofRun : Entries Value}
    (h : load lib files own = .ok (settings, environment))
    (hcommon : lib.file files commonName = .ok common)
    (hofRun : lib.file files (runName environment) = .ok ofRun) :
    ∃ top root, lib.ofEnvironment environment = .ok top ∧
      lib.build defaults [common, ofRun, top] = .ok root ∧
      lib.reader.settings root = .ok settings := by
  unfold load at h
  split at h
  · cases h
  · obtain ⟨settings, hsettings, h⟩ := exists_of_bind_eq_ok h
    cases h
    obtain ⟨common, hcommon', hsettings⟩ := exists_of_bind_eq_ok hsettings
    obtain ⟨ofRun, hofRun', hsettings⟩ := exists_of_bind_eq_ok hsettings
    obtain ⟨top, htop, hsettings⟩ := exists_of_bind_eq_ok hsettings
    obtain rfl := Except.ok.inj (hcommon.symm.trans hcommon')
    obtain rfl := Except.ok.inj (hofRun.symm.trans hofRun')
    obtain ⟨root, hroot, hread⟩ := exists_of_bind_eq_ok (eq_ok_of_mapError_eq_ok hsettings)
    exact ⟨top, root, htop, hroot, hread⟩

/-- Every setting is read from the last layer that sets it, on its own: the environment, the
configuration of the run, the common one, the defaults. The bindings are the whole array of the last
configuration that has one. -/
theorem load_last_set (laws : lib.Lawful) {files : Files} {own environment : Environment}
    {settings : Settings} {common ofRun : Entries Value}
    (h : load lib files own = .ok (settings, environment)) (hsets : environment.SetsOnly)
    (hcommon : lib.file files commonName = .ok common) (hcommonRegular : lib.Regular common)
    (hofRun : lib.file files (runName environment) = .ok ofRun)
    (hofRunRegular : lib.Regular ofRun) :
    lib.reader.text ((lastSet? lib .mode environment ofRun common).getD (.string standardMode)) =
        .ok settings.mode ∧
      lib.reader.choice LogFormat.choices ((lastSet? lib .format environment ofRun common).getD
        (.string LogFormat.pretty.name)) = .ok settings.format ∧
      lib.reader.text ((lastSet? lib .level environment ofRun common).getD
        (.string standardLevel)) = .ok settings.level ∧
      match (last? (lib.given "bindings" ofRun)).or (last? (lib.given "bindings" common)) with
      | none => settings.bindings = []
      | some value => ∃ items, value = .array items ∧ List.Forall₂
          (fun item entry => lib.reader.binding item = .ok entry) items settings.bindings := by
  obtain ⟨top, root, htop, hbuild, hread⟩ := exists_build_of_load h hcommon hofRun
  have hstacked := laws.build_stacked hbuild
  have hregular : ∀ source ∈ [defaults, common, ofRun, top], lib.Regular source := by
    simp only [List.forall_mem_cons]
    exact ⟨plain_defaults.regular laws, hcommonRegular, hofRunRegular,
      (plain_environment laws hsets htop).regular laws, nofun⟩
  obtain ⟨entries, rfl⟩ := (hstacked.settles laws ⟨[], rfl⟩).1
  obtain ⟨hengine, hlogging, hbindings⟩ := settings_table laws hread
  have hmode : Setter.mode ∈ Setter.all := by decide
  have hformat : Setter.format ∈ Setter.all := by decide
  have hlevel : Setter.level ∈ Setter.all := by decide
  refine ⟨?_, ?_, ?_, ?_⟩
  · obtain ⟨part, value, hpart, hvalue, hsettles, hlast⟩ :=
      exists_field_of_layers laws hsets htop hmode rfl hregular hstacked
    change entries.lookup "engine" = _ at hpart
    rw [hpart] at hengine
    have hread := engine_table laws hengine
    change part.lookup "mode" = _ at hvalue
    rw [hvalue] at hread
    exact read_of_settles laws laws.text_table hlast hsettles hread
  · obtain ⟨part, value, hpart, hvalue, hsettles, hlast⟩ :=
      exists_field_of_layers laws hsets htop hformat rfl hregular hstacked
    change entries.lookup "logging" = _ at hpart
    rw [hpart] at hlogging
    have hread := (logging_table laws hlogging).1
    change part.lookup "format" = _ at hvalue
    rw [hvalue] at hread
    -- A table that names a format reads as the last one does only if that has no key twice.
    obtain ⟨source, hsource, hgiven⟩ := List.mem_flatMap.1 (mem_of_last?_eq_some hlast)
    exact choice_of_settles laws ((hregular source hsource).formats _ hgiven) hlast hsettles hread
  · obtain ⟨part, value, hpart, hvalue, hsettles, hlast⟩ :=
      exists_field_of_layers laws hsets htop hlevel rfl hregular hstacked
    change entries.lookup "logging" = _ at hpart
    rw [hpart] at hlogging
    have hread := (logging_table laws hlogging).2
    change part.lookup "level" = _ at hvalue
    rw [hvalue] at hread
    exact read_of_settles laws laws.text_table hlast hsettles hread
  · have hgiven : last? ([defaults, common, ofRun, top].flatMap (lib.given "bindings")) =
        (last? (lib.given "bindings" ofRun)).or (last? (lib.given "bindings" common)) := by
      rw [List.flatMap_cons, List.flatMap_cons, List.flatMap_cons, List.flatMap_singleton,
        plain_defaults.given_bindings laws, (plain_environment laws hsets htop).given_bindings laws,
        List.nil_append, List.append_nil, last?_append]
    rw [← hgiven]
    exact bindings_of_settles laws (settles_bindings laws hregular hstacked) hbindings

section

open Backend

/-- Two configurations and a file of variables. -/
def layered : Directory := .ofTexts [
  ("config/default.toml", "logging.level = \"warn\"\nbindings = [[\"a\", \"1\", true]]\n"),
  ("config/p.toml", "\"Logging.Level\" = 5\n"),
  (".env", "LOGGING_FORMAT=json\n")]

instance : DecidableEq settingsLibrary.Error := inferInstanceAs (DecidableEq Fault)

instance (name : String) : Decidable (∃ source,
    settingsLibrary.file layered name = .ok source ∧ settingsLibrary.Regular source) :=
  match h : settingsLibrary.file layered name with
  | .ok source => decidable_of_iff (settingsLibrary.Regular source)
      ⟨fun hregular => ⟨source, rfl, hregular⟩, by
        rintro ⟨_, heq, hregular⟩
        cases heq
        exact hregular⟩
  | .error _ => isFalse nofun

/-- The mode is the standard one, the format is from the file of variables, the level from the
configuration of the run, and the bindings are from the common one. -/
theorem load_last_set_layered :
    let own := Environment.ofList [(.unicode "RUN_MODE", .unicode "p")]
    let environment := own.set (.unicode "LOGGING_FORMAT") (.unicode "json")
    let settings : Settings :=
      ⟨"delete-unmatched", .json, "5", [⟨some "a", some "1", some true⟩]⟩
    ∃ common ofRun, load settingsLibrary layered own = .ok (settings, environment) ∧
      environment.SetsOnly ∧
      settingsLibrary.file layered commonName = .ok common ∧ settingsLibrary.Regular common ∧
      settingsLibrary.file layered (runName environment) = .ok ofRun ∧
      settingsLibrary.Regular ofRun ∧
      Value.toText ((lastSet? settingsLibrary .mode environment ofRun common).getD
        (.string standardMode)) = .ok "delete-unmatched" ∧
      Value.toChoice LogFormat.choices ((lastSet? settingsLibrary .format environment ofRun
        common).getD (.string LogFormat.pretty.name)) = .ok .json ∧
      Value.toText ((lastSet? settingsLibrary .level environment ofRun common).getD
        (.string standardLevel)) = .ok "5" ∧
      match (last? (settingsLibrary.given "bindings" ofRun)).or
        (last? (settingsLibrary.given "bindings" common)) with
      | none => settings.bindings = []
      | some value => ∃ items, value = .array items ∧ List.Forall₂
          (fun item entry => reader.binding item = .ok entry) items settings.bindings := by
  intro own environment settings
  obtain ⟨common, hcommon, hcommonRegular⟩ : ∃ source,
      settingsLibrary.file layered commonName = .ok source ∧
        settingsLibrary.Regular source := by
    decide +kernel
  obtain ⟨ofRun, hofRun, hofRunRegular⟩ : ∃ source,
      settingsLibrary.file layered (runName environment) = .ok source ∧
        settingsLibrary.Regular source := by
    decide +kernel
  have hsets : environment.SetsOnly := by
    decide +kernel
  have hload : load settingsLibrary layered own = .ok (settings, environment) := by
    decide +kernel
  exact ⟨common, ofRun, hload, hsets, hcommon, hcommonRegular, hofRun, hofRunRegular,
    load_last_set lawful hload hsets hcommon hcommonRegular hofRun hofRunRegular⟩

/-- A key with a position reaches into the bindings of the layer below, and the bindings are then
those of neither configuration. -/
theorem bindings_of_position :
    let bindings files := (load settingsLibrary (.ofTexts files) {}).map (·.1.bindings)
    let common := ("config/default.toml",
      "bindings = [[\"a\", \"1\", true], [\"b\", \"2\", true]]\n")
    let ofRun := ("config/development.toml", "\"bindings[0]\" = [\"c\", \"3\", true]\n")
    bindings [common] = .ok [⟨some "a", some "1", some true⟩, ⟨some "b", some "2", some true⟩] ∧
      bindings [ofRun] = .ok [⟨some "c", some "3", some true⟩] ∧
      bindings [common, ofRun] =
        .ok [⟨some "c", some "3", some true⟩, ⟨some "b", some "2", some true⟩] := by
  intro bindings common ofRun
  refine ⟨?_, ?_, ?_⟩
  · decide +kernel
  · decide +kernel
  · decide +kernel

end

end Interpolation.Settings
