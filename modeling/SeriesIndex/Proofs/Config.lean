import SeriesIndex.CommandLine
import SeriesIndex.FileSystem.Tree
import SeriesIndex.Proofs.Outcome

/-!
# Allowed settings

Settings read from a file are allowed, also with those of the environment in place. Where no file
can be used the settings are those of the environment alone, which nothing checks: they are allowed
exactly if the environment neither asks for no series nor names a format of the log that there is
not. With any other environment no file can be used, so it decides about the settings of a program
that looks for them.
-/

namespace SeriesIndex.Config

/-! ## Settings that are allowed -/

theorem validate_ok_iff {config : Config} :
    config.validate = .ok () ↔
      config.index.bucketWidth ≠ 0 ∧ config.search.maxSeries ≠ 0 ∧
        config.search.scanLimitMultiplier ≠ 0 ∧
        (config.log.format = "pretty" ∨ config.log.format = "json") := by
  have faultless : config.validate = .ok () ↔ config.fault? = none := by
    unfold validate
    cases config.fault? <;> simp
  rw [faultless, fault?]
  by_cases width : config.index.bucketWidth = 0
  · simp [width]
  · by_cases series : config.search.maxSeries = 0
    · simp [width, series]
    · by_cases multiplier : config.search.scanLimitMultiplier = 0
      · simp [width, series, multiplier]
      · rw [if_neg width, if_neg series, if_neg multiplier]
        by_cases pretty : config.log.format = "pretty"
        · simp [width, series, multiplier, pretty]
        · by_cases json : config.log.format = "json"
          · simp [width, series, multiplier, json]
          · simp [pretty, json]

theorem default_validate (dataDirectory : String) : (default dataDirectory).validate = .ok () :=
  rfl

/-! ## Environments -/

/-- What the variables of an environment ask for is allowed: there are to be some series, and the
log has one of its formats. -/
structure Environment.Allowed (environment : Environment) : Prop where
  series : ∀ text, environment "TAGSIEVE_MAX_SERIES" = some text →
    Text.Numeral.word64? text.toList ≠ some 0
  format : ∀ text, environment "TAGSIEVE_LOG_FORMAT" = some text → text = "pretty" ∨ text = "json"

theorem overridden_ne_zero {before : UInt64} (positive : before ≠ 0) (value : Option String) :
    overridden value before ≠ 0 ↔
      ∀ text, value = some text → Text.Numeral.word64? text.toList ≠ some 0 := by
  cases value with
  | none => simp [overridden, positive]
  | some text =>
      have only : (∀ other, some text = some other → Text.Numeral.word64? other.toList ≠ some 0) ↔
          Text.Numeral.word64? text.toList ≠ some 0 :=
        ⟨fun all => all text rfl, fun here _ same => Option.some.inj same ▸ here⟩
      rw [only, overridden, Option.bind_some]
      cases Text.Numeral.word64? text.toList with
      | none => simp [positive]
      | some number => simp

theorem getD_format {before : String} (known : before = "pretty" ∨ before = "json")
    (value : Option String) :
    (value.getD before = "pretty" ∨ value.getD before = "json") ↔
      ∀ text, value = some text → text = "pretty" ∨ text = "json" := by
  cases value with
  | none => simp [known]
  | some text => simp

/-- In front of settings that are allowed, the environment decides. -/
theorem withEnvironment_validate {config : Config} (valid : config.validate = .ok ())
    (environment : Environment) :
    (config.withEnvironment environment).validate = .ok () ↔ environment.Allowed := by
  obtain ⟨width, series, multiplier, format⟩ := validate_ok_iff.mp valid
  rw [validate_ok_iff]
  constructor
  · rintro ⟨-, someSeries, -, knownFormat⟩
    exact ⟨(overridden_ne_zero series _).mp someSeries, (getD_format format _).mp knownFormat⟩
  · intro allowed
    exact ⟨width, (overridden_ne_zero series _).mpr allowed.series, multiplier,
      (getD_format format _).mpr allowed.format⟩

/-! ## Files -/

section Files

variable {dataDirectory path : String} {file : FileText} {environment : Environment}
  {config : Config}

theorem parse_validate {text : String} (parsed : parse dataDirectory path text = .ok config) :
    config.validate = .ok () := by
  unfold parse at parsed
  split at parsed
  · cases parsed
  · obtain ⟨⟨⟩, valid, same⟩ := bind_ok.mp parsed
    cases same
    exact valid

theorem load_validate (loaded : load dataDirectory path file = .ok config) :
    config.validate = .ok () := by
  unfold load at loaded
  split at loaded
  · cases loaded
  · exact parse_validate loaded

theorem loadWithEnvironment_ok
    (loaded : loadWithEnvironment dataDirectory path file environment = .ok config) :
    environment.Allowed ∧ config.validate = .ok () := by
  obtain ⟨before, read, checked⟩ := bind_ok.mp loaded
  obtain ⟨⟨⟩, valid, same⟩ := bind_ok.mp checked
  cases same
  exact ⟨(withEnvironment_validate (load_validate read) environment).mp valid, valid⟩

theorem ofEnvironment_validate :
    (ofEnvironment dataDirectory environment).validate = .ok () ↔ environment.Allowed :=
  withEnvironment_validate (default_validate dataDirectory) environment

theorem loadFirst_cons (files : List (String × FileText)) :
    loadFirst dataDirectory ((path, file) :: files) environment =
      (loadWithEnvironment dataDirectory path file environment).toOption.getD
        (loadFirst dataDirectory files environment) := by
  rw [loadFirst, List.findSome?_cons]
  dsimp only
  cases loadWithEnvironment dataDirectory path file environment <;> rfl

/-- Whatever files there are, the settings are allowed exactly if the environment is. -/
theorem loadFirst_validate (files : List (String × FileText)) :
    (loadFirst dataDirectory files environment).validate = .ok () ↔ environment.Allowed := by
  induction files with
  | nil => exact ofEnvironment_validate
  | cons first files ih =>
      obtain ⟨path, file⟩ := first
      rw [loadFirst_cons]
      cases loaded : loadWithEnvironment dataDirectory path file environment with
      | error => exact ih
      | ok config =>
          obtain ⟨allowed, valid⟩ := loadWithEnvironment_ok loaded
          exact iff_of_true valid allowed

end Files

/-! ## Programs -/

section Programs

open CommandLine

variable (machine : Machine)

/-- A program that is told where its settings are reads them there. -/
theorem settings_some (path : String) :
    ((settings Machine.host (some path)).run machine).1 =
      (loadWithEnvironment (CommandLine.dataDirectory machine.lookUp?) path
        ((fileText Machine.host path).run machine).1 machine.lookUp?).mapError fun error =>
          ["loading config from " ++ Text.quoted path, error.message] := rfl

/-- A program that is not told looks for them. -/
theorem settings_none :
    ((settings Machine.host none).run machine).1 =
      .ok (loadFirst (CommandLine.dataDirectory machine.lookUp?)
        ((filesThere Machine.host (configPaths machine.lookUp?)).run machine).1
        machine.lookUp?) := rfl

theorem settings_validate {path : Option String} {config : Config}
    (made : ((settings Machine.host path).run machine).1 = .ok config) :
    (path ≠ none → config.validate = .ok ()) ∧
      (config.validate = .ok () ↔ Environment.Allowed machine.lookUp?) := by
  cases path with
  | none =>
      rw [settings_none] at made
      cases made
      exact ⟨fun told => absurd rfl told, loadFirst_validate _⟩
  | some path =>
      rw [settings_some] at made
      cases loaded : loadWithEnvironment (CommandLine.dataDirectory machine.lookUp?) path
          ((fileText Machine.host path).run machine).1 machine.lookUp? with
      | error error =>
          rw [loaded] at made
          cases made
      | ok other =>
          rw [loaded] at made
          cases made
          obtain ⟨allowed, valid⟩ := loadWithEnvironment_ok loaded
          exact ⟨fun _ => valid, iff_of_true valid allowed⟩

end Programs

/-! ## Where settings come from -/

/-- Settings that are read from a text or a file are allowed, with those of the environment in place
or not. Settings of the environment alone, and those of the first file that can be used or else of
the environment, are allowed exactly if the environment is. So a program that is told where its
settings are has allowed ones, and any other has them exactly if its environment is allowed. -/
theorem settings_allowed_iff (dataDirectory : String) (environment : Environment) :
    (∀ path text config, parse dataDirectory path text = .ok config → config.validate = .ok ()) ∧
      (∀ path file config, load dataDirectory path file = .ok config →
        config.validate = .ok ()) ∧
      (∀ path file config, loadWithEnvironment dataDirectory path file environment = .ok config →
        config.validate = .ok ()) ∧
      ((ofEnvironment dataDirectory environment).validate = .ok () ↔ environment.Allowed) ∧
      (∀ files, (loadFirst dataDirectory files environment).validate = .ok () ↔
        environment.Allowed) ∧
      ∀ machine path config,
        ((CommandLine.settings Machine.host path).run machine).1 = .ok config →
        (path ≠ none → config.validate = .ok ()) ∧
          (config.validate = .ok () ↔ Environment.Allowed machine.lookUp?) := by
  refine ⟨?_, ?_, ?_, ofEnvironment_validate, loadFirst_validate, ?_⟩
  · exact fun path text config parsed => parse_validate parsed
  · exact fun path file config loaded => load_validate loaded
  · exact fun path file config loaded => (loadWithEnvironment_ok loaded).2
  · exact fun machine path config made => settings_validate machine made

/-- An environment that asks for seven series and one format of the log. -/
def sevenSeries : Environment := fun name =>
  if name = "TAGSIEVE_MAX_SERIES" then some "7"
  else if name = "TAGSIEVE_LOG_FORMAT" then some "json"
  else none

/-- A file with one setting. -/
def oneSetting : String := "[search]\nmax_series = 42\n"

/-- A machine with that file and an environment that asks for one thing. -/
def oneFile : Machine :=
  ⟨[], [(["config.toml"], oneSetting)], [], [], [("TAGSIEVE_MAX_SERIES", "7")], "", 0⟩

theorem settings_allowed_sample :
    (∃ config, parse "data" "config.toml" oneSetting = .ok config ∧
        load "data" "config.toml" (.ok oneSetting) = .ok config ∧
        config.search.maxSeries = 42 ∧ config.validate = .ok ()) ∧
      (∃ config,
        loadWithEnvironment "data" "config.toml" (.ok oneSetting) sevenSeries = .ok config ∧
          config.search.maxSeries = 7 ∧ config.validate = .ok ()) ∧
      sevenSeries.Allowed ∧ (ofEnvironment "data" sevenSeries).validate = .ok () ∧
      (loadFirst "data" [("config.toml", .ok oneSetting)] sevenSeries).validate = .ok () ∧
      ∃ config, ((CommandLine.settings Machine.host none).run oneFile).1 = .ok config ∧
        config.validate = .ok () := by
  obtain ⟨-, loads, joins, alone, looks, runs⟩ := settings_allowed_iff "data" sevenSeries
  have parsed : parse "data" "config.toml" oneSetting =
      .ok { default "data" with search := ⟨30000, 42, 100, 1024⟩ } :=
    toOption_eq_some.mp (by decide +kernel)
  have joined : loadWithEnvironment "data" "config.toml" (.ok oneSetting) sevenSeries =
      .ok { default "data" with search := ⟨30000, 7, 100, 1024⟩, log := ⟨"info", "json", none⟩ } :=
    toOption_eq_some.mp (by decide +kernel)
  have allowed : sevenSeries.Allowed := by
    constructor
    · rintro text ⟨⟩
      decide +kernel
    · rintro text ⟨⟩
      exact .inr rfl
  have allowedThere : Environment.Allowed oneFile.lookUp? := by
    constructor
    · rintro text ⟨⟩
      decide +kernel
    · rintro text ⟨⟩
  have made := settings_none oneFile
  exact ⟨⟨_, parsed, parsed, rfl, loads "config.toml" (.ok oneSetting) _ parsed⟩,
    ⟨_, joined, rfl, joins _ _ _ joined⟩, allowed, alone.mpr allowed, (looks _).mpr allowed,
    _, made, (runs _ _ _ made).2.mpr allowedThere⟩

theorem validate_of_fault {config : Config} {fault : ConfigFault}
    (found : config.fault? = some fault) : config.validate = .error (.invalid fault) := by
  rw [validate, found]

/-- An environment that asks for no series. -/
def noSeries : Environment := fun name => if name = "TAGSIEVE_MAX_SERIES" then some "0" else none

/-- Without a file, or with one whose own settings are allowed, settings are used that are not. -/
theorem settings_noSeries :
    (ofEnvironment "data" noSeries).validate = .error (.invalid .noSeries) ∧
      (loadFirst "data" [("config.toml", .ok oneSetting)] noSeries).validate =
        .error (.invalid .noSeries) ∧
      ¬ ∀ dataDirectory environment,
        (ofEnvironment dataDirectory environment).validate = .ok () := by
  have alone : (ofEnvironment "data" noSeries).validate = .error (.invalid .noSeries) :=
    validate_of_fault (by decide +kernel)
  refine ⟨alone, validate_of_fault (by decide +kernel), fun all => ?_⟩
  cases alone.symm.trans (all "data" noSeries)

end SeriesIndex.Config
