import SeriesIndex.CommandLine.Help
import SeriesIndex.CommandLine.Report
import SeriesIndex.Config.Reader
import SeriesIndex.Config.Template
import SeriesIndex.FileSystem
import SeriesIndex.TimeBound

/-!
# The command line

The program reads its settings, opens the index and then imports lines, searches, or writes a file
of settings to start from.
-/

namespace SeriesIndex.CommandLine

/-- What a run has come to: its exit code and what it prints. -/
structure Outcome where
  code : UInt8
  output : String
  errors : String
deriving DecidableEq, Repr

namespace Outcome

def success (output : String) : Outcome := ⟨0, output, ""⟩

/-- A run that failed with an error and its causes. -/
def failure (causes : List String) : Outcome := ⟨1, "", errorReport causes⟩

end Outcome

variable {m : Type → Type} [Monad m]

/-- A step of a run, which may fail with an error and its causes. -/
abbrev Step (m : Type → Type) := ExceptT (List String) m

/-- A file operation; `context` are the errors in front of its own. -/
def attempt {α : Type} (context : List String) (operation : m (Except FileError α)) : Step m α :=
  ExceptT.mk do return (← operation).mapError fun error => context ++ [error.message]

/-- What has been computed, or the error and its causes. -/
def orFail {α : Type} (result : Except (List String) α) : Step m α := ExceptT.mk (pure result)

/-! ## Settings -/

def homeDirectory (environment : Config.Environment) : Option String :=
  (environment "HOME").filter fun home => !home.isEmpty

/-- A directory that a variable names by an absolute path, or one in the home directory. -/
def userDirectory (environment : Config.Environment) (name path : String) : Option String :=
  ((environment name).filter (·.startsWith "/")).or
    ((homeDirectory environment).map fun home => Path.join home path)

/-- Where the index is kept unless something else is said. -/
def dataDirectory (environment : Config.Environment) : String :=
  ((userDirectory environment "XDG_DATA_HOME" ".local/share").map
    fun directory => Path.join directory "tagsieve").getD "./tagsieve_data"

/-- Where settings are looked for. -/
def configPaths (environment : Config.Environment) : List String :=
  ((userDirectory environment "XDG_CONFIG_HOME" ".config").map
    fun directory => Path.join directory "tagsieve/config.toml").toList ++
    ["/etc/tagsieve/config.toml", "./config.toml"]

/-- The text of a file, or the reason why there is none. -/
def fileText (host : Host m) (path : String) : m Config.FileText := do
  return (← host.readFile path).mapError (·.message)

/-- The files that are there. -/
def filesThere (host : Host m) : List String → m (List (String × Config.FileText))
  | [] => return []
  | path :: rest => do
      let later ← filesThere host rest
      if ← host.isThere path then return (path, ← fileText host path) :: later
      else return later

/-- The settings of the file that was asked for, or of the first one found. -/
def settings (host : Host m) (path : Option String) : Step m Config := do
  let environment ← host.environment
  let directory := dataDirectory environment
  match path with
  | some path =>
      let file ← fileText (m := m) host path
      orFail ((Config.loadWithEnvironment directory path file environment).mapError
        fun error => ["loading config from " ++ Text.quoted path, error.message])
  | none =>
      return Config.loadFirst directory
        (← filesThere (m := m) host (configPaths environment)) environment

/-! ## The index -/

/-- Makes the log file, if there is to be one. -/
def openLog (host : Host m) (config : Config) : Step m Unit :=
  match config.log.file with
  | none => return ()
  | some path => attempt [s!"opening log file {path}"] (host.touchFile path)

/-- The directory of the index. -/
def indexDirectory (environment : Config.Environment) (config : Config) : String :=
  Path.expandHome (homeDirectory environment) config.storage.dataDirectory

/-- The table of the index, whose directory is made if it is not there. -/
def openTable (host : Host m) (config : Config) : Step m Table := do
  match config.storage.backend with
  | .memory => return .empty
  | .sqlite =>
      let directory := indexDirectory (← host.environment) config
      match ← host.makeDirectory directory with
      | .ok () => host.readTable directory
      | .error error =>
          throw ("opening index" :: (EngineError.store (.io error.message)).causes)

def openEngine (host : Host m) (config : Config) : Step m Engine := do
  let table ← openTable host config
  return .onStore config (.ofTable config.storage.backend table)
    (Writer.firstIdAt (← host.nanoseconds))

/-- Keeps what an engine has stored. -/
def keep (host : Host m) (engine : Engine) : Step m Unit := do
  match engine.config.storage.backend with
  | .memory => return ()
  | .sqlite =>
      host.writeTable (indexDirectory (← host.environment) engine.config) engine.store.table

/-! ## Commands -/

/-- The lines of a file, or those given to the program. -/
def inputText (host : Host m) (path : String) : Step m String :=
  if path = "-" then host.standardInput
  else attempt ["reading " ++ Text.quoted path] (host.readFile path)

def importLines (host : Host m) (engine : Engine) (tenant : Tenant) (path : String)
    (time : Option UInt64) : Step m String := do
  let text ← inputText host path
  let (result, engine) := engine.importText tenant text (time.getD (← host.now))
  keep host engine
  match result with
  | .error error => throw error.causes
  | .ok summary =>
      return s!"Imported {summary.rows} rows ({summary.invalid} invalid lines skipped)\n"

/-- The range between two time bounds. -/
def timeRange (start stop : String) (now : UInt64) : Except (List String) TimeRange := do
  let first ← (TimeBound.parse start now).mapError fun error => [error.message]
  let last ← (TimeBound.parse stop now).mapError fun error => [error.message]
  match TimeRange.between? first last with
  | some range => return range
  | none => throw [s!"range start {first.toNat} is after end {last.toNat}"]

def search (host : Host m) (engine : Engine) (tenant : Tenant) (selector start stop : String)
    (limit : Option UInt64) (format : OutputFormat) : Step m String := do
  let selector ← orFail ((Selector.parse selector).mapError fun error => [error.message])
  let range ← orFail (timeRange start stop (← host.now))
  let (result, _) := engine.search tenant selector.matchers range true
    engine.config.search.deadlineFromNow
  match result with
  | .error error => throw error.causes
  | .ok found =>
      let shown := limit.elim found fun limit => found.atMost limit.toNat
      match format with
      | .table => return shown.table
      | .json => return shown.json

/-- Writes settings to start from into a file, whose directory is made, or prints them. -/
def writeConfig (host : Host m) (output : Option String) : Step m String := do
  match output with
  | none => return Config.template
  | some path =>
      if let some directory := Path.parent? path then
        attempt [] (host.makeDirectory directory)
      attempt [] (host.writeFile path Config.template)
      return s!"Config written to {Text.quoted path}\n"

def perform (host : Host m) (invocation : Invocation) : Step m String := do
  match invocation.command with
  | .config output => writeConfig host output
  | .importLines path time =>
      let config ← settings host invocation.configPath
      openLog host config
      importLines host (← openEngine host config) invocation.tenant path time
  | .search selector start stop limit format =>
      let config ← settings host invocation.configPath
      openLog host config
      search host (← openEngine host config) invocation.tenant selector start stop limit format

/-- Runs a command line. -/
def run (host : Host m) (arguments : List String) : m Outcome := do
  match parse arguments with
  | .error (.tell topic) => return .success topic.text
  | .error (.fail error) => return ⟨2, "", error.message ++ "\n"⟩
  | .ok invocation =>
      match ← (perform host invocation).run with
      | .ok output => return .success output
      | .error causes => return .failure causes

end SeriesIndex.CommandLine
