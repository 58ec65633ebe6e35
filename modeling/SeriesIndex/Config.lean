import SeriesIndex.Backend
import SeriesIndex.Deadline
import SeriesIndex.Text.Numeral

/-!
# Settings

The settings of an index, in five sections. Not all values are allowed: buckets have a width, a
search returns some series, and the log has one of two formats.
-/

namespace SeriesIndex

structure StorageSettings where
  dataDirectory : String
  backend : Backend
deriving DecidableEq, Repr

structure IndexSettings where
  /-- The width of a bucket in milliseconds. -/
  bucketWidth : UInt64
  recentCapacity : UInt64
deriving DecidableEq, Repr

structure SearchSettings where
  /-- The time that a search has, in milliseconds. -/
  deadline : UInt64
  maxSeries : UInt64
  scanLimitMultiplier : UInt64
  checkInterval : UInt32
deriving DecidableEq, Repr

structure CacheSettings where
  costCapacity : UInt64
deriving DecidableEq, Repr

structure LogSettings where
  level : String
  format : String
  file : Option String
deriving DecidableEq, Repr

structure Config where
  storage : StorageSettings
  index : IndexSettings
  search : SearchSettings
  cache : CacheSettings
  log : LogSettings
deriving DecidableEq, Repr

/-- A setting with a value that is not allowed. -/
inductive ConfigFault where
  | noBucketWidth
  | noSeries
  | noMultiplier
  | logFormat (text : String)
  | backend (name : String)
deriving DecidableEq, Repr

inductive ConfigError where
  | unreadable (path reason : String)
  | malformed (path : String)
  | invalid (fault : ConfigFault)
deriving DecidableEq, Repr

def ConfigFault.message : ConfigFault → String
  | noBucketWidth => "index.bucket_width_ms must be positive"
  | noSeries => "search.max_series must be positive"
  | noMultiplier => "search.scan_limit_multiplier must be positive"
  | logFormat text => s!"logging.format must be 'pretty' or 'json', got '{text}'"
  | backend name => s!"unknown backend '{name}'"

def ConfigError.message : ConfigError → String
  | unreadable path reason =>
      "Failed to read config file " ++ Text.quoted path ++ ": " ++ reason
  | malformed path => "Failed to parse config file " ++ Text.quoted path ++ ": TOML parse error"
  | invalid fault => s!"Invalid configuration: {fault.message}"

/-- The backend of a name, whose letters may be of either case. -/
def Backend.parse (name : String) : Except ConfigError Backend :=
  let name := name.map Char.toLower
  match ofName? name with
  | some backend => .ok backend
  | none => .error (.invalid (.backend name))

namespace SearchSettings

/-- How many identifiers a search collects for one filter; it stays below 2⁶⁴. -/
def scanLimit (settings : SearchSettings) : Nat :=
  min (settings.maxSeries.toNat * settings.scanLimitMultiplier.toNat) Text.Numeral.maxWord64

/-- The time that a search has, in nanoseconds. -/
def timeout (settings : SearchSettings) : Nat := settings.deadline.toNat * 1000000

/-- The deadline of a search that starts now. One without any time has passed at once. -/
def deadlineFromNow (settings : SearchSettings) : Deadline :=
  if settings.deadline = 0 then .passed settings.timeout else .ahead settings.timeout

end SearchSettings

namespace Config

/-- The settings that hold where nothing else is said. -/
def default (dataDirectory : String) : Config where
  storage := ⟨dataDirectory, .sqlite⟩
  index := ⟨86400000, 65536⟩
  search := ⟨30000, 100000, 100, 1024⟩
  cache := ⟨100000⟩
  log := ⟨"info", "pretty", none⟩

/-- Names the first setting that is not allowed. -/
def fault? (config : Config) : Option ConfigFault :=
  if config.index.bucketWidth = 0 then some .noBucketWidth
  else if config.search.maxSeries = 0 then some .noSeries
  else if config.search.scanLimitMultiplier = 0 then some .noMultiplier
  else if config.log.format ≠ "pretty" ∧ config.log.format ≠ "json" then
    some (.logFormat config.log.format)
  else none

def validate (config : Config) : Except ConfigError Unit :=
  match config.fault? with
  | none => .ok ()
  | some fault => .error (.invalid fault)

/-! ## Environment -/

/-- The values of variables. -/
abbrev Environment := String → Option String

/-- A number that a variable gives, or the one that held before. -/
def overridden (value : Option String) (before : UInt64) : UInt64 :=
  (value.bind fun text => Text.Numeral.word64? text.toList).getD before

/-- The settings with those in place that variables give. A variable that cannot be read as its
setting is passed over. -/
def withEnvironment (config : Config) (environment : Environment) : Config where
  storage :=
    { dataDirectory :=
        (environment "TAGSIEVE_DATA_DIR").getD config.storage.dataDirectory
      backend :=
        ((environment "TAGSIEVE_BACKEND").bind fun name => (Backend.parse name).toOption).getD
          config.storage.backend }
  index := config.index
  search :=
    { config.search with
      deadline := overridden (environment "TAGSIEVE_SEARCH_DEADLINE_MS") config.search.deadline
      maxSeries := overridden (environment "TAGSIEVE_MAX_SERIES") config.search.maxSeries }
  cache := config.cache
  log :=
    { config.log with
      level := (environment "TAGSIEVE_LOG_LEVEL").getD config.log.level
      format := (environment "TAGSIEVE_LOG_FORMAT").getD config.log.format }

/-- The settings of the environment alone, allowed or not. -/
def ofEnvironment (dataDirectory : String) (environment : Environment) : Config :=
  (default dataDirectory).withEnvironment environment

end Config

end SeriesIndex
