import SeriesIndex.Config
import SeriesIndex.Toml.Reader

/-!
# Reading settings

Settings are kept in TOML documents, a table for each section. What is not given has its default,
and what is not known is passed over. A section may also be an array of its settings in their
order.
-/

namespace SeriesIndex.Config

open Toml (Value Entries)

/-- The settings that a document gives for a section. -/
inductive Section where
  | named (entries : Entries)
  | ordered (items : List Value)

/-- A section of a document; one that is not there gives no settings. -/
def section? (root : Entries) (name : String) : Option Section :=
  match root.get? name with
  | none => some (.named [])
  | some (.table _ entries) => some (.named entries)
  | some (.array items) => some (.ordered items)
  | some _ => none

/-- The value of the setting with a name, which has a position among those of its section. -/
def Section.get? (settings : Section) (name : String) (position : Nat) : Option Value :=
  match settings with
  | .named entries => entries.get? name
  | .ordered items => items[position]?

/-- A setting read from its value; the default if it has none. -/
def setting {α : Type} (read : Value → Option α) (default : α) (value : Option Value) : Option α :=
  match value with
  | none => some default
  | some value => read value

def text? : Value → Option String
  | .text content => some content
  | _ => none

def word64? : Value → Option UInt64
  | .integer number => if 0 ≤ number then some (UInt64.ofNat number.toNat) else none
  | _ => none

def word32? : Value → Option UInt32
  | .integer number =>
      if 0 ≤ number && number < 0x100000000 then some (UInt32.ofNat number.toNat) else none
  | _ => none

/-- A value without content. -/
def isHollow : Value → Bool
  | .table _ entries => entries.isEmpty
  | .array items => items.isEmpty
  | _ => false

/-- A backend by its name, which may stand alone or over something hollow. -/
def backend? : Value → Option Backend
  | .text name => Backend.ofName? name
  | .table _ [(name, value)] => if isHollow value then Backend.ofName? name else none
  | _ => none

def storage? (settings : Section) (default : StorageSettings) : Option StorageSettings := do
  let dataDirectory ← setting text? default.dataDirectory (settings.get? "data_dir" 0)
  let backend ← setting backend? default.backend (settings.get? "backend" 1)
  return ⟨dataDirectory, backend⟩

def index? (settings : Section) (default : IndexSettings) : Option IndexSettings := do
  let bucketWidth ← setting word64? default.bucketWidth (settings.get? "bucket_width_ms" 0)
  let recentCapacity ←
    setting word64? default.recentCapacity (settings.get? "recent_series_capacity" 1)
  return ⟨bucketWidth, recentCapacity⟩

def search? (settings : Section) (default : SearchSettings) : Option SearchSettings := do
  let deadline ← setting word64? default.deadline (settings.get? "deadline_ms" 0)
  let maxSeries ← setting word64? default.maxSeries (settings.get? "max_series" 1)
  let multiplier ←
    setting word64? default.scanLimitMultiplier (settings.get? "scan_limit_multiplier" 2)
  let checkInterval ←
    setting word32? default.checkInterval (settings.get? "deadline_check_interval" 3)
  return ⟨deadline, maxSeries, multiplier, checkInterval⟩

def cache? (settings : Section) (default : CacheSettings) : Option CacheSettings := do
  let costCapacity ← setting word64? default.costCapacity (settings.get? "cost_cache_capacity" 0)
  return ⟨costCapacity⟩

/-- The file has no default, so only a table may leave it out. -/
def log? (settings : Section) (default : LogSettings) : Option LogSettings := do
  let level ← setting text? default.level (settings.get? "level" 0)
  let format ← setting text? default.format (settings.get? "format" 1)
  match settings, settings.get? "file" 2 with
  | .named _, none => return ⟨level, format, none⟩
  | .ordered _, none => none
  | _, some file => return ⟨level, format, some (← text? file)⟩

/-- The settings of a document, allowed or not. -/
def ofDocument? (default : Config) (root : Entries) : Option Config := do
  let storage ← storage? (← section? root "storage") default.storage
  let index ← index? (← section? root "index") default.index
  let search ← search? (← section? root "search") default.search
  let cache ← cache? (← section? root "cache") default.cache
  let log ← log? (← section? root "logging") default.log
  return ⟨storage, index, search, cache, log⟩

/-- The settings of the text of a file, if all of them are allowed. -/
def parse (dataDirectory path text : String) : Except ConfigError Config := do
  match (Toml.parse? text).bind (ofDocument? (default dataDirectory)) with
  | none => .error (.malformed path)
  | some config =>
      config.validate
      return config

/-- What reading a file has come to: its text, or the reason why there is none. -/
abbrev FileText := Except String String

/-- The settings of a file. -/
def load (dataDirectory path : String) (file : FileText) : Except ConfigError Config :=
  match file with
  | .error reason => .error (.unreadable path reason)
  | .ok text => parse dataDirectory path text

/-- The settings of a file with those of the environment in place, if all of both are allowed. -/
def loadWithEnvironment (dataDirectory path : String) (file : FileText)
    (environment : Environment) : Except ConfigError Config := do
  let config := (← load dataDirectory path file).withEnvironment environment
  config.validate
  return config

/-- The settings of the first of some files that can be used, or else those of the environment. -/
def loadFirst (dataDirectory : String) (files : List (String × FileText))
    (environment : Environment) : Config :=
  (files.findSome? fun (path, file) =>
    (loadWithEnvironment dataDirectory path file environment).toOption).getD
      (ofEnvironment dataDirectory environment)

end SeriesIndex.Config
