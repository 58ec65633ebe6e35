import Std.Time.DateTime.Timestamp
import SeriesIndex.CommandLine

/-!
# The program

Runs the command line on the machine that the program is started on. The table of a directory is
kept in a file there, an item in hexadecimal on each line.
-/

namespace SeriesIndex.Main

def ofError : IO.Error → FileError
  | .noFileOrDirectory _ _ _ => .notFound
  | .alreadyExists _ _ _ => .alreadyExists
  | .inappropriateType _ code reason =>
      if code = 20 then .notDirectory else if code = 21 then .isDirectory else .other reason
  | error => .other (toString error)

def guarded {α : Type} (operation : IO α) : IO (Except FileError α) := do
  match ← operation.toBaseIO with
  | .ok value => return .ok value
  | .error error => return .error (ofError error)

/-! ## Tables -/

def tablePath (directory : String) : String := Path.join directory "index_items.txt"

def itemLine (item : Bytes) : String :=
  String.ofList (item.flatMap fun byte =>
    [Nat.digitChar (byte.toNat / 16), Nat.digitChar (byte.toNat % 16)])

def readItem : List Char → Bytes
  | high :: low :: rest =>
      let value := fun char => (Unicode.hexDigit? char).getD 0
      UInt8.ofNat (value high * 16 + value low) :: readItem rest
  | _ => []

def readTable (directory : String) : IO Table := do
  match ← guarded (IO.FS.lines (tablePath directory)) with
  | .error _ => return .empty
  | .ok lines => return Table.empty.insertAll (lines.toList.map fun line => readItem line.toList)

def writeTable (directory : String) (table : Table) : IO Unit :=
  IO.FS.writeFile (tablePath directory)
    (String.join (table.items.map fun item => itemLine item ++ "\n"))

/-! ## The machine -/

/-- The variables that the program looks at. -/
def variableNames : List String :=
  ["HOME", "XDG_CONFIG_HOME", "XDG_DATA_HOME", "TAGSIEVE_DATA_DIR", "TAGSIEVE_BACKEND",
    "TAGSIEVE_SEARCH_DEADLINE_MS", "TAGSIEVE_MAX_SERIES", "TAGSIEVE_LOG_LEVEL",
    "TAGSIEVE_LOG_FORMAT"]

def environment : IO Config.Environment := do
  let values ← variableNames.mapM fun name => return (name, ← IO.getEnv name)
  return fun name => (values.find? (·.1 == name)).bind (·.2)

/-- The nanoseconds since 1970. -/
def clock : IO Int := do
  let moment ← Std.Time.Timestamp.now
  return moment.toNanosecondsSinceUnixEpoch.val

/-- A time as the word that counts nanoseconds, which ends in 2262. -/
def nanosecondsOf (time : Int) : Option Int64 :=
  if Int64.minValue.toInt ≤ time ∧ time ≤ Int64.maxValue.toInt then some (Int64.ofInt time)
  else none

/-- Whether something can be read at a path. -/
def isThere (path : String) : IO Bool := do
  match ← guarded (IO.FS.readFile path) with
  | .error .notFound | .error .notDirectory => return false
  | _ => return true

def touchFile (path : String) : IO Unit := do
  let _ ← IO.FS.Handle.mk path .append

def makeDirectory (path : String) : IO Unit :=
  if path.isEmpty then return () else IO.FS.createDirAll path

def host : Host IO where
  readFile path := guarded (IO.FS.readFile path)
  writeFile path content := guarded (IO.FS.writeFile path content)
  touchFile path := guarded (touchFile path)
  makeDirectory path := guarded (makeDirectory path)
  isThere := isThere
  environment := environment
  standardInput := do (← IO.getStdin).readToEnd
  now := do return UInt64.ofNat ((← clock) / 1000000).toNat
  nanoseconds := do return nanosecondsOf (← clock)
  readTable := readTable
  writeTable := writeTable

end SeriesIndex.Main

def main (arguments : List String) : IO UInt32 := do
  let outcome ← SeriesIndex.CommandLine.run SeriesIndex.Main.host arguments
  IO.print outcome.output
  IO.eprint outcome.errors
  return UInt32.ofNat outcome.code.toNat
