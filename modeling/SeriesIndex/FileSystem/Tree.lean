import SeriesIndex.FileSystem

/-!
# Machines as values

A machine with its files in memory: a tree of directories and files, an environment, a standing
clock, and the tables of data directories. It runs programs without any effect outside it.
-/

namespace SeriesIndex

/-- A path from the root down, as the names on the way. -/
abbrev Location := List String

structure Machine where
  directories : List Location
  files : List (Location × String)
  tables : List (Location × Table)
  /-- Where relative paths start. -/
  workingDirectory : Location
  environment : List (String × String)
  standardInput : String
  /-- The nanoseconds since 1970. -/
  clock : UInt64

namespace Machine

/-- The location that a path leads to. -/
def resolve (machine : Machine) (path : String) : Location :=
  let start := if path.startsWith "/" then [] else machine.workingDirectory
  (path.splitOn "/").foldl
    (fun location name =>
      if name.isEmpty || name = "." then location
      else if name = ".." then location.dropLast
      else location ++ [name]) start

def isDirectory (machine : Machine) (location : Location) : Bool :=
  location.isEmpty || machine.directories.contains location

def content? (machine : Machine) (location : Location) : Option String :=
  (machine.files.find? (·.1 == location)).map (·.2)

def isFile (machine : Machine) (location : Location) : Bool := (machine.content? location).isSome

/-- What keeps a location from being reached: a file or nothing where a directory should be. -/
def obstacle? (machine : Machine) (location : Location) : Option FileError :=
  (List.range location.length).findSome? fun length =>
    let above := location.take length
    if machine.isFile above then some .notDirectory
    else if machine.isDirectory above then none
    else some .notFound

def readFile (machine : Machine) (path : String) : Except FileError String :=
  let location := machine.resolve path
  if path.isEmpty then .error .notFound
  else
    match machine.obstacle? location with
    | some error => .error error
    | none =>
        if machine.isDirectory location then .error .isDirectory
        else
          match machine.content? location with
          | none => .error .notFound
          | some content => if path.endsWith "/" then .error .notDirectory else .ok content

/-- Puts a file in place of the one with its path, if there may be one. -/
def writeFile (machine : Machine) (path content : String) : Except FileError Unit × Machine :=
  let location := machine.resolve path
  if path.isEmpty then (.error .notFound, machine)
  else
    match machine.obstacle? location with
    | some error => (.error error, machine)
    | none =>
        if machine.isDirectory location then (.error .isDirectory, machine)
        else if path.endsWith "/" then
          (.error (if machine.isFile location then .notDirectory else .isDirectory), machine)
        else
          (.ok (), { machine with
            files := (location, content) :: machine.files.filter (·.1 != location) })

def touchFile (machine : Machine) (path : String) : Except FileError Unit × Machine :=
  machine.writeFile path ((machine.content? (machine.resolve path)).getD "")

/-- Makes the directories on the way to a location, and the last. -/
def makeDirectory (machine : Machine) (path : String) : Except FileError Unit × Machine :=
  let location := machine.resolve path
  if machine.isFile location then (.error .alreadyExists, machine)
  else if machine.obstacle? location = some .notDirectory then (.error .notDirectory, machine)
  else
    let wanted := (List.range (location.length + 1)).map location.take
    let fresh := wanted.filter fun directory => !machine.isDirectory directory
    (.ok (), { machine with directories := machine.directories ++ fresh })

def table (machine : Machine) (path : String) : Table :=
  let location := machine.resolve path
  ((machine.tables.find? (·.1 == location)).map (·.2)).getD .empty

def keepTable (machine : Machine) (path : String) (table : Table) : Machine :=
  let location := machine.resolve path
  { machine with tables := (location, table) :: machine.tables.filter (·.1 != location) }

def lookUp? (machine : Machine) (name : String) : Option String :=
  (machine.environment.find? (·.1 == name)).map (·.2)

/-- The machine as what programs run on. -/
def host : Host (StateM Machine) where
  readFile path := return (← get).readFile path
  writeFile path content := modifyGet fun machine => machine.writeFile path content
  touchFile path := modifyGet fun machine => machine.touchFile path
  makeDirectory path := modifyGet fun machine => machine.makeDirectory path
  isThere path := do
    let machine ← get
    let location := machine.resolve path
    return machine.isDirectory location || machine.isFile location
  environment := return (← get).lookUp?
  standardInput := return (← get).standardInput
  now := return (← get).clock / 1000000
  nanoseconds := return some (← get).clock.toInt64
  readTable path := return (← get).table path
  writeTable path table := modify fun machine => machine.keepTable path table

end Machine

end SeriesIndex
