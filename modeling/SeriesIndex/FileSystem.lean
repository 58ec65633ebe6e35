import SeriesIndex.Engine

/-!
# File systems

What a program asks of the machine it runs on: files, the variables of its environment, a clock,
and the tables of data directories. The operations are given for any monad, so that a program can
run on a real machine and on one that is a value.
-/

namespace SeriesIndex

inductive FileError where
  | notFound
  | alreadyExists
  | notDirectory
  | isDirectory
  | other (reason : String)
deriving DecidableEq, Repr

def FileError.message : FileError → String
  | notFound => "No such file or directory (os error 2)"
  | alreadyExists => "File exists (os error 17)"
  | notDirectory => "Not a directory (os error 20)"
  | isDirectory => "Is a directory (os error 21)"
  | other reason => reason

structure Host (m : Type → Type) where
  readFile : String → m (Except FileError String)
  writeFile : (path content : String) → m (Except FileError Unit)
  /-- Makes a file if it is not there, and leaves it as it is if it is. -/
  touchFile : String → m (Except FileError Unit)
  /-- Makes a directory and those above it. -/
  makeDirectory : String → m (Except FileError Unit)
  isThere : String → m Bool
  environment : m Config.Environment
  standardInput : m String
  /-- The milliseconds since 1970. -/
  now : m UInt64
  /-- The nanoseconds since 1970, if the clock can tell them. -/
  nanoseconds : m (Option Int64)
  /-- The table kept in a directory; a new one has no items. -/
  readTable : String → m Table
  writeTable : String → Table → m Unit

/-! ## Paths -/

namespace Path

/-- The path of a file in a directory. -/
def join (directory name : String) : String :=
  if directory.isEmpty then name
  else if directory.endsWith "/" then directory ++ name
  else directory ++ "/" ++ name

/-- The text without slashes at its end. -/
def withoutSlashes (path : List Char) : List Char :=
  (path.reverse.dropWhile (· = '/')).reverse

/-- The directory that a path is in; none for the root. -/
def parent? (path : String) : Option String :=
  let chars := withoutSlashes path.toList
  if chars.isEmpty then none
  else
    let above := (chars.reverse.dropWhile (· ≠ '/')).reverse
    let directory := withoutSlashes above
    some (String.ofList (if directory.isEmpty then above.take 1 else directory))

/-- A path that starts in the home directory starts with that directory. -/
def expandHome (home : Option String) (path : String) : String :=
  match path.toList, home with
  | '~' :: '/' :: rest, some home => join home (String.ofList rest)
  | _, _ => path

end Path

end SeriesIndex
