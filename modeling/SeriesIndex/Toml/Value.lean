/-!
# TOML values

A document is a table of values by name. Tables come about in several ways, and the way decides
where more entries may be put into them later: an inline table is complete, a declared one takes
entries under its header only, one made of a dotted key takes further dotted keys, and one that a
header merely passed through can still be declared.
-/

namespace SeriesIndex.Toml

/-- How a table came about. -/
inductive Origin where
  | inline
  | declared
  | dotted
  | implied
deriving DecidableEq, Repr

/-- A value. Of numbers with a fraction and of dates only the kind is kept. -/
inductive Value where
  | text (content : String)
  | integer (number : Int)
  | boolean (truth : Bool)
  | real
  | moment
  | array (items : List Value)
  | table (origin : Origin) (entries : List (String × Value))
  /-- The tables declared one after another under a header in double brackets. -/
  | tables (elements : List (List (String × Value)))

abbrev Entries := List (String × Value)

namespace Entries

def get? (entries : Entries) (name : String) : Option Value :=
  (List.find? (·.1 == name) entries).map (·.2)

/-- The entries with the value in place of any other of the name. -/
def put (entries : Entries) (name : String) (value : Value) : Entries :=
  entries.filter (·.1 != name) ++ [(name, value)]

/-- Changes the table that a path leads to, which is made if it is not there. A path of dotted
keys does not enter declared tables. -/
def changeAt (dotted : Bool) (change : Origin → Entries → Option Entries) :
    List String → Origin → Entries → Option Entries
  | [], origin, entries => change origin entries
  | name :: path, _, entries =>
      match entries.get? name with
      | none => do
          let origin := if dotted then .dotted else .implied
          return entries.put name (.table origin (← changeAt dotted change path origin []))
      | some (.table origin inner) =>
          if origin = .inline || (dotted && origin = .declared) then none
          else do
            let changed ← changeAt dotted change path origin inner
            return entries.put name (.table origin changed)
      | some (.tables elements) => do
          let last ← elements.getLast?
          let changed ← changeAt dotted change path .declared last
          return entries.put name (.tables (elements.dropLast ++ [changed]))
      | some _ => none

/-- Gives a new name its value; `path` is the dotted key before the name. Names in a dotted table
are given by dotted keys only. -/
def assign (entries : Entries) (path : List String) (name : String) (value : Value) :
    Option Entries :=
  changeAt true
    (fun origin entries =>
      if (origin = .dotted) = path.isEmpty then none
      else if (entries.get? name).isSome then none
      else some (entries.put name value))
    path .declared entries

/-- Declares a table by its header. -/
def declare (root : Entries) (path : List String) (name : String) : Option Entries :=
  changeAt false
    (fun _ entries =>
      match entries.get? name with
      | none => some (entries.put name (.table .declared []))
      | some (.table .implied inner) => some (entries.put name (.table .declared inner))
      | some _ => none)
    path .declared root

/-- Declares one more of the tables of a name. -/
def declareNext (root : Entries) (path : List String) (name : String) : Option Entries :=
  changeAt false
    (fun _ entries =>
      match entries.get? name with
      | none => some (entries.put name (.tables [[]]))
      | some (.tables elements) => some (entries.put name (.tables (elements ++ [[]])))
      | some _ => none)
    path .declared root

/-- Assigns under the header with the given path. -/
def assignUnder (root : Entries) (header path : List String) (name : String) (value : Value) :
    Option Entries :=
  changeAt false (fun _ entries => entries.assign path name value) header .declared root

end Entries

end SeriesIndex.Toml
