import SeriesIndex.Text.Quoted

/-!
# Table backends

Where the items of a table are kept: in memory, or in a database file. Both hold the same sorted
set; they differ in how many items one page of a cursor takes.
-/

namespace SeriesIndex

inductive Backend where
  | sqlite
  | memory
deriving DecidableEq, Repr, Inhabited

namespace Backend

def name : Backend → String
  | sqlite => "sqlite"
  | memory => "memory"

def ofName? (name : String) : Option Backend :=
  [sqlite, memory].find? (·.name = name)

/-- How many items a cursor reads at a time. -/
def pageSize : Backend → Nat
  | sqlite => 512
  | memory => 256

end Backend

end SeriesIndex
