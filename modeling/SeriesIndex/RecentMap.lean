/-!
# Recent maps

A map of bounded size that forgets what was longest out of use. Finding an entry and putting one
are uses. The entries are listed from the last used on.
-/

namespace SeriesIndex

structure RecentMap (κ ν : Type) where
  capacity : Nat
  entries : List (κ × ν)

namespace RecentMap

variable {κ ν : Type} [BEq κ]

/-- A map without entries; it has room for one at least. -/
def empty (capacity : Nat) : RecentMap κ ν := ⟨max capacity 1, []⟩

def size (map : RecentMap κ ν) : Nat := map.entries.length

/-- The value of a key, without a use. -/
def peek? (map : RecentMap κ ν) (key : κ) : Option ν :=
  (map.entries.find? (·.1 == key)).map (·.2)

/-- The entries with other keys. -/
def others (map : RecentMap κ ν) (key : κ) : List (κ × ν) :=
  map.entries.filter fun entry => !(entry.1 == key)

/-- Finds the value of a key. -/
def use (map : RecentMap κ ν) (key : κ) : Option ν × RecentMap κ ν :=
  match map.peek? key with
  | none => (none, map)
  | some value => (some value, { map with entries := (key, value) :: map.others key })

def put (map : RecentMap κ ν) (key : κ) (value : ν) : RecentMap κ ν :=
  { map with entries := ((key, value) :: map.others key).take map.capacity }

end RecentMap

end SeriesIndex
