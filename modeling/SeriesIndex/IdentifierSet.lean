import Std.Data.HashSet
import SeriesIndex.Ascending

/-!
# Sets of identifiers

A finite set of series identifiers as the ascending list of its members. Two sets with the same
members are therefore equal, whatever operations made them.
-/

namespace SeriesIndex

structure IdentifierSet where
  ids : List UInt64
  ascending : ids.Pairwise (· < ·)
deriving DecidableEq

namespace IdentifierSet

def empty : IdentifierSet := ⟨[], .nil⟩

instance : Inhabited IdentifierSet := ⟨empty⟩

/-- The members of any list. -/
def ofList (ids : List UInt64) : IdentifierSet :=
  ⟨Ascending.ofList ids, Ascending.ofList_ascending ids⟩

def size (set : IdentifierSet) : Nat := set.ids.length

def isEmpty (set : IdentifierSet) : Bool := set.ids.isEmpty

def contains (set : IdentifierSet) (id : UInt64) : Bool := set.ids.contains id

instance : Membership UInt64 IdentifierSet := ⟨fun set id => id ∈ set.ids⟩

def insert (set : IdentifierSet) (id : UInt64) : IdentifierSet :=
  ⟨Ascending.insert id set.ids, Ascending.insert_ascending set.ascending⟩

/-- Adds a member and tells whether it is new. -/
def add (set : IdentifierSet) (id : UInt64) : Bool × IdentifierSet :=
  (!set.contains id, set.insert id)

/-- The members that pass a test. -/
def filter (set : IdentifierSet) (keep : UInt64 → Bool) : IdentifierSet :=
  ⟨set.ids.filter keep, set.ascending.filter keep⟩

def insertAll (set : IdentifierSet) (ids : List UInt64) : IdentifierSet :=
  if ids.isEmpty then set else ofList (set.ids ++ ids)

def union (left right : IdentifierSet) : IdentifierSet := left.insertAll right.ids

def intersection (left right : IdentifierSet) : IdentifierSet :=
  let members := Std.HashSet.ofList right.ids
  left.filter members.contains

def difference (left right : IdentifierSet) : IdentifierSet :=
  let members := Std.HashSet.ofList right.ids
  left.filter fun id => !members.contains id

/-- The smallest members in ascending order, `limit` of them if there are so many. -/
def first (set : IdentifierSet) (limit : Nat) : List UInt64 := set.ids.take limit

/-- The smallest members, `limit` of them if there are so many. -/
def truncate (set : IdentifierSet) (limit : Nat) : IdentifierSet :=
  ⟨set.ids.take limit, set.ascending.sublist (List.take_sublist limit set.ids)⟩

end IdentifierSet

end SeriesIndex
