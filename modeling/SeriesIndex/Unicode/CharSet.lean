/-!
# Sets of characters

A set of code points is a list of ranges in ascending order that neither overlap nor touch.
The operations work on ranges and bring their result back into this form. Surrogates are not
characters: stepping down from the first code point above them lands on the last one below.
-/

namespace SeriesIndex.Unicode

/-- The code points from `first` to `last`. -/
structure CharRange where
  first : Nat
  last : Nat
deriving DecidableEq, Repr, Inhabited

abbrev CharSet := List CharRange

def lastCodePoint : Nat := 0x10FFFF

namespace CharRange

def contains (range : CharRange) (code : Nat) : Bool :=
  range.first ≤ code && code ≤ range.last

def size (range : CharRange) : Nat := range.last + 1 - range.first

end CharRange

/-- The character after a code point. -/
def successor (code : Nat) : Nat := if code = 0xD7FF then 0xE000 else code + 1

/-- The character before a code point. -/
def predecessor (code : Nat) : Nat := if code = 0xE000 then 0xD7FF else code - 1

namespace CharSet

def contains (set : CharSet) (code : Nat) : Bool := set.any (·.contains code)

def size (set : CharSet) : Nat := set.foldl (fun size range => size + range.size) 0

def single (code : Nat) : CharSet := [⟨code, code⟩]

def full : CharSet := [⟨0, lastCodePoint⟩]

/-- Joins a range with those after it that it overlaps or touches; they come in ascending order
of their first. -/
def extend (range : CharRange) : CharSet → CharSet
  | [] => [range]
  | next :: rest =>
      if next.first ≤ range.last + 1 then
        extend ⟨range.first, max range.last next.last⟩ rest
      else range :: extend next rest

def join : CharSet → CharSet
  | [] => []
  | range :: rest => extend range rest

/-- The set of the code points in any of the ranges. -/
def ofRanges (ranges : List CharRange) : CharSet :=
  join (ranges.mergeSort fun left right => left.first < right.first ||
    (left.first == right.first && left.last ≤ right.last))

def union (left right : CharSet) : CharSet := ofRanges (left ++ right)

/-- The characters from `low` on that lie in none of the ranges. -/
def gaps (low : Nat) : CharSet → Nat → CharSet
  | [], limit => if low ≤ limit then [⟨low, limit⟩] else []
  | range :: rest, limit =>
      if low < range.first then
        ⟨low, predecessor range.first⟩ :: gaps (successor range.last) rest limit
      else gaps (successor range.last) rest limit

/-- The code points up to `limit` outside a set. -/
def complement (set : CharSet) (limit : Nat) : CharSet := gaps 0 set limit

/-- The common part of one range with each range of a set. -/
def clip (range : CharRange) (set : CharSet) : CharSet :=
  set.filterMap fun other =>
    let first := max range.first other.first
    let last := min range.last other.last
    if first ≤ last then some ⟨first, last⟩ else none

def intersection (left right : CharSet) : CharSet :=
  ofRanges (left.flatMap fun range => clip range right)

def difference (left right : CharSet) (limit : Nat) : CharSet :=
  intersection left (complement right limit)

def symmetricDifference (left right : CharSet) (limit : Nat) : CharSet :=
  difference (union left right) (intersection left right) limit

/-- Every code point of the set lies below `bound`. -/
def below (set : CharSet) (bound : Nat) : Bool := set.all (·.last < bound)

/-- The code points of a set in ascending order. -/
def toList (set : CharSet) : List Nat :=
  set.flatMap fun range => (List.range range.size).map (range.first + ·)

end CharSet

end SeriesIndex.Unicode
