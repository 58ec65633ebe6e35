import SeriesIndex.Pattern.Expr

/-!
# Starts of matches

Every match of an expression starts with one of the literals found here. A literal is exact if
it is a whole match and not only the start of one. Where there would be too many literals, too
long ones, or none to be told, the search for them gives up.
-/

namespace SeriesIndex.Pattern

open Unicode

structure Start where
  bytes : Bytes
  exact : Bool
deriving DecidableEq, Repr

/-- The starts of all matches; nothing, if any text can be one. -/
abbrev Starts := Option (List Start)

namespace Starts

/-- The longest literal. -/
def maxLength : Nat := 4096

/-- The largest class whose members become literals. -/
def maxClass : Nat := 10

/-- How often at most an expression is written out. -/
def maxRepeat : Nat := 10

/-- How many literals there are at most. -/
def maxTotal : Nat := 250

def exactly (bytes : Bytes) : Starts := some [⟨bytes, true⟩]

/-- None of the literals is a whole match. -/
def isInexact : Starts → Bool
  | none => true
  | some starts => starts.all fun start => !start.exact

def makeInexact (starts : Starts) : Starts :=
  starts.map fun starts => starts.map fun start => { start with exact := false }

/-- Of equal neighbours one is left, exact if both are. -/
def mergeNeighbours (starts : List Start) : List Start :=
  starts.foldr (fun start rest =>
    match rest with
    | next :: later =>
        if start.bytes = next.bytes then ⟨start.bytes, start.exact && next.exact⟩ :: later
        else start :: rest
    | [] => [start]) []

/-- Cuts the literals to a length. -/
def keepFirst (length : Nat) (starts : Starts) : Starts :=
  starts.map fun starts => starts.map fun start =>
    if start.bytes.length ≤ length then start else ⟨start.bytes.take length, false⟩

/-- Each literal of the first list followed by each of the second, where it may go on. -/
def cross (first second : Starts) : Starts :=
  let second := match first, second with
    | some left, some right => if maxTotal < left.length * right.length then none else some right
    | _, second => second
  let crossed := match first, second with
    | none, _ => none
    | some left, none =>
        if left.any (·.bytes.isEmpty) then none else makeInexact (some left)
    | some left, some right =>
        some (mergeNeighbours (left.flatMap fun start =>
          if start.exact then
            right.map fun next => ⟨start.bytes ++ next.bytes, next.exact⟩
          else [start]))
  keepFirst maxLength crossed

/-- The literals of both lists; too many of them are first cut to four bytes. -/
def union (first second : Starts) : Starts :=
  let (first, second) := match first, second with
    | some left, some right =>
        if maxTotal < left.length + right.length then
          let left := (keepFirst 4 (some left)).map mergeNeighbours
          let right := (keepFirst 4 (some right)).map mergeNeighbours
          if maxTotal < (left.getD []).length + (right.getD []).length then (left, none)
          else (left, right)
        else (first, second)
    | _, _ => (first, second)
  keepFirst maxLength (match first, second with
    | some left, some right => some (mergeNeighbours (left ++ right))
    | _, _ => none)

/-- The members of a small class. -/
def ofClass (members : Class) : Starts :=
  if maxClass < members.set.size then none
  else
    some (members.set.toList.map fun code =>
      match members with
      | .chars _ => ⟨String.utf8EncodeChar (Char.ofNat code), true⟩
      | .bytes _ => ⟨[UInt8.ofNat code], true⟩)

/-- So many times the same, until nothing can follow. -/
def power (starts : Starts) : Nat → Starts → Starts
  | 0, first => first
  | count + 1, first => if first.isInexact then first else power starts count (cross first starts)

def ofRepeated (counts : Counts) (starts : Starts) : Starts :=
  if counts.least = 0 then
    let starts := if counts.most = some 1 then starts else makeInexact starts
    if counts.greedy then union starts (exactly []) else union (exactly []) starts
  else
    let written := power starts (min counts.least maxRepeat) (exactly [])
    if counts.most = some counts.least && counts.least ≤ maxRepeat then written
    else makeInexact written

end Starts

mutual

def Expr.starts : Expr → Starts
  | .empty | .look _ => .exactly []
  | .literal bytes => Starts.keepFirst Starts.maxLength (.exactly bytes)
  | .class_ members => Starts.keepFirst Starts.maxLength (.ofClass members)
  | .repeated counts operand => .ofRepeated counts operand.starts
  | .capture _ body => body.starts
  | .concat parts => startsOfAll (.exactly []) parts
  | .alternation branches => startsOfAny (some []) branches

/-- The starts of a sequence whose first part has the given ones. -/
def Expr.startsOfAll (first : Starts) : List Expr → Starts
  | [] => first
  | part :: rest =>
      if first.isInexact then first else startsOfAll (Starts.cross first part.starts) rest

/-- The starts of a choice, with those of the branches before. -/
def Expr.startsOfAny (before : Starts) : List Expr → Starts
  | [] => before
  | branch :: rest =>
      if before.isNone then none else startsOfAny (Starts.union before branch.starts) rest

end

end SeriesIndex.Pattern
