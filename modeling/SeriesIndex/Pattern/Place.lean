import SeriesIndex.Pattern.Expr
import SeriesIndex.Unicode.Property

/-!
# Places

A place cuts a byte string in two. An expression leads from places to places further on; a class
or a literal takes bytes from behind the cut, and a look asks about both sides of it.
-/

namespace SeriesIndex.Pattern

open Unicode

/-- A cut of a byte string: how many bytes lie before it, those bytes from the cut backwards, and
the bytes behind it. -/
structure Place where
  index : Nat
  before : Bytes
  after : Bytes
deriving DecidableEq, Repr

namespace Place

def start (text : Bytes) : Place := ⟨0, [], text⟩

/-- The place behind the next bytes, if there are so many. -/
def advance : Nat → Place → Option Place
  | 0, place => some place
  | width + 1, ⟨index, before, after⟩ =>
      match after with
      | [] => none
      | byte :: rest => advance width ⟨index + 1, byte :: before, rest⟩

/-- The place and all those behind it. -/
def onward (index : Nat) (before : Bytes) : Bytes → List Place
  | [] => [⟨index, before, []⟩]
  | byte :: rest => ⟨index, before, byte :: rest⟩ :: onward (index + 1) (byte :: before) rest

/-- All places of a byte string. -/
def all (text : Bytes) : List Place := onward 0 [] text

/-! ## Words -/

/-- The start of the last character before a cut, given the bytes backwards from the cut: it is
at the nearest byte that can start a character, at most four bytes back. -/
def lastStart (found : Bytes) : Nat → Bytes → Bytes
  | 0, _ => found
  | _, [] => found
  | width + 1, byte :: earlier =>
      if byte &&& 0xC0 != 0x80 then byte :: found else lastStart (byte :: found) width earlier

/-- The character before the cut; none if the bytes there are not one. -/
def charBefore? (place : Place) : Option Char :=
  (Text.Utf8.char? (lastStart [] 4 place.before)).map (·.1)

def charAfter? (place : Place) : Option Char := (Text.Utf8.char? place.after).map (·.1)

def isWordByte (byte : UInt8) : Bool :=
  byte == 0x5F || (0x30 ≤ byte && byte ≤ 0x39) || (0x41 ≤ byte && byte ≤ 0x5A) ||
    (0x61 ≤ byte && byte ≤ 0x7A)

def isWordChar (char : Char) : Bool :=
  if char.toNat < 0x80 then isWordByte (UInt8.ofNat char.toNat)
  else Property.word.contains char.toNat

/-- The place asked for lies between these sides; the last two arguments tell whether each side
is the end of the text or valid text. -/
def wordPlace (place : WordPlace) (before after validBefore validAfter : Bool) : Bool :=
  match place with
  | .boundary => before != after
  | .notBoundary => validBefore && validAfter && before == after
  | .start => !before && after
  | .finish => before && !after
  | .startHalf => validBefore && !before
  | .finishHalf => validAfter && !after

def satisfies (place : Place) : Look → Bool
  | .textStart => place.before.isEmpty
  | .textEnd => place.after.isEmpty
  | .lineStart false => place.before.isEmpty || place.before.head? == some 0x0A
  | .lineStart true =>
      place.before.isEmpty || place.before.head? == some 0x0A ||
        (place.before.head? == some 0x0D && place.after.head? != some 0x0A)
  | .lineEnd false => place.after.isEmpty || place.after.head? == some 0x0A
  | .lineEnd true =>
      place.after.isEmpty || place.after.head? == some 0x0D ||
        (place.after.head? == some 0x0A && place.before.head? != some 0x0D)
  | .word word false =>
      wordPlace word (place.before.head?.any isWordByte) (place.after.head?.any isWordByte)
        true true
  | .word word true =>
      wordPlace word (place.charBefore?.any isWordChar) (place.charAfter?.any isWordChar)
        (place.before.isEmpty || place.charBefore?.isSome)
        (place.after.isEmpty || place.charAfter?.isSome)

/-! ## Steps -/

/-- The place behind the given bytes, if they come next. -/
def take? (bytes : Bytes) (place : Place) : Option Place :=
  if bytes.isPrefixOf place.after then place.advance bytes.length else none

/-- The place behind the next character or byte, if it is a member. -/
def member? (members : Class) (place : Place) : Option Place :=
  match members with
  | .chars set =>
      match Text.Utf8.char? place.after with
      | some (char, width) => if set.contains char.toNat then place.advance width else none
      | none => none
  | .bytes set =>
      match place.after with
      | byte :: _ => if set.contains byte.toNat then place.advance 1 else none
      | [] => none

/-- The places of both lists, each once. -/
def join (left right : List Place) : List Place :=
  left ++ right.filter fun place => !left.any (·.index == place.index)

/-- Each place once. -/
def distinct (places : List Place) : List Place :=
  places.foldl (fun seen place => join seen [place]) []

/-- The places after exactly so many steps. -/
def exactly (step : List Place → List Place) : Nat → List Place → List Place
  | 0, places => places
  | count + 1, places => if places.isEmpty then [] else exactly step count (step places)

/-- The places seen and those after up to so many steps from the newest of them. -/
def upTo (step : List Place → List Place) : Nat → List Place → List Place → List Place
  | 0, seen, _ => seen
  | count + 1, seen, newest =>
      if newest.isEmpty then seen
      else
        let found := (step newest).filter fun place => !seen.any (·.index == place.index)
        upTo step count (seen ++ found) found

/-- How many places a text has of which a place is given: no more steps are worth taking. -/
def total (places : List Place) : Nat :=
  match places with
  | [] => 0
  | place :: _ => place.before.length + place.after.length + 1

/-- The places after a number of steps within the counts. -/
def repeatStep (counts : Counts) (step : List Place → List Place) (places : List Place) :
    List Place :=
  let least := exactly step counts.least places
  match counts.most with
  | some most => upTo step (most - counts.least) least least
  | none => upTo step (total least) least least

end Place

mutual

/-- The places that an expression leads to from any of the given ones. -/
def Expr.ends : Expr → List Place → List Place
  | .empty => id
  | .literal bytes => List.filterMap (Place.take? bytes)
  | .class_ members => List.filterMap (Place.member? members)
  | .look wanted => List.filter (·.satisfies wanted)
  | .repeated counts operand => Place.repeatStep counts operand.ends
  | .capture _ body => body.ends
  | .concat parts => endsOfAll parts
  | .alternation branches => fun places => Place.distinct (endsOfAny branches places)

/-- The places that the expressions lead to one after another. -/
def Expr.endsOfAll : List Expr → List Place → List Place
  | [] => id
  | part :: rest => fun places => endsOfAll rest (part.ends places)

/-- The places that any of the expressions leads to. -/
def Expr.endsOfAny : List Expr → List Place → List Place
  | [] => fun _ => []
  | branch :: rest => fun places => branch.ends places ++ endsOfAny rest places

end

/-- Some part of the text is what the expression describes. -/
def Expr.occursIn (expr : Expr) (text : Bytes) : Bool := !(expr.ends (Place.all text)).isEmpty

end SeriesIndex.Pattern
