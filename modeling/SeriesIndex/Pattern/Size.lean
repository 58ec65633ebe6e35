import SeriesIndex.Pattern.Expr

/-!
# Size

How much memory an automaton for an expression takes. An automaton has states of one size; a
choice adds to its state an edge for each way on, and a class one for each range. A class with
characters beyond the first 128 has a state for each byte range of their encodings, where
encodings that start alike share states.
-/

namespace SeriesIndex.Pattern

open Unicode

/-- Inclusive ends of the values of one byte. -/
structure ByteRange where
  first : UInt8
  last : UInt8
deriving DecidableEq, Repr

/-! ## Encodings of a class -/

/-- Cuts a range behind the given code point, if it reaches further. -/
def cutBehind (last : Nat) (range : CharRange) : List CharRange :=
  if range.first ≤ last && last < range.last then
    [⟨range.first, last⟩, ⟨last + 1, range.last⟩]
  else [range]

/-- Parts of a range whose members have encodings of one length; halves of pairs have none. -/
def oneLength (range : CharRange) : List CharRange :=
  let parts := [0x7F, 0x7FF, 0xD7FF, 0xDFFF, 0xFFFF].foldl
    (fun parts last => parts.flatMap (cutBehind last)) [range]
  parts.filter fun part => !(0xD800 ≤ part.first && part.last ≤ 0xDFFF)

/-- Cuts off what keeps the bytes of a range from varying apart: where the code points differ
before their last `6 * width` bits, those bits have to take all values. -/
def cutAligned (width : Nat) (range : CharRange) : List CharRange :=
  let block := Nat.pow 64 width
  if range.first / block = range.last / block then [range]
  else
    let (low, rest) : List CharRange × CharRange :=
      if range.first % block = 0 then ([], range)
      else
        let next := (range.first / block + 1) * block
        ([⟨range.first, next - 1⟩], ⟨next, range.last⟩)
    let (middle, high) : List CharRange × List CharRange :=
      if rest.last % block = block - 1 then ([rest], [])
      else
        let start := rest.last / block * block
        (if rest.first < start then [⟨rest.first, start - 1⟩] else [], [⟨start, rest.last⟩])
    low ++ middle ++ high

def encodedBytes (code : Nat) : Bytes := String.utf8EncodeChar (Char.ofNat code)

/-- The byte ranges of each run of encodings of a range's members. -/
def encodedRanges (range : CharRange) : List (List ByteRange) :=
  let parts := [3, 2, 1].foldl (fun parts width => parts.flatMap (cutAligned width))
    (oneLength range)
  parts.map fun part =>
    List.zipWith ByteRange.mk (encodedBytes part.first) (encodedBytes part.last)

/-- How many byte ranges lists have in all, if each start that two neighbours share counts once. -/
def distinctStarts : List (List ByteRange) → Nat
  | [] => 0
  | [only] => only.length
  | left :: right :: rest =>
      left.length - shared left right + distinctStarts (right :: rest)
where
  shared : List ByteRange → List ByteRange → Nat
    | left :: lefts, right :: rights => if left = right then shared lefts rights + 1 else 0
    | _, _ => 0

/-! ## States and edges -/

def stateSize : Nat := 32

def rangeEdgeSize : Nat := 8

def choiceEdgeSize : Nat := 4

/-- The state of a choice between so many ways. -/
def choiceSize (ways : Nat) : Nat := stateSize + ways * choiceEdgeSize

def Class.size : Class → Nat
  | .bytes set => 2 * stateSize + set.length * rangeEdgeSize
  | .chars set =>
      if set.below 0x80 then 2 * stateSize + set.length * rangeEdgeSize
      else
        let encoded := set.flatMap encodedRanges
        stateSize + choiceSize encoded.length + distinctStarts encoded * stateSize

mutual

/-- The expression is built so that it takes a byte at least. -/
def Expr.takesText : Expr → Bool
  | .empty | .look _ => false
  | .literal bytes => !bytes.isEmpty
  | .class_ members => !members.set.isEmpty
  | .repeated counts operand => counts.least != 0 && operand.takesText
  | .capture _ body => body.takesText
  | .concat parts => anyTakesText parts
  | .alternation branches => allTakeText branches

def Expr.anyTakesText : List Expr → Bool
  | [] => false
  | part :: rest => part.takesText || anyTakesText rest

def Expr.allTakeText : List Expr → Bool
  | [] => true
  | branch :: rest => branch.takesText && allTakeText rest

end

/-- A repetition has a copy of its operand for each count up to the greatest, and if there is no
greatest then a way back from the last copy. -/
def repeatedSize (counts : Counts) (operand : Nat) (takesText : Bool) : Nat :=
  match counts.least, counts.most with
  | 0, none =>
      if takesText then operand + choiceSize 2 else operand + 2 * choiceSize 2 + stateSize
  | least, none => least * operand + choiceSize 2
  | least, some most =>
      if least = most then max (least * operand) stateSize
      else most * operand + (most - least) * choiceSize 2 + stateSize

mutual

def Expr.size : Expr → Nat
  | .empty | .look _ => stateSize
  | .literal bytes => bytes.length * stateSize
  | .class_ members => members.size
  | .repeated counts operand => repeatedSize counts operand.size operand.takesText
  | .capture _ body => body.size + 2 * stateSize
  | .concat parts => Expr.sizeOfAll parts
  | .alternation branches =>
      Expr.sizeOfAll branches + choiceSize branches.length + stateSize

def Expr.sizeOfAll : List Expr → Nat
  | [] => 0
  | part :: rest => part.size + sizeOfAll rest

end

/-- The largest automaton that is built: ten mebibytes. -/
def sizeLimit : Nat := 10485760

/-- An automaton also has a start, an end and two states around the whole match. -/
def Expr.fits (expr : Expr) : Bool := expr.size + 4 * stateSize ≤ sizeLimit

end SeriesIndex.Pattern
