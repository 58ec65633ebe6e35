import SeriesIndex.Pattern.Expr
import SeriesIndex.Pattern.Property
import SeriesIndex.Pattern.Reader
import SeriesIndex.Unicode.CaseFolding

/-!
# The meaning of a written pattern

Flags, case folding and the tables of characters are applied to a written pattern. A directive
holds from its place to the end of the group that it stands in. A pattern may be asked to match
nothing but valid UTF-8; what could match other bytes is then refused.
-/

namespace SeriesIndex.Pattern

open Unicode

structure Flags where
  ignoreCase : Bool
  multiLine : Bool
  dotMatchesNewline : Bool
  swapGreed : Bool
  unicode : Bool
  carriageReturn : Bool
deriving DecidableEq, Repr

namespace Flags

/-- The flags at the start of a pattern. -/
def default : Flags := ⟨false, false, false, false, true, false⟩

def apply (flags : Flags) (change : FlagChange) : Flags :=
  { ignoreCase := change.ignoreCase.getD flags.ignoreCase
    multiLine := change.multiLine.getD flags.multiLine
    dotMatchesNewline := change.dotMatchesNewline.getD flags.dotMatchesNewline
    swapGreed := change.swapGreed.getD flags.swapGreed
    unicode := change.unicode.getD flags.unicode
    carriageReturn := change.carriageReturn.getD flags.carriageReturn }

/-- The largest member that a class can have. -/
def limit (flags : Flags) : Nat := if flags.unicode then lastCodePoint else 0xFF

end Flags

/-- The letters of a set of bytes in both cases. -/
def foldAscii (set : CharSet) : CharSet :=
  let lower := CharSet.clip ⟨0x61, 0x7A⟩ set
  let upper := CharSet.clip ⟨0x41, 0x5A⟩ set
  CharSet.ofRanges (set ++ (lower.map fun range => ⟨range.first - 32, range.last - 32⟩) ++
    upper.map fun range => ⟨range.first + 32, range.last + 32⟩)

def Flags.fold (flags : Flags) (set : CharSet) : CharSet :=
  if flags.ignoreCase then if flags.unicode then CaseFolding.close set else foldAscii set
  else set

/-- Applies case folding and then a negation. -/
def Flags.foldAndNegate (flags : Flags) (negated : Bool) (set : CharSet) : CharSet :=
  let folded := flags.fold set
  if negated then CharSet.complement folded flags.limit else folded

/-- A set as a class. -/
def Flags.class_ (flags : Flags) (set : CharSet) : Class :=
  if flags.unicode then .chars set else .bytes set

/-- The byte that a literal stands for outside of Unicode mode, if it was written as one and is no
character of the first 128. -/
def Flags.byte? (flags : Flags) (written : Literal) : Option Nat :=
  if !flags.unicode && written.asByte && 0x7F < written.char.toNat then some written.char.toNat
  else none

def Flags.literal (flags : Flags) (textOnly : Bool) (written : Literal) : Except Fault Expr :=
  match flags.byte? written with
  | some byte => if textOnly then .error .notText else .ok (.literal [UInt8.ofNat byte])
  | none =>
      let code := written.char.toNat
      let plain := Expr.literal (String.utf8EncodeChar written.char)
      if !flags.ignoreCase then .ok plain
      else if flags.unicode then
        if CaseFolding.hasVariants code then
          .ok (.ofClass (.chars (CaseFolding.close (CharSet.single code))))
        else .ok plain
      else if written.char.isAlpha then .ok (.ofClass (.bytes (foldAscii (CharSet.single code))))
      else .ok plain

/-- The member of a class that a literal stands for. -/
def Flags.member (flags : Flags) (textOnly : Bool) (written : Literal) : Except Fault Nat :=
  match flags.byte? written with
  | some byte => if textOnly then .error .notText else .ok byte
  | none =>
      if flags.unicode || written.char.toNat < 0x80 then .ok written.char.toNat
      else .error .needsUnicode

def Flags.property (flags : Flags) (class_ : PropertyClass) : Except Fault CharSet :=
  if !flags.unicode then .error .needsUnicode
  else
    match class_.name.set? with
    | none => .error .property
    | some set => .ok (flags.foldAndNegate class_.negated set)

def Flags.perl (flags : Flags) (textOnly : Bool) (class_ : PerlClass) : Except Fault CharSet :=
  let set := if flags.unicode then class_.kind.set else class_.kind.asciiSet
  let set := if class_.negated then CharSet.complement set flags.limit else set
  if !flags.unicode && textOnly && !set.below 0x80 then .error .notText else .ok set

/-- A set under a negation, which must not bring in bytes that are no text. -/
def Flags.bracketed (flags : Flags) (textOnly negated : Bool) (set : CharSet) :
    Except Fault CharSet :=
  let set := flags.foldAndNegate negated set
  if !flags.unicode && textOnly && !set.below 0x80 then .error .notText else .ok set

def Flags.combine (flags : Flags) (operation : SetOperation) (left right : CharSet) : CharSet :=
  let left := flags.fold left
  let right := flags.fold right
  match operation with
  | .intersection => CharSet.intersection left right
  | .difference => CharSet.difference left right flags.limit
  | .symmetricDifference => CharSet.symmetricDifference left right flags.limit

mutual

def ClassSet.members (flags : Flags) (textOnly : Bool) : ClassSet → Except Fault CharSet
  | .empty => .ok []
  | .literal written => do return CharSet.single (← flags.member textOnly written)
  | .range first last => do
      return [⟨← flags.member textOnly first, ← flags.member textOnly last⟩]
  | .ascii name negated => flags.bracketed textOnly negated (asciiSet name)
  | .property class_ => flags.property class_
  | .perl class_ => flags.perl textOnly class_
  | .bracketed negated set => do
      flags.bracketed textOnly negated (← set.members flags textOnly)
  | .union items => do return CharSet.ofRanges (← allMembers flags textOnly items)
  | .combined operation left right => do
      let left ← left.members flags textOnly
      let right ← right.members flags textOnly
      return flags.combine operation left right

def ClassSet.allMembers (flags : Flags) (textOnly : Bool) :
    List ClassSet → Except Fault (List CharRange)
  | [] => .ok []
  | set :: rest => do
      let first ← set.members flags textOnly
      return first ++ (← allMembers flags textOnly rest)

end

/-- Any character but the ends of lines, or any at all. -/
def Flags.dot (flags : Flags) (textOnly : Bool) : Except Fault Expr :=
  if textOnly && !flags.unicode then .error .notText
  else
    let ends : CharSet :=
      if flags.dotMatchesNewline then []
      else if flags.carriageReturn then [⟨0x0A, 0x0A⟩, ⟨0x0D, 0x0D⟩]
      else [⟨0x0A, 0x0A⟩]
    let set := CharSet.complement ends flags.limit
    .ok (.ofClass (flags.class_ set))

def Flags.look (flags : Flags) : Assertion → Look
  | .lineStart => if flags.multiLine then .lineStart flags.carriageReturn else .textStart
  | .lineEnd => if flags.multiLine then .lineEnd flags.carriageReturn else .textEnd
  | .textStart => .textStart
  | .textEnd => .textEnd
  | .wordBoundary => .word .boundary flags.unicode
  | .notWordBoundary => .word .notBoundary flags.unicode
  | .wordStart => .word .start flags.unicode
  | .wordEnd => .word .finish flags.unicode
  | .wordStartHalf => .word .startHalf flags.unicode
  | .wordEndHalf => .word .finishHalf flags.unicode

mutual

/-- The expression of a written pattern, and the flags that hold behind it. -/
def Written.toExpr (textOnly : Bool) (flags : Flags) : Written → Except Fault (Expr × Flags)
  | .empty => .ok (.empty, flags)
  | .flags change => .ok (.empty, flags.apply change)
  | .literal written => do return (← flags.literal textOnly written, flags)
  | .dot => do return (← flags.dot textOnly, flags)
  | .assertion place => .ok (.look (flags.look place), flags)
  | .property class_ => do return (.ofClass (.chars (← flags.property class_)), flags)
  | .perl class_ => do
      return (.ofClass (flags.class_ (← flags.perl textOnly class_)), flags)
  | .bracketed negated set => do
      let set ← flags.bracketed textOnly negated (← set.members flags textOnly)
      return (.ofClass (flags.class_ set), flags)
  | .repeated counts operand => do
      let (operand, flags) ← operand.toExpr textOnly flags
      return (.ofRepeated { counts with greedy := counts.greedy != flags.swapGreed } operand,
        flags)
  | .group (.capture index _) body => do
      return (.capture index (← body.toExpr textOnly flags).1, flags)
  | .group (.plain change) body => do
      return ((← body.toExpr textOnly (flags.apply change)).1, flags)
  | .concat parts => do
      let (parts, flags) ← toExprs textOnly flags parts
      return (.ofConcat parts, flags)
  | .alternation branches => do
      let (branches, flags) ← toExprs textOnly flags branches
      return (.ofAlternation branches, flags)

def Written.toExprs (textOnly : Bool) (flags : Flags) :
    List Written → Except Fault (List Expr × Flags)
  | [] => .ok ([], flags)
  | part :: rest => do
      let (part, flags) ← part.toExpr textOnly flags
      let (rest, flags) ← toExprs textOnly flags rest
      return (part :: rest, flags)

end

/-- The expression of a pattern text. -/
def Expr.parse (textOnly : Bool) (text : List Char) : Except Fault Expr := do
  let written ← Written.parse text
  return (← written.toExpr textOnly .default).1

end SeriesIndex.Pattern
