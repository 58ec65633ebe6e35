import SeriesIndex.Bytes
import SeriesIndex.Pattern.Written
import SeriesIndex.Text.Utf8
import SeriesIndex.Unicode.CharSet

/-!
# Expressions

What a pattern means: literal bytes, classes, places, repetitions, sequences and choices, with
flags, case and character tables applied. Expressions are built by functions that bring them
into a simple form: adjacent literals are one, nested sequences and choices are flat, a choice
of single characters is a class, and branches that start alike share their start.
-/

namespace SeriesIndex.Pattern

open Unicode

/-- A set of characters, or one of single bytes. -/
inductive Class where
  | chars (set : CharSet)
  | bytes (set : CharSet)
deriving DecidableEq, Repr

inductive WordPlace where
  | boundary
  | notBoundary
  | start
  | finish
  | startHalf
  | finishHalf
deriving DecidableEq, Repr

/-- A place in the text. Lines may end in carriage returns too, and words may have all letters or
only those of the first 128 characters. -/
inductive Look where
  | textStart
  | textEnd
  | lineStart (carriageReturn : Bool)
  | lineEnd (carriageReturn : Bool)
  | word (place : WordPlace) (unicode : Bool)
deriving DecidableEq, Repr

inductive Expr where
  | empty
  | literal (bytes : Bytes)
  | class_ (members : Class)
  | look (place : Look)
  | repeated (counts : Counts) (operand : Expr)
  | capture (index : Nat) (body : Expr)
  | concat (parts : List Expr)
  | alternation (branches : List Expr)
deriving Inhabited

mutual

/-- The expressions are built of the same parts. -/
def Expr.same : Expr → Expr → Bool
  | .empty, .empty => true
  | .literal left, .literal right => left == right
  | .class_ left, .class_ right => left == right
  | .look left, .look right => left == right
  | .repeated counts left, .repeated others right => counts == others && left.same right
  | .capture index left, .capture other right => index == other && left.same right
  | .concat lefts, .concat rights => allSame lefts rights
  | .alternation lefts, .alternation rights => allSame lefts rights
  | _, _ => false

def Expr.allSame : List Expr → List Expr → Bool
  | [], [] => true
  | left :: lefts, right :: rights => left.same right && allSame lefts rights
  | _, _ => false

end

instance : BEq Expr := ⟨Expr.same⟩

namespace Class

def set : Class → CharSet
  | chars set => set
  | bytes set => set

/-- The bytes of the only member, if there is one only. -/
def literal? : Class → Option Bytes
  | chars [range] =>
      if range.first = range.last then some (String.utf8EncodeChar (Char.ofNat range.first))
      else none
  | bytes [range] => if range.first = range.last then some [UInt8.ofNat range.first] else none
  | _ => none

end Class

namespace Expr

/-- Matches nothing. -/
def fail : Expr := .class_ (.bytes [])

def ofBytes (bytes : Bytes) : Expr := if bytes.isEmpty then .empty else .literal bytes

def ofClass (members : Class) : Expr :=
  if members.set.isEmpty then fail
  else
    match members.literal? with
    | some bytes => ofBytes bytes
    | none => .class_ members

mutual

/-- The expression is built so that it can match the empty text alone. -/
def takesNothing : Expr → Bool
  | .empty | .look _ => true
  | .literal _ | .class_ _ => false
  | .repeated counts operand => counts.most.isSome && operand.takesNothing
  | .capture _ body => body.takesNothing
  | .concat parts | .alternation parts => allTakeNothing parts

def allTakeNothing : List Expr → Bool
  | [] => true
  | part :: rest => part.takesNothing && allTakeNothing rest

end

/-- A repetition. What takes nothing is repeated once at most. -/
def ofRepeated (counts : Counts) (operand : Expr) : Expr :=
  let counts :=
    if operand.takesNothing then
      { counts with
        least := min counts.least 1
        most := some (match counts.most with | some most => min most 1 | none => 1) }
    else counts
  if counts.least = 0 && counts.most = some 0 then .empty
  else if counts.least = 1 && counts.most = some 1 then operand
  else .repeated counts operand

/-- The parts of a sequence without nesting. -/
def flatParts (parts : List Expr) : List Expr :=
  parts.flatMap fun
    | .concat inner => inner
    | part => [part]

/-- Joins adjacent literals and leaves out what is empty. -/
def joinLiterals : List Expr → List Expr
  | [] => []
  | .empty :: rest => joinLiterals rest
  | .literal bytes :: rest =>
      match joinLiterals rest with
      | .literal more :: later => .literal (bytes ++ more) :: later
      | later => .literal bytes :: later
  | part :: rest => part :: joinLiterals rest

def ofConcat (parts : List Expr) : Expr :=
  match joinLiterals (flatParts parts) with
  | [] => .empty
  | [part] => part
  | parts => .concat parts

/-- The character that an expression matches alone, if there is one. -/
def singleChar? : Expr → Option CharRange
  | .literal bytes =>
      match Text.Utf8.char? bytes with
      | some (char, width) =>
          if bytes.length = width then some ⟨char.toNat, char.toNat⟩ else none
      | none => none
  | _ => none

/-- The byte that an expression matches alone, if there is one. -/
def singleByte? : Expr → Option CharRange
  | .literal [byte] => some ⟨byte.toNat, byte.toNat⟩
  | _ => none

/-- The characters of a class, if it has characters for members. -/
def classChars? : Expr → Option CharSet
  | .class_ (.chars set) => some set
  | .class_ (.bytes set) => if set.below 0x80 then some set else none
  | _ => none

/-- The bytes of a class, if it has bytes for members. -/
def classBytes? : Expr → Option CharSet
  | .class_ (.bytes set) => some set
  | .class_ (.chars set) => if set.below 0x80 then some set else none
  | _ => none

/-- The branches as one class, if each is a member or each is a class. -/
def asClass? (branches : List Expr) : Option Class :=
  match branches.mapM singleChar? with
  | some ranges => some (.chars (CharSet.ofRanges ranges))
  | none =>
      match branches.mapM singleByte? with
      | some ranges => some (.bytes (CharSet.ofRanges ranges))
      | none =>
          match branches.mapM classChars? with
          | some sets => some (.chars (CharSet.ofRanges sets.flatten))
          | none =>
              (branches.mapM classBytes?).map fun sets => .bytes (CharSet.ofRanges sets.flatten)

/-- The branches of a choice without nesting. -/
def flatBranches (branches : List Expr) : List Expr :=
  branches.flatMap fun
    | .alternation inner => inner
    | branch => [branch]

def concatParts? : Expr → Option (List Expr)
  | .concat parts => some parts
  | _ => none

/-- How many parts two sequences start with in common. -/
def commonLength : List Expr → List Expr → Nat
  | left :: lefts, right :: rights => if left == right then commonLength lefts rights + 1 else 0
  | _, _ => 0

/-- How many parts all the sequences start with in common. -/
def sharedLength : List (List Expr) → Nat
  | [] => 0
  | first :: rest =>
      rest.foldl (fun length parts => min length (commonLength first parts)) first.length

/-- A choice. Sequences that start alike share their start, and so do the rests of them: `fuel`
bounds how often. -/
def choose (fuel : Nat) (branches : List Expr) : Expr :=
  match flatBranches branches with
  | [] => fail
  | [branch] => branch
  | branches =>
      match asClass? branches with
      | some members => ofClass members
      | none =>
          match fuel, branches.mapM concatParts? with
          | fuel + 1, some (first :: rest) =>
              let shared := sharedLength (first :: rest)
              if shared = 0 then .alternation branches
              else
                ofConcat (first.take shared ++
                  [choose fuel ((first :: rest).map fun parts => ofConcat (parts.drop shared))])
          | _, _ => .alternation branches

mutual

/-- The number of nodes of an expression. -/
def nodes : Expr → Nat
  | .repeated _ operand => operand.nodes + 1
  | .capture _ body => body.nodes + 1
  | .concat parts | .alternation parts => allNodes parts + 1
  | _ => 1

def allNodes : List Expr → Nat
  | [] => 0
  | part :: rest => part.nodes + allNodes rest

end

def ofAlternation (branches : List Expr) : Expr := choose (allNodes branches) branches

end Expr

end SeriesIndex.Pattern
