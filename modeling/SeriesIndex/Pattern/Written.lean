/-!
# Patterns as written

The tree of a pattern text: every construct that can be written, before flags, case and character
tables have been applied to it.
-/

namespace SeriesIndex.Pattern

/-- Why a text is not a pattern. -/
inductive Fault where
  | endsEarly
  | unclosedGroup
  | unopenedGroup
  | groupName
  | flag
  | nothingToRepeat
  | repetitionCount
  | escape
  | lookaround
  | backreference
  | unclosedClass
  | classRange
  | property
  | needsUnicode
  | notText
  | tooDeep
  | tooLarge
deriving DecidableEq, Repr

def Fault.message : Fault → String
  | endsEarly => "the pattern ends early"
  | unclosedGroup => "unclosed group"
  | unopenedGroup => "unopened group"
  | groupName => "invalid group name"
  | flag => "invalid flags"
  | nothingToRepeat => "repetition without an expression"
  | repetitionCount => "invalid repetition count"
  | escape => "invalid escape"
  | lookaround => "looking around is not supported"
  | backreference => "references to groups are not supported"
  | unclosedClass => "unclosed character class"
  | classRange => "invalid character class range"
  | property => "unknown character property"
  | needsUnicode => "only allowed in Unicode mode"
  | notText => "the pattern can match invalid UTF-8"
  | tooDeep => "nested too deeply"
  | tooLarge => "the compiled pattern is too large"

/-- A character, and whether it was written as a byte of two hexadecimal digits. -/
structure Literal where
  char : Char
  asByte : Bool
deriving DecidableEq, Repr, Inhabited

/-- What a directive or a group does to each flag; nothing, if it does not name it. -/
structure FlagChange where
  ignoreCase : Option Bool
  multiLine : Option Bool
  dotMatchesNewline : Option Bool
  swapGreed : Option Bool
  unicode : Option Bool
  carriageReturn : Option Bool
  ignoreBlanks : Option Bool
deriving DecidableEq, Repr, Inhabited

/-- A directive that changes nothing. -/
def FlagChange.none : FlagChange := ⟨.none, .none, .none, .none, .none, .none, .none⟩

/-- A place that an expression can ask for without taking a character. -/
inductive Assertion where
  | lineStart
  | lineEnd
  | textStart
  | textEnd
  | wordBoundary
  | notWordBoundary
  | wordStart
  | wordEnd
  | wordStartHalf
  | wordEndHalf
deriving DecidableEq, Repr

inductive PerlKind where
  | digit
  | space
  | word
deriving DecidableEq, Repr

structure PerlClass where
  kind : PerlKind
  negated : Bool
deriving DecidableEq, Repr

/-- The name of a set of characters: a property alone, or a property and one of its values. -/
inductive PropertyName where
  | alone (name : String)
  | valued (property value : String)
deriving DecidableEq, Repr

structure PropertyClass where
  name : PropertyName
  negated : Bool
deriving DecidableEq, Repr

inductive SetOperation where
  | intersection
  | difference
  | symmetricDifference
deriving DecidableEq, Repr

/-- What stands between the brackets of a class. -/
inductive ClassSet where
  | empty
  | literal (literal : Literal)
  | range (first last : Literal)
  | ascii (name : String) (negated : Bool)
  | property (class_ : PropertyClass)
  | perl (class_ : PerlClass)
  | bracketed (negated : Bool) (set : ClassSet)
  | union (items : List ClassSet)
  | combined (operation : SetOperation) (left right : ClassSet)

inductive GroupKind where
  | capture (index : Nat) (name : Option String)
  | plain (flags : FlagChange)
deriving DecidableEq, Repr

/-- How often an expression is repeated; without a last count, as often as it can be. -/
structure Counts where
  least : Nat
  most : Option Nat
  greedy : Bool
deriving DecidableEq, Repr

inductive Written where
  | empty
  | flags (change : FlagChange)
  | literal (literal : Literal)
  | dot
  | assertion (assertion : Assertion)
  | property (class_ : PropertyClass)
  | perl (class_ : PerlClass)
  | bracketed (negated : Bool) (set : ClassSet)
  | repeated (counts : Counts) (operand : Written)
  | group (kind : GroupKind) (body : Written)
  | concat (parts : List Written)
  | alternation (branches : List Written)

mutual

/-- How deeply the brackets of a class are nested. -/
def ClassSet.depth : ClassSet → Nat
  | .bracketed _ set => set.depth + 1
  | .union items => depths items + 1
  | .combined _ left right => max left.depth right.depth + 1
  | _ => 0

/-- The greatest depth of any of the sets. -/
def ClassSet.depths : List ClassSet → Nat
  | [] => 0
  | set :: rest => max set.depth (depths rest)

end

mutual

/-- How deeply an expression is nested. -/
def Written.depth : Written → Nat
  | .bracketed _ set => set.depth + 1
  | .repeated _ operand => operand.depth + 1
  | .group _ body => body.depth + 1
  | .concat parts => depths parts + 1
  | .alternation branches => depths branches + 1
  | _ => 0

/-- The greatest depth of any of the expressions. -/
def Written.depths : List Written → Nat
  | [] => 0
  | part :: rest => max part.depth (depths rest)

end

namespace Written

/-- Parts one after another. -/
def sequence : List Written → Written
  | [] => .empty
  | [part] => part
  | parts => .concat parts

/-- A choice between branches. -/
def choice : List Written → Written
  | [branch] => branch
  | branches => .alternation branches

end Written

end SeriesIndex.Pattern
