import SeriesIndex.Pattern.Literals
import SeriesIndex.Pattern.Meaning
import SeriesIndex.Pattern.Place
import SeriesIndex.Pattern.Size

/-!
# Patterns

A pattern is compiled so that it describes whole values: its text is put between the start and
the end of a value. Beside that, the shape of the bare text tells whether it describes a few
values only, or values with a common start.
-/

namespace SeriesIndex

structure Pattern where
  text : String
  expr : Pattern.Expr

namespace Pattern

/-- Why a text is not a pattern. -/
inductive Refusal where
  | malformed (fault : Fault)
  | tooLarge
deriving DecidableEq, Repr

def Refusal.message : Refusal → String
  | malformed fault => s!"regex parse error: {fault.message}"
  | tooLarge => s!"Compiled regex exceeds size limit of {sizeLimit} bytes."

/-- A text that matches whole values. -/
def anchored (text : String) : String := "^(?:" ++ text ++ ")$"

/-- The pattern of a text. With `textOnly`, expressions that could match a part of a character
are refused. -/
def compile (textOnly : Bool) (text : String) : Except Refusal Pattern :=
  match Expr.parse textOnly (anchored text).toList with
  | .error fault => .error (.malformed fault)
  | .ok expr => if expr.fits then .ok ⟨text, expr⟩ else .error .tooLarge

def accepts (pattern : Pattern) (value : Bytes) : Bool := pattern.expr.occursIn value

/-- What a pattern text tells about the values it describes. -/
inductive Shape where
  | finite (values : List Bytes)
  | startsWith (literal : Bytes)
  | unknown
deriving DecidableEq, Repr

/-- How many values are told apart; with more of them a pattern counts as unbounded. -/
def maxValues : Nat := 100

/-- The literal that a sequence starts with. -/
def Expr.leading? : Expr → Option Bytes
  | .concat (.literal bytes :: _) => some bytes
  | _ => none

/-- The values, if all matches are known and few. -/
def Expr.fewValues? (expr : Expr) : Option (List Bytes) :=
  match expr.starts with
  | some starts =>
      if starts.all (·.exact) && starts.length ≤ maxValues then some (starts.map (·.bytes))
      else none
  | none => none

def Expr.shape (expr : Expr) : Shape :=
  match expr.fewValues?, expr.leading? with
  | some values, _ => .finite values
  | none, some start => .startsWith start
  | none, none => .unknown

/-- The shape of a text that stands alone; one that is no pattern by itself has none. -/
def Shape.ofText (text : String) : Shape :=
  match Expr.parse true text.toList with
  | .ok expr => expr.shape
  | .error _ => .unknown

end Pattern

end SeriesIndex
