import SeriesIndex.Key.Layout
import SeriesIndex.Pattern

/-!
# Matchers

A matcher asks something of the value that a series has for a label: to be a text or not, or to
be described by a pattern or not. A series without the label has the empty value.
-/

namespace SeriesIndex

inductive MatchOp where
  | equal
  | notEqual
  | describedBy
  | notDescribedBy
deriving DecidableEq, Repr

namespace MatchOp

def text : MatchOp → String
  | equal => "="
  | notEqual => "!="
  | describedBy => "=~"
  | notDescribedBy => "!~"

def ofText? (text : String) : Option MatchOp :=
  [equal, notEqual, describedBy, notDescribedBy].find? (·.text = text)

def isNegative : MatchOp → Bool
  | equal | describedBy => false
  | notEqual | notDescribedBy => true

def isPattern : MatchOp → Bool
  | equal | notEqual => false
  | describedBy | notDescribedBy => true

/-- The operator that asks so. -/
def asking (negative pattern : Bool) : MatchOp :=
  match negative, pattern with
  | false, false => equal
  | true, false => notEqual
  | false, true => describedBy
  | true, true => notDescribedBy

end MatchOp

structure Matcher where
  name : String
  op : MatchOp
  value : String
deriving DecidableEq, Repr

namespace Matcher

/-- The matcher of series with a metric name. -/
def metric (name : String) : Matcher := ⟨Key.metricName, .equal, name⟩

/-- The operand describes the empty value. A pattern that is none does not. -/
def describesEmpty (matcher : Matcher) : Bool :=
  if matcher.op.isPattern then
    match Pattern.compile true matcher.value with
    | .ok pattern => pattern.accepts []
    | .error _ => false
  else matcher.value.isEmpty

/-- Only series that have the label can satisfy the matcher. -/
def isPositive (matcher : Matcher) : Bool := matcher.describesEmpty == matcher.op.isNegative

def render (matcher : Matcher) : String :=
  matcher.name ++ matcher.op.text ++ Text.quoted matcher.value

end Matcher

end SeriesIndex
