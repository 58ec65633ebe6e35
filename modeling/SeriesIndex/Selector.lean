import SeriesIndex.Matcher

/-!
# Selectors

A selector is a list of matchers; it selects the series that satisfy all of them.
-/

namespace SeriesIndex

structure Selector where
  matchers : List Matcher
deriving DecidableEq, Repr

namespace Selector

/-- Some matcher can only be satisfied by series that have its label, so a search can start with
it. -/
def hasPositive (selector : Selector) : Bool := selector.matchers.any (·.isPositive)

def render (selector : Selector) : String :=
  "\x7b" ++ ", ".intercalate (selector.matchers.map (·.render)) ++ "\x7d"

end Selector

inductive SelectorError where
  | unexpected (rest : String)
  | empty
  | noPositive (selector : String)
deriving DecidableEq, Repr

def SelectorError.message : SelectorError → String
  | unexpected rest => s!"Parse error: Unexpected input after selector: '{rest}'"
  | empty => "Empty selector"
  | noPositive selector =>
      s!"Invalid selector: {selector} has no matcher selecting a non-empty value"

end SeriesIndex
