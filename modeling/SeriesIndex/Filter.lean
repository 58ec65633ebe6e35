import SeriesIndex.Ascending
import SeriesIndex.Matcher
import SeriesIndex.SearchError

/-!
# Filters

A filter is a matcher made ready for the index. It selects postings of one label: those of a few
listed values, or those whose value a pattern accepts, among the values with a common start. A
pattern that accepts the empty value also describes series without the label, which have no
postings; such a filter is inverted, so that it selects the values the pattern rejects and counts
for the opposite.
-/

namespace SeriesIndex

/-- The postings of a label that a filter is about. -/
inductive Selection where
  | listed (values : List Bytes)
  | scanned (start : Bytes) (pattern : Pattern)

structure Filter where
  tenant : Tenant
  name : String
  /-- The value or pattern text. -/
  text : String
  /-- The text is a pattern. -/
  isPattern : Bool
  /-- Series with selected postings do not match. -/
  negative : Bool
  /-- The values selected are those that the pattern rejects. -/
  inverted : Bool
  selection : Selection

namespace Filter

/-- Byte strings in ascending order, each once. -/
def sortedValues (values : List Bytes) : List Bytes := Ascending.ofList values

/-- What the values of a pattern text select. -/
def select (text : String) (pattern : Pattern) : Selection :=
  match Pattern.Shape.ofText text with
  | .finite values =>
      let accepted := values.filter pattern.accepts
      if accepted.isEmpty then .scanned [] pattern else .listed (sortedValues accepted)
  | .startsWith literal => .scanned literal pattern
  | .unknown => .scanned [] pattern

def ofPattern (tenant : Tenant) (name text : String) (negative : Bool) :
    Except SearchError Filter :=
  match Pattern.compile false text with
  | .error refusal => .error (.badPattern name text refusal)
  | .ok pattern =>
      if pattern.accepts [] then
        .ok ⟨tenant, name, text, true, !negative, true, .scanned [] pattern⟩
      else .ok ⟨tenant, name, text, true, negative, false, select text pattern⟩

def ofValue (tenant : Tenant) (name text : String) (negative : Bool) : Filter :=
  ⟨tenant, name, text, false, negative, false, .listed [Bytes.ofText text]⟩

/-- The filter of a matcher. Without a name it is about the metric, and to have the empty value
is not to have one described by `.+`. -/
def ofMatcher (tenant : Tenant) (matcher : Matcher) : Except SearchError Filter :=
  let name := if matcher.name.isEmpty then Key.metricName else matcher.name
  if matcher.value.isEmpty then ofPattern tenant name ".+" (!matcher.op.isNegative)
  else if matcher.op.isPattern then ofPattern tenant name matcher.value matcher.op.isNegative
  else .ok (ofValue tenant name matcher.value matcher.op.isNegative)

/-- What the postings of the label start with. -/
def labelKey (filter : Filter) : Bytes := Key.namePrefix filter.tenant (Bytes.ofText filter.name)

/-- What the postings start with that the filter has to look at. -/
def key (filter : Filter) : Bytes :=
  match filter.selection with
  | .listed _ => filter.labelKey
  | .scanned start _ => filter.labelKey ++ Key.escape start

/-- What follows the key in the postings looked at, one for each listed value. -/
def suffixes (filter : Filter) : List Bytes :=
  match filter.selection with
  | .listed values => values.map Key.escape
  | .scanned _ _ => [[]]

def pattern? (filter : Filter) : Option Pattern :=
  match filter.selection with
  | .listed _ => none
  | .scanned _ pattern => some pattern

/-- All postings with the key have to be looked at, since nothing follows it. -/
def isFullScan (filter : Filter) : Bool := filter.suffixes == [[]]

/-- The cost of looking up one listed value. -/
def valueCost : Nat := 10

/-- The cost of looking at all values. -/
def scanCost : Nat := 10000

/-- The cost of a filter about which nothing else is known. -/
def matchCost (filter : Filter) : Nat :=
  match filter.selection with
  | .listed values => values.length * valueCost
  | .scanned _ _ => scanCost

/-- The byte that tells the operators of filters apart. -/
def flags (filter : Filter) : UInt8 :=
  (if filter.negative != filter.inverted then 1 else 0) ||| (if filter.isPattern then 2 else 0) |||
    (if filter.inverted then 4 else 0)

/-- Names the filter among those of a tenant: its operator, label and operand. -/
def signature (filter : Filter) : Bytes :=
  filter.flags :: Key.name (Bytes.ofText filter.name) ++ Bytes.ofText filter.text

/-- The operator of the matcher that the filter was made of. -/
def op (filter : Filter) : MatchOp :=
  .asking (filter.negative != filter.inverted) filter.isPattern

def render (filter : Filter) : String :=
  filter.name ++ filter.op.text ++ Text.quoted filter.text

end Filter

/-- The filters that a series has to pass, each once, in the order in which they were added. -/
structure FilterSet where
  tenant : Tenant
  filters : List Filter

namespace FilterSet

def empty (tenant : Tenant) : FilterSet := ⟨tenant, []⟩

/-- What every posting of the tenant starts with. -/
def key (set : FilterSet) : Bytes := Key.scope .posting set.tenant

/-- Adds a filter, unless it is there. -/
def insert (set : FilterSet) (filter : Filter) : FilterSet :=
  if set.filters.any (·.signature == filter.signature) then set
  else { set with filters := set.filters ++ [filter] }

def add (set : FilterSet) (matcher : Matcher) : Except SearchError FilterSet :=
  (Filter.ofMatcher set.tenant matcher).map set.insert

def render (set : FilterSet) : String :=
  "\x7b" ++ ", ".intercalate (set.filters.map (·.render)) ++ "\x7d"

/-- A search starts with a filter that is not negative, so there has to be one. -/
def validate (set : FilterSet) : Except SearchError Unit :=
  if set.filters.isEmpty then .error .noFilters
  else if set.filters.all (·.negative) then .error (.noPositive set.render)
  else .ok ()

/-- Adds the filter of each matcher. -/
def addAll (set : FilterSet) : List Matcher → Except SearchError FilterSet
  | [] => .ok set
  | matcher :: rest => do (← set.add matcher).addAll rest

/-- The filters of a whole selector, which have to allow a search. -/
def ofMatchers (tenant : Tenant) (matchers : List Matcher) : Except SearchError FilterSet := do
  let set ← (empty tenant).addAll matchers
  set.validate
  return set

end FilterSet

end SeriesIndex
