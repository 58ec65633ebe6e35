import SeriesIndex.Key.Layout

/-!
# Rows

A row is a measurement as it arrives: a metric, labels, a time and a value. Its canonical labels
name the series it belongs to. They are the metric under its own name, then one label for each
other name that has a value, in the order of names; of several values the last one counts.
-/

namespace SeriesIndex

structure Label where
  name : String
  value : String
deriving DecidableEq, Repr, Inhabited

namespace Label

def render (label : Label) : String := label.name ++ "=" ++ Text.quoted label.value

/-- The name and the value as byte strings. -/
def toBytes (label : Label) : Bytes × Bytes := (Bytes.ofText label.name, Bytes.ofText label.value)

/-- The order of names by their bytes. -/
def notAfter (left right : Label) : Bool :=
  !decide (Bytes.ofText right.name < Bytes.ofText left.name)

end Label

structure Row where
  metric : String
  labels : List Label
  time : UInt64
  value : String
deriving DecidableEq, Repr

namespace Row

/-- The label takes part in naming a series. -/
def names (label : Label) : Bool := !label.value.isEmpty && label.name != Key.metricName

/-- The labels without those that a later one with the same name replaces. -/
def lastOfEach : List Label → List Label
  | [] => []
  | label :: rest =>
      if rest.any (·.name == label.name) then lastOfEach rest else label :: lastOfEach rest

def canonicalLabels (row : Row) : List Label :=
  ⟨Key.metricName, row.metric⟩ ::
    (lastOfEach (row.labels.filter names)).mergeSort Label.notAfter

end Row

/-- Times from `start` on and before `stop`. -/
structure TimeRange where
  start : UInt64
  stop : UInt64
  ordered : start ≤ stop
deriving DecidableEq, Repr

namespace TimeRange

def between? (start stop : UInt64) : Option TimeRange :=
  if ordered : start ≤ stop then some ⟨start, stop, ordered⟩ else none

def contains (range : TimeRange) (time : UInt64) : Bool :=
  range.start ≤ time && time < range.stop

end TimeRange

end SeriesIndex
