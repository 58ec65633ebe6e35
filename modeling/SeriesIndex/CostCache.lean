import SeriesIndex.CostStore
import SeriesIndex.Filter

/-!
# Remembered costs

How many identifiers a filter had on a date is remembered, so that the next search of the same
date starts with the filter that is likely to have the fewest. What is remembered is a hint: a
store may forget it, and a filter without it has the cost of its kind.
-/

namespace SeriesIndex.CostCache

variable {σ : Type} [CostStore σ]

/-- The key of a filter on a date. -/
def key (date : UInt64) (tenant : Tenant) (filter : Filter) : Bytes :=
  Bytes.ofWord64 date ++ Bytes.ofWord32 tenant.account ++ Bytes.ofWord32 tenant.project ++
    filter.signature

/-- A count from eight bytes; other byte strings are none. -/
def count? (value : Bytes) : Option UInt64 :=
  if value.length = 8 then some (Bytes.toWord64 value) else none

/-- The count remembered last. -/
def cachedCount (costs : σ) (date : UInt64) (tenant : Tenant) (filter : Filter) :
    Option UInt64 × σ :=
  let (value, costs) := CostStore.get costs (key date tenant filter)
  (value.bind count?, costs)

/-- The cost of a filter with a count; it stays below 2⁶⁴. -/
def scaled (count : UInt64) (filter : Filter) : UInt64 :=
  UInt64.ofNat (min (count.toNat * filter.matchCost) Text.Numeral.maxWord64)

/-- What evaluating a filter is expected to cost. -/
def estimatedCost (costs : σ) (date : UInt64) (tenant : Tenant) (filter : Filter) :
    UInt64 × σ :=
  match cachedCount costs date tenant filter with
  | (some count, costs) => (scaled count filter, costs)
  | (none, costs) => (UInt64.ofNat filter.matchCost, costs)

/-- Remembers a count. If the store refuses it, nothing is remembered. -/
def record (costs : σ) (date : UInt64) (tenant : Tenant) (filter : Filter) (count : UInt64) :
    σ :=
  (CostStore.set costs (key date tenant filter) (Bytes.ofWord64 count)).2

end SeriesIndex.CostCache
