import SeriesIndex.CostCache
import SeriesIndex.Proofs.RecentMap

/-!
# Costs in any order

A store is steady if it can be asked for costs in any order: what it answers does not depend on what
it was asked before. A recent map is steady, although a question moves the entry that it finds. The
cost that is expected of a filter is then the same whichever filters were looked up before it.
-/

namespace SeriesIndex

/-- What the store answers does not depend on what it was asked before. -/
class CostStore.Steady (σ : Type) [CostStore σ] : Prop where
  get_get (costs : σ) (asked key : Bytes) :
    (CostStore.get (CostStore.get costs asked).2 key).1 = (CostStore.get costs key).1

namespace RecentCosts

theorem get_fst (costs : RecentCosts) (key : Bytes) : (costs.get key).1 = costs.map.peek? key := by
  unfold get RecentMap.use
  cases costs.map.peek? key with
  | none => rfl
  | some value => rfl

theorem get_map (costs : RecentCosts) (key : Bytes) :
    (costs.get key).2.map = (costs.map.use key).2 := by
  unfold get RecentMap.use
  cases costs.map.peek? key with
  | none => rfl
  | some value => rfl

instance : CostStore.Steady RecentCosts where
  get_get costs asked key := by
    change ((costs.get asked).2.get key).1 = (costs.get key).1
    rw [get_fst, get_fst, get_map, RecentMap.peek?_use]

end RecentCosts

instance : CostStore.Steady NoCosts := ⟨fun _ _ _ => rfl⟩

namespace CostCache

variable {σ : Type} [CostStore σ]

/-- The cost of a filter for which the store answers so. -/
def costOf (answer : Option Bytes) (filter : Filter) : UInt64 :=
  match answer.bind count? with
  | some count => scaled count filter
  | none => UInt64.ofNat filter.matchCost

theorem estimatedCost_eq (costs : σ) (date : UInt64) (tenant : Tenant) (filter : Filter) :
    estimatedCost costs date tenant filter =
      (costOf (CostStore.get costs (key date tenant filter)).1 filter,
        (CostStore.get costs (key date tenant filter)).2) := by
  unfold estimatedCost cachedCount costOf
  dsimp only
  cases (CostStore.get costs (key date tenant filter)).1.bind count? with
  | none => rfl
  | some count => rfl

/-- A filter has the same cost whichever filter was looked up before it. -/
theorem estimatedCost_after [CostStore.Steady σ] (costs : σ) (date : UInt64) (tenant : Tenant)
    (asked filter : Filter) :
    (estimatedCost (estimatedCost costs date tenant asked).2 date tenant filter).1 =
      (estimatedCost costs date tenant filter).1 := by
  simp only [estimatedCost_eq, CostStore.Steady.get_get]

end CostCache

end SeriesIndex
