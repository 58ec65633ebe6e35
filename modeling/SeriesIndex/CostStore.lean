import SeriesIndex.Bytes
import SeriesIndex.RecentMap

/-!
# Cost stores

A cost store keeps byte strings under keys for as long as it pleases, and may refuse to. The
usual one is a recent map that counts how often it found what it was asked for.
-/

namespace SeriesIndex

/-- What a store of type `σ` answers, and how that and a write change it. A write tells whether
it was accepted. -/
class CostStore (σ : Type) where
  get : σ → Bytes → Option Bytes × σ
  set : σ → Bytes → Bytes → Bool × σ

/-- A recent map with its counts of hits and misses. -/
structure RecentCosts where
  map : RecentMap Bytes Bytes
  hits : Nat
  misses : Nat

namespace RecentCosts

def empty (capacity : Nat) : RecentCosts := ⟨.empty capacity, 0, 0⟩

def get (costs : RecentCosts) (key : Bytes) : Option Bytes × RecentCosts :=
  match costs.map.use key with
  | (some value, map) => (some value, { costs with map := map, hits := costs.hits + 1 })
  | (none, map) => (none, { costs with map := map, misses := costs.misses + 1 })

def set (costs : RecentCosts) (key value : Bytes) : RecentCosts :=
  { costs with map := costs.map.put key value }

instance : CostStore RecentCosts := ⟨get, fun costs key value => (true, costs.set key value)⟩

/-- The integer nearest to a quotient, of two the even one. -/
def nearest (dividend divisor : Nat) : Nat :=
  let below := dividend / divisor
  let rest := dividend % divisor
  if divisor < 2 * rest || (2 * rest == divisor && below % 2 == 1) then below + 1 else below

/-- How many binary places a part of a whole has if it is written with 53 significant digits. -/
def binaryPlaces (part whole : Nat) : Nat :=
  let places := 53 + whole.log2 - part.log2
  if part * Nat.pow 2 places < whole * Nat.pow 2 53 then places else places - 1

/-- The part of the requests that were hits, in millionths. The rate is kept with 53 significant
binary digits, so that is what is rounded. -/
def hitMillionths (costs : RecentCosts) : Nat :=
  let total := costs.hits + costs.misses
  if costs.hits = 0 then 0
  else
    let unit := Nat.pow 2 (binaryPlaces costs.hits total)
    nearest (nearest (costs.hits * unit) total * 1000000) unit

/-- The hit rate with six decimal places. -/
def hitRate (costs : RecentCosts) : String :=
  let millionths := costs.hitMillionths
  let digits := (toString (millionths % 1000000)).toList
  toString (millionths / 1000000) ++ "." ++
    String.ofList (List.replicate (6 - digits.length) '0' ++ digits)

end RecentCosts

/-- A store that finds nothing and accepts nothing. -/
inductive NoCosts where
  | unavailable

instance : CostStore NoCosts := ⟨fun store _ => (none, store), fun store _ _ => (false, store)⟩

end SeriesIndex
