/-!
# Durations

A duration is a number of nanoseconds. It is shown in the largest of four units that it reaches,
with as many decimal places as it needs.
-/

namespace SeriesIndex.Text.Duration

/-- The decimal places of `rest / unit`, without zeros at the end; `unit` is a power of ten. -/
def places : Nat → Nat → List Char
  | 0, _ => []
  | width + 1, rest =>
      if rest = 0 then []
      else Nat.digitChar (rest / Nat.pow 10 width) :: places width (rest % Nat.pow 10 width)

/-- A duration in units of `10 ^ width` nanoseconds. -/
def inUnit (nanoseconds width : Nat) (name : String) : String :=
  let whole := toString (nanoseconds / Nat.pow 10 width)
  match places width (nanoseconds % Nat.pow 10 width) with
  | [] => whole ++ name
  | digits => whole ++ "." ++ String.ofList digits ++ name

def render (nanoseconds : Nat) : String :=
  if 1000000000 ≤ nanoseconds then inUnit nanoseconds 9 "s"
  else if 1000000 ≤ nanoseconds then inUnit nanoseconds 6 "ms"
  else if 1000 ≤ nanoseconds then inUnit nanoseconds 3 "µs"
  else inUnit nanoseconds 0 "ns"

end SeriesIndex.Text.Duration
