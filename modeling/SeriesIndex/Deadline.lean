import SeriesIndex.Text.Duration

/-!
# Deadlines

A search has until its deadline. The clock is looked at now and then only: a scan counts its
steps and looks at the first and then at each step whose number is a multiple of a power of two.
-/

namespace SeriesIndex

/-- The time that a search has, in nanoseconds, and at which looks at the clock, numbered from
the first one, it is over. -/
structure Deadline where
  timeout : Nat
  passedAt : Nat → Bool

namespace Deadline

/-- A deadline that is never reached. -/
def ahead (timeout : Nat) : Deadline := ⟨timeout, fun _ => false⟩

/-- A deadline that was over before the first look. -/
def passed (timeout : Nat) : Deadline := ⟨timeout, fun _ => true⟩

def timeoutText (deadline : Deadline) : String := Text.Duration.render deadline.timeout

end Deadline

/-- The counter of the steps of a scan, and the mask of the steps that look at the clock. -/
structure Pace where
  mask : UInt32
  steps : UInt32
deriving DecidableEq, Repr

namespace Pace

/-- The least power of two that is not below a number. -/
def powerAbove (number : Nat) : Nat :=
  if number ≤ 1 then 1 else 1 <<< ((number - 1).log2 + 1)

/-- The least power of two that is not below a number, from 1 to 2³⁰. -/
def roundUp (interval : UInt32) : UInt32 :=
  UInt32.ofNat (powerAbove (min (max interval.toNat 1) 0x40000000))

/-- A scan that looks at the clock about every `interval` steps. -/
def every (interval : UInt32) : Pace := ⟨roundUp interval - 1, 0⟩

/-- The next step looks at the clock. -/
def due (pace : Pace) : Bool := pace.steps &&& pace.mask == 0

/-- Counts a step; the counter starts again after 2³² steps. -/
def step (pace : Pace) : Pace := { pace with steps := pace.steps + 1 }

end Pace

end SeriesIndex
