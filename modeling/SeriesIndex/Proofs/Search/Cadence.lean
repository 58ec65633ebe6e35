import Mathlib.Data.Set.Basic
import Mathlib.Order.Bounds.Basic
import Mathlib.Order.Interval.Finset.Nat
import SeriesIndex.Proofs.Search.Scan

/-!
# When scans look at the clock

A scan counts its steps in a word that starts again after 2³² steps, and looks at the clock where no
bit of the count meets those of a mask. The mask is one less than a power of two that divides 2³²,
so the looks are as far apart as that power, however long the scan is and whatever the looks have
told.
-/

namespace SeriesIndex

namespace Pace

/-! ## Powers of two -/

/-- The powers of two that are not below a number. -/
def powersFrom (number : Nat) : Set Nat :=
  {power | (∃ exponent, power = 2 ^ exponent) ∧ number ≤ power}

theorem isLeast_powerAbove (number : Nat) : IsLeast (powersFrom number) (powerAbove number) := by
  unfold powerAbove
  split
  · next small =>
      refine ⟨⟨⟨0, rfl⟩, small⟩, ?_⟩
      rintro _ ⟨⟨exponent, rfl⟩, -⟩
      exact Nat.one_le_two_pow
  · next large =>
      rw [Nat.one_shiftLeft]
      have above : number - 1 < 2 ^ ((number - 1).log2 + 1) := Nat.lt_log2_self
      refine ⟨⟨⟨_, rfl⟩, by omega⟩, ?_⟩
      rintro _ ⟨⟨exponent, rfl⟩, reached⟩
      have longer : (number - 1).log2 < exponent :=
        (Nat.log2_lt (by omega)).mpr (by omega)
      exact Nat.pow_le_pow_right Nat.two_pos longer

/-- A number up to 2³⁰ is rounded up to a power that is no larger. -/
theorem exists_powerAbove {number : Nat} (small : number ≤ 2 ^ 30) :
    ∃ exponent ≤ 30, powerAbove number = 2 ^ exponent := by
  obtain ⟨⟨⟨exponent, same⟩, -⟩, least⟩ := isLeast_powerAbove number
  have most : powerAbove number ≤ 2 ^ 30 := least ⟨⟨30, rfl⟩, small⟩
  rw [same] at most
  exact ⟨exponent, (Nat.pow_le_pow_iff_right Nat.one_lt_two).mp most, same⟩

/-- The distance between two looks at the clock of a scan. -/
def period (interval : UInt32) : Nat := powerAbove (min (max interval.toNat 1) (2 ^ 30))

theorem exists_period (interval : UInt32) : ∃ exponent ≤ 30, period interval = 2 ^ exponent :=
  exists_powerAbove (Nat.min_le_right _ _)

theorem toNat_mask (interval : UInt32) : (every interval).mask.toNat = period interval - 1 := by
  obtain ⟨exponent, small, same⟩ := exists_period interval
  have most : 2 ^ exponent ≤ 2 ^ 30 := Nat.pow_le_pow_right Nat.two_pos small
  have positive : 0 < 2 ^ exponent := Nat.two_pow_pos exponent
  have rounded : (roundUp interval).toNat = period interval := by
    have fits : period interval < 2 ^ 32 := by omega
    exact (UInt32.toNat_ofNat ..).trans (Nat.mod_eq_of_lt fits)
  have above : (1 : UInt32) ≤ roundUp interval := by
    rw [UInt32.le_iff_toNat_le, rounded, same]
    exact positive
  rw [every, UInt32.toNat_sub_of_le _ _ above, rounded]
  rfl

/-! ## Counting -/

theorem mask_iterate (pace : Pace) (count : Nat) : (step^[count] pace).mask = pace.mask := by
  induction count with
  | zero => rfl
  | succ count ih => rw [Function.iterate_succ_apply', step, ih]

/-- The count is that of the steps as far as a word can tell. -/
theorem toNat_steps_iterate (pace : Pace) (count : Nat) :
    (step^[count] pace).steps.toNat = (pace.steps.toNat + count) % 2 ^ 32 := by
  induction count with
  | zero => exact (Nat.mod_eq_of_lt pace.steps.toNat_lt).symm
  | succ count ih =>
      rw [Function.iterate_succ_apply', step, UInt32.toNat_add, ih]
      simp only [UInt32.toNat_one]
      omega

/-- A step looks at the clock exactly if its number is a multiple of the period. Starting the count
again does not matter, since the period divides the number of words. -/
theorem due_iterate (interval : UInt32) (count : Nat) :
    (step^[count] (every interval)).due = decide (period interval ∣ count) := by
  obtain ⟨exponent, small, same⟩ := exists_period interval
  have wraps : 2 ^ exponent ∣ 2 ^ 32 := Nat.pow_dvd_pow 2 (by omega)
  have masked : ((step^[count] (every interval)).steps &&&
      (step^[count] (every interval)).mask).toNat = count % period interval := by
    rw [UInt32.toNat_and, toNat_steps_iterate, mask_iterate, toNat_mask, same,
      Nat.and_two_pow_sub_one_eq_mod, Nat.mod_mod_of_dvd _ wraps]
    exact congrArg (· % 2 ^ exponent) (Nat.zero_add count)
  rw [due, beq_eq_decide, decide_eq_decide, Nat.dvd_iff_mod_eq_zero, ← masked]
  exact UInt32.toNat_inj.symm

end Pace

namespace Search

/-! ## Ticks -/

/-- A step of a scan as far as the clock is concerned: whether it finds that the deadline has
passed, and where it leads in any case. -/
def tick (deadline : Deadline) (now : Pace × ScanState) : Bool × Pace × ScanState :=
  let looked := lookAtClock deadline now.1 now.2
  (looked.1, now.1.step, looked.2)

/-- Where so many ticks lead, each made whatever those before have found. -/
def ticked (deadline : Deadline) (interval : UInt32) (state : ScanState) (count : Nat) :
    Pace × ScanState :=
  (fun now => (tick deadline now).2)^[count] (.every interval, state)

/-- The tick with a number, counted from 0, looks at the clock. -/
def LooksAt (deadline : Deadline) (interval : UInt32) (state : ScanState) (number : Nat) : Prop :=
  (ticked deadline interval state (number + 1)).2.looks =
    (ticked deadline interval state number).2.looks + 1

section Ticks

variable (deadline : Deadline) (interval : UInt32) (state : ScanState)

/-- Whether a step looks at the clock depends on its number alone. -/
theorem lookAtClock_iterate (number : Nat) :
    lookAtClock deadline (Pace.step^[number] (.every interval)) state =
      (decide (Pace.period interval ∣ number) && deadline.passedAt state.looks,
        ⟨state.store, state.looks + if Pace.period interval ∣ number then 1 else 0⟩) := by
  rw [lookAtClock, Pace.due_iterate]
  by_cases multiple : Pace.period interval ∣ number
  · simp [multiple]
  · simp [multiple]

theorem ticked_succ (count : Nat) :
    ticked deadline interval state (count + 1) =
      (tick deadline (ticked deadline interval state count)).2 :=
  Function.iterate_succ_apply' _ _ _

theorem ticked_pace (count : Nat) :
    (ticked deadline interval state count).1 = Pace.step^[count] (.every interval) := by
  induction count with
  | zero => rfl
  | succ count ih => rw [ticked_succ, Function.iterate_succ_apply', ← ih, tick]

/-- What a tick finds and does. -/
theorem tick_ticked (number : Nat) :
    (tick deadline (ticked deadline interval state number)).1 =
        (decide (Pace.period interval ∣ number) &&
          deadline.passedAt (ticked deadline interval state number).2.looks) ∧
      (ticked deadline interval state (number + 1)).2.looks =
        (ticked deadline interval state number).2.looks +
          if Pace.period interval ∣ number then 1 else 0 := by
  rw [ticked_succ, tick, ticked_pace, lookAtClock_iterate]
  exact ⟨rfl, rfl⟩

theorem looksAt_iff (number : Nat) :
    LooksAt deadline interval state number ↔ Pace.period interval ∣ number := by
  rw [LooksAt, (tick_ticked deadline interval state number).2]
  split
  · next multiple => exact iff_of_true rfl multiple
  · next other => exact iff_of_false (by omega) other

end Ticks

/-! ## Scans on their way -/

section Underway

/-- A walk on its way. -/
structure Underway where
  cursor : Cursor
  pace : Pace
  found : IdentifierSet
  state : ScanState

variable (rules : ScanRules) (visit : Bytes → IdentifierSet → Except SearchError Progress)

/-- What a walk that is on its way will have come to. -/
def Underway.outcome (now : Underway) : Except SearchError IdentifierSet × ScanState :=
  walk rules visit now.cursor now.pace now.found now.state

/-- A walk as a scan starts it. -/
def Underway.starting (start : Bytes) (found : IdentifierSet) (state : ScanState) : Underway :=
  ⟨state.store.cursor.seek start, .every rules.checkInterval, found, state⟩

/-- A walk passes so many items: it reaches each before its deadline and goes on behind it. -/
inductive Passes : Nat → Underway → Underway → Prop where
  | start (now : Underway) : Passes 0 now now
  | item {count : Nat} {start now : Underway} {ahead : Cursor} {store : Store}
      {found : IdentifierSet} (passes : Passes count start now)
      (room : ¬ rules.limit ≤ now.found.size)
      (moves : now.state.store.next now.cursor = (true, ahead, store))
      (timely : (lookAtClock rules.deadline now.pace { now.state with store := store }).1 = false)
      (visited : visit ahead.current now.found = .ok (.more found)) :
      Passes (count + 1) start ⟨ahead, now.pace.step, found,
        { (lookAtClock rules.deadline now.pace { now.state with store := store }).2 with
          store := store }⟩

variable {rules visit} {count : Nat} {start now : Underway}

/-- What a walk comes to does not change on its way. -/
theorem Passes.outcome (passes : Passes rules visit count start now) :
    now.outcome rules visit = start.outcome rules visit := by
  induction passes with
  | start => rfl
  | item passes room moves timely visited ih =>
      rw [← ih, Underway.outcome, Underway.outcome, walk_of_item room moves, timely, visited]
      rfl

/-- Passing items, a scan has made as many steps. -/
theorem Passes.pace {key : Bytes} {found : IdentifierSet} {state : ScanState}
    (passes : Passes rules visit count (.starting rules key found state) now) :
    now.pace = Pace.step^[count] (.every rules.checkInterval) := by
  generalize begun : Underway.starting rules key found state = start at passes
  induction passes with
  | start => exact begun ▸ rfl
  | item passes room moves timely visited ih =>
      rw [Function.iterate_succ_apply', ← ih begun]

end Underway

/-! ## The cadence -/

/-- For each interval there is a least power of two, and of ticks made one after another those whose
numbers are multiples of it look at the clock and no others, whatever the clock has told before. So
between two looks next to each other there is one tick less than the power. A scan makes such ticks,
one at each item that it reaches. -/
theorem looks_cadence (interval : UInt32) :
    ∃ period, IsLeast (Pace.powersFrom (min (max interval.toNat 1) (2 ^ 30))) period ∧
      (∀ deadline state number,
        (LooksAt deadline interval state number ↔ period ∣ number) ∧
        (tick deadline (ticked deadline interval state number)).1 =
          (decide (period ∣ number) &&
            deadline.passedAt (ticked deadline interval state number).2.looks)) ∧
      (∀ deadline state number next, number < next →
        LooksAt deadline interval state number → LooksAt deadline interval state next →
        (∀ between ∈ Finset.Ioo number next, ¬ LooksAt deadline interval state between) →
        (Finset.Ioo number next).card = period - 1) ∧
      ∀ rules visit key found state count now, rules.checkInterval = interval →
        Passes rules visit count (.starting rules key found state) now →
        scan rules visit key found state = now.outcome rules visit ∧
          ∀ store, lookAtClock rules.deadline now.pace ⟨store, now.state.looks⟩ =
            (decide (period ∣ count) && rules.deadline.passedAt now.state.looks,
              ⟨store, now.state.looks + if period ∣ count then 1 else 0⟩) := by
  refine ⟨Pace.period interval, Pace.isLeast_powerAbove _, ?_, ?_, ?_⟩
  · exact fun deadline state number =>
      ⟨looksAt_iff deadline interval state number, (tick_ticked deadline interval state number).1⟩
  · intro deadline state number next later first last unchecked
    simp only [looksAt_iff] at first last unchecked
    have positive : 0 < Pace.period interval := by
      obtain ⟨exponent, -, same⟩ := Pace.exists_period interval
      exact same ▸ Nat.two_pow_pos exponent
    have apart : Pace.period interval ∣ next - number := Nat.dvd_sub last first
    have atLeast := Nat.le_of_dvd (by omega) apart
    have atMost : next ≤ number + Pace.period interval := by
      by_contra beyond
      exact unchecked (number + Pace.period interval)
        (Finset.mem_Ioo.mpr ⟨by omega, by omega⟩) (Nat.dvd_add first (Nat.dvd_refl _))
    rw [Nat.card_Ioo]
    omega
  · rintro rules visit key found state count now rfl passes
    refine ⟨passes.outcome.symm, fun store => ?_⟩
    rw [passes.pace, lookAtClock_iterate]

/-- Two items in memory. -/
def twoItems : ScanState := ⟨.ofTable .memory (Table.empty.insertAll [[1], [2]]), 0⟩

/-- A scan that looks at the clock about every third step, and has time. -/
def everyThird : ScanRules := ⟨.ahead 1000, 3, 1, .store⟩

/-- About every third step means every fourth. If the deadline has passed every fourth tick fails,
also when the word has started to count again. A scan that has passed one item does not look at the
clock at the next. -/
theorem looks_cadence_three :
    (tick (.passed 1) (ticked (.passed 1) 3 twoItems (2 ^ 32 + 4))).1 = true ∧
      (tick (.passed 1) (ticked (.passed 1) 3 twoItems (2 ^ 32 + 6))).1 = false ∧
      LooksAt (.passed 1) 3 twoItems 4 ∧ LooksAt (.passed 1) 3 twoItems 8 ∧
      (Finset.Ioo 4 8).card = 3 ∧
      ∃ now, Passes everyThird (fun _ found => .ok (.more found)) 1
          (.starting everyThird [] .empty twoItems) now ∧
        (lookAtClock everyThird.deadline now.pace ⟨now.state.store, now.state.looks⟩).2.looks =
          now.state.looks := by
  obtain ⟨period, least, ticks, gaps, scans⟩ := looks_cadence 3
  obtain rfl : period = 4 := least.unique (Pace.isLeast_powerAbove 3)
  have looks := fun number => (ticks (.passed 1) twoItems number).1
  have passes : Passes everyThird (fun _ found => .ok (.more found)) 1
      (.starting everyThird [] .empty twoItems) _ :=
    .item (.start _) (by decide) rfl rfl rfl
  refine ⟨?_, ?_, (looks 4).mpr (by decide), (looks 8).mpr (by decide), ?_, _, passes, ?_⟩
  · rw [(ticks _ twoItems _).2, Deadline.passed]
    decide
  · rw [(ticks _ twoItems _).2, Deadline.passed]
    decide
  · refine gaps (.passed 1) twoItems 4 8 (by decide) ((looks 4).mpr (by decide))
      ((looks 8).mpr (by decide)) fun between inside => ?_
    obtain ⟨above, below⟩ := Finset.mem_Ioo.mp inside
    rw [looks]
    omega
  · rw [(scans everyThird _ [] .empty twoItems 1 _ rfl passes).2]
    rfl

end Search

end SeriesIndex
