import SeriesIndex.Proofs.Engine.Reached
import SeriesIndex.Proofs.Writer.Parts

/-!
# Engines in service

An engine in service gives its first new series the time at which it was opened as an identifier. A
time is a positive word with a sign, so that half of all identifiers are above it, and no engine
lives to be offered a quarter as many rows. So its counter of identifiers has not wrapped, and does
not wrap in the next import either, since a text has two characters or more for every row but the
last.
-/

namespace SeriesIndex

theorem Writer.firstIdAt_lt (time : Option Int64) : (firstIdAt time).toNat < 2 ^ 63 := by
  unfold firstIdAt
  split
  · next nanoseconds =>
      split
      · next later =>
          have positive : 0 ≤ nanoseconds.toBitVec.toInt :=
            Int.le_of_lt (Int64.lt_iff_toInt_lt.mp later)
          have half := BitVec.toInt_pos_iff.mp positive
          change nanoseconds.toBitVec.toNat < 2 ^ 63
          omega
      · decide
  · decide

namespace Engine

/-- Engines over one table as programs open and use them. So many rows have been offered to the
writer of the engine, whichever of them it has indexed; at one a nanosecond, it would be open for
more than a century before they were 2⁶². Reads and writes may fail anywhere; a new engine is opened
at a time that is later than every identifier given before. -/
inductive Served : Nat → Engine → Prop where
  | start (config : Config) {store : Store} (time : Option Int64) (empty : store.table = .empty) :
      Served 0 (.onStore config store (Writer.firstIdAt time))
  | ingest {offered : Nat} {engine : Engine} (served : Served offered engine) (tenant : Tenant)
      (rows : List Row) (order : Writer.KeyOrder) (few : offered + rows.length < 2 ^ 62) :
      Served (offered + rows.length) (engine.ingest tenant rows order).2
  | search {offered : Nat} {engine : Engine} (served : Served offered engine) (tenant : Tenant)
      (matchers : List Matcher) (range : TimeRange) (withLabels : Bool) (deadline : Deadline) :
      Served offered (engine.search tenant matchers range withLabels deadline).2
  | reopen {offered : Nat} {engine : Engine} (served : Served offered engine) (config : Config)
      (time : Option Int64)
      (above : ∀ tenant labels id, engine.store.table.Registers tenant labels id →
        id < Writer.firstIdAt time) :
      Served 0 (.onStore config engine.store (Writer.firstIdAt time))

section Served

variable {engine : Engine} {offered : Nat}

/-- The counter has gone on by the number of rows at most. -/
theorem Served.nextId_lt (served : engine.Served offered) :
    offered < 2 ^ 62 ∧ engine.writer.nextId.toNat < 2 ^ 63 + offered := by
  induction served with
  | start config time empty => exact ⟨by decide, Writer.firstIdAt_lt time⟩
  | @ingest offered engine served tenant rows order few ih =>
      have fewer := Writer.length_measured_le rows
      have room : engine.writer.nextId.toNat + (Writer.measured rows).length < UInt64.size := by
        have size : UInt64.size = 2 ^ 64 := rfl
        omega
      have most : (engine.ingest tenant rows order).2.writer.nextId.toNat ≤ _ :=
        @Writer.indexRows_nextId_le rows (engine.writer, engine.store) tenant order room
      dsimp only at most
      exact ⟨few, by omega⟩
  | @search offered engine served tenant matchers range withLabels deadline ih =>
      obtain ⟨-, writer, -⟩ := engine.search_rereads tenant matchers range withLabels deadline
      rw [writer]
      exact ih
  | reopen served config time above ih => exact ⟨by decide, Writer.firstIdAt_lt time⟩

theorem Served.unwrapped (served : engine.Served offered) (tenant : Tenant) {rows : List Row}
    (few : rows.length ≤ 2 ^ 62) :
    Writer.Unwrapped tenant rows ⟨0, [], []⟩ (engine.writer, engine.store) := by
  have counter := served.nextId_lt
  have fewer := Writer.length_measured_le rows
  have size : UInt64.size = 2 ^ 64 := rfl
  refine (@Writer.addAllToBatch_nextId_le rows (engine.writer, engine.store) tenant _ ?_).1
  dsimp only
  omega

/-- An engine in service is reached without a wrap of the counter. -/
theorem Served.reached (served : engine.Served offered) : engine.Reached := by
  induction served with
  | start config time empty => exact .start config _ empty
  | ingest served tenant rows order few ih =>
      exact ih.ingest tenant rows order (served.unwrapped tenant (by omega))
  | search served tenant matchers range withLabels deadline ih =>
      exact ih.search tenant matchers range withLabels deadline
  | reopen served config time above ih => exact ih.reopen config _ above

end Served

end Engine

end SeriesIndex
