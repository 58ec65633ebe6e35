import SeriesIndex.Engine
import SeriesIndex.Proofs.Search.Frame
import SeriesIndex.Proofs.Search.Indexed
import SeriesIndex.Proofs.Writer.Course

/-!
# Engines that are reached

A search reads the store and writes nothing, whatever the table holds and whichever reads fail. So
all that is in the table of an engine its writers have put there, and what they remember of it stays
true.
-/

namespace SeriesIndex

namespace Engine

theorem entries_rereads (tenant : Tenant) (ids : List UInt64) (store : Store) :
    store.Rereads (entries tenant ids store).2 := by
  induction ids generalizing store with
  | nil => exact .refl _
  | cons id rest ih =>
      have here := store.seriesLabels_rereads tenant id
      rw [entries]
      split
      · next looked =>
          rw [looked] at here
          exact here
      · next labels next looked =>
          rw [looked] at here
          have later := ih next
          split
          all_goals
            next listed =>
              rw [listed] at later
              exact here.trans later

/-- A search changes nothing of an engine but what it remembers of costs and how often its store has
been read. -/
theorem search_rereads (engine : Engine) (tenant : Tenant) (matchers : List Matcher)
    (range : TimeRange) (withLabels : Bool) (deadline : Deadline) :
    engine.store.Rereads (engine.search tenant matchers range withLabels deadline).2.store ∧
      (engine.search tenant matchers range withLabels deadline).2.writer = engine.writer ∧
      (engine.search tenant matchers range withLabels deadline).2.config = engine.config := by
  rw [search]
  split
  · exact ⟨.refl _, rfl, rfl⟩
  · next set made =>
      have asked := Search.query_rereads (engine.searchUnder deadline)
        ⟨range.start, range.stop, engine.config.search.scanLimit⟩ set
        (⟨⟨engine.store, 0⟩, engine.costs, []⟩ : Search.State RecentCosts)
      dsimp only
      split
      · exact ⟨asked, rfl, rfl⟩
      · next found answered =>
          split
          · have listed := entries_rereads tenant
              (found.truncate engine.config.search.maxSeries.toNat).ids
              ((engine.searchUnder deadline).query set
                ⟨range.start, range.stop, engine.config.search.scanLimit⟩
                ⟨⟨engine.store, 0⟩, engine.costs, []⟩).2.scans.store
            split
            all_goals
              next entered =>
                rw [entered] at listed
                exact ⟨asked.trans listed, rfl, rfl⟩
          · exact ⟨asked, rfl, rfl⟩

/-! ## What is done with engines -/

/-- Engines over one table, from the empty one on: rows are taken in, searches are made, and new
engines, with other settings, take the place of old ones. Reads and writes may fail anywhere; the
writer of a new engine starts above every identifier given before, and no counter wraps. -/
inductive Reached : Engine → Prop where
  | start (config : Config) {store : Store} (firstId : UInt64) (empty : store.table = .empty) :
      Reached (.onStore config store firstId)
  | ingest {engine : Engine} (reached : Reached engine) (tenant : Tenant) (rows : List Row)
      (order : Writer.KeyOrder)
      (forward : (Writer.Call.indexRows tenant rows order).Forward (engine.writer, engine.store)) :
      Reached (engine.ingest tenant rows order).2
  | search {engine : Engine} (reached : Reached engine) (tenant : Tenant)
      (matchers : List Matcher) (range : TimeRange) (withLabels : Bool) (deadline : Deadline) :
      Reached (engine.search tenant matchers range withLabels deadline).2
  | reopen {engine : Engine} (reached : Reached engine) (config : Config) (firstId : UInt64)
      (forward : (Writer.Call.restart firstId config.index.bucketWidth
        config.index.recentCapacity.toNat).Forward (engine.writer, engine.store)) :
      Reached (.onStore config engine.store firstId)

/-- What the writer of an engine remembers is true of the table, which writers alone have filled. -/
theorem Reached.sound {engine : Engine} (reached : Reached engine) :
    engine.writer.Sound engine.store.table := by
  induction reached with
  | start config firstId empty => exact Writer.sound_starting_empty firstId _ _ empty
  | ingest reached tenant rows order forward ih =>
      exact ((Writer.Call.indexRows tenant rows order).run_indexes ih forward).1
  | @search engine reached tenant matchers range withLabels deadline ih =>
      obtain ⟨same, writer, -⟩ := engine.search_rereads tenant matchers range withLabels deadline
      rw [same.table, writer]
      exact ih
  | reopen reached config firstId forward ih =>
      exact ((Writer.Call.restart firstId config.index.bucketWidth
        config.index.recentCapacity.toNat).run_indexes ih forward).1

end Engine

end SeriesIndex
