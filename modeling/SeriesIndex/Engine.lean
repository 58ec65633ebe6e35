import SeriesIndex.Config
import SeriesIndex.Line
import SeriesIndex.Search
import SeriesIndex.Writer

/-!
# Engines

An engine has a store, a writer and remembered costs. It takes in rows or lines of text, and
answers selectors with the series that match, as many as its settings allow.
-/

namespace SeriesIndex

inductive EngineError where
  | store (cause : StoreError)
  | search (cause : SearchError)
deriving DecidableEq, Repr

def EngineError.message : EngineError → String
  | store cause => s!"Storage error: {cause.message}"
  | search cause => s!"Search error: {cause.message}"

structure Engine where
  config : Config
  store : Store
  writer : Writer
  costs : RecentCosts

/-- A series that was found. -/
structure SeriesEntry where
  id : UInt64
  labels : List Label
deriving DecidableEq, Repr

/-- What a search has found. -/
structure Found where
  ids : List UInt64
  /-- There are more identifiers than the settings allow. -/
  truncated : Bool
  series : Option (List SeriesEntry)
  evaluations : List Evaluation
deriving DecidableEq, Repr

/-- What an import has come to. -/
structure ImportSummary where
  rows : Nat
  invalid : Nat
deriving DecidableEq, Repr

namespace Engine

/-- An engine over a store whose first new series gets the given identifier. -/
def onStore (config : Config) (store : Store) (firstId : UInt64) : Engine where
  config := config
  store := store
  writer := .starting firstId config.index.bucketWidth config.index.recentCapacity.toNat
  costs := .empty config.cache.costCapacity.toNat

/-- Indexes rows and counts those that have a metric. -/
def ingest (engine : Engine) (tenant : Tenant) (rows : List Row)
    (order : Writer.KeyOrder := .asSeen) : Except EngineError Nat × Engine :=
  let (result, writer, store) :=
    Writer.indexRows tenant rows (engine.writer, engine.store) order
  (result.mapError .store, { engine with writer := writer, store := store })

/-- Indexes the rows of a text. -/
def importText (engine : Engine) (tenant : Tenant) (text : String) (default : UInt64)
    (order : Writer.KeyOrder := .asSeen) : Except EngineError ImportSummary × Engine :=
  let lines := Line.parseAll text.toList default
  let (result, engine) := engine.ingest tenant lines.rows order
  (result.map fun rows => ⟨rows, lines.invalid⟩, engine)

/-- The labels of series; an identifier without a label record is left out. -/
def entries (tenant : Tenant) : List UInt64 → Store → Except StoreError (List SeriesEntry) × Store
  | [], store => (.ok [], store)
  | id :: rest, store =>
      match store.seriesLabels tenant id with
      | (.error error, store) => (.error error, store)
      | (.ok labels, store) =>
          match entries tenant rest store with
          | (.error error, store) => (.error error, store)
          | (.ok found, store) =>
              (.ok ((labels.map fun labels => ⟨id, labels⟩).toList ++ found), store)

/-- The search that the settings ask for. -/
def searchUnder (engine : Engine) (deadline : Deadline) : Search :=
  .ofSettings engine.writer.bucketWidth engine.config.search.checkInterval deadline

/-- The series of a tenant that satisfy all matchers and have rows in a time range. -/
def search (engine : Engine) (tenant : Tenant) (matchers : List Matcher) (range : TimeRange)
    (withLabels : Bool) (deadline : Deadline) : Except EngineError Found × Engine :=
  match FilterSet.ofMatchers tenant matchers with
  | .error error => (.error (.search error), engine)
  | .ok filters =>
      let state : Search.State RecentCosts := ⟨⟨engine.store, 0⟩, engine.costs, []⟩
      let (result, state) := (engine.searchUnder deadline).query filters
        ⟨range.start, range.stop, engine.config.search.scanLimit⟩ state
      let engine := { engine with store := state.scans.store, costs := state.costs }
      match result with
      | .error error => (.error (.search error), engine)
      | .ok found =>
          let most := engine.config.search.maxSeries.toNat
          let ids := (found.truncate most).ids
          let outcome : Found := ⟨ids, most < found.size, none, state.evaluations⟩
          if withLabels then
            match entries tenant ids engine.store with
            | (.error error, store) =>
                (.error (.search (.store error)), { engine with store := store })
            | (.ok series, store) =>
                (.ok { outcome with series := some series }, { engine with store := store })
          else (.ok outcome, engine)

end Engine

end SeriesIndex
