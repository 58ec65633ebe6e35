import SeriesIndex.Proofs.Writer.Batch

/-!
# Runs of writers

One writer after another works on a table that is empty at first. Reads and writes may fail
anywhere; each new writer starts above every identifier given before, and no counter wraps. At
every point the table then holds the postings of the rows indexed so far and no other.
-/

namespace SeriesIndex.Writer

/-! ## Calls -/

/-- What is done with the writers of a table: rows are indexed, a series is looked up, or a new
writer takes the place of the old one. -/
inductive Call where
  | indexRow (tenant : Tenant) (row : Row)
  | indexRows (tenant : Tenant) (rows : List Row) (order : KeyOrder := .asSeen)
  | seriesId (tenant : Tenant) (labels : List Label)
  | restart (firstId bucketWidth : UInt64) (capacity : Nat)

inductive Answer where
  | indexRow (given : Except StoreError UInt64)
  | indexRows (count : Except StoreError Nat)
  | seriesId (found : Except StoreError (Option UInt64))
  | restarted

namespace Call

def run : Call → State → Answer × State
  | indexRow tenant row, state =>
      (.indexRow (Writer.indexRow tenant row state).1, (Writer.indexRow tenant row state).2)
  | indexRows tenant rows order, state =>
      (.indexRows (Writer.indexRows tenant rows state order).1,
        (Writer.indexRows tenant rows state order).2)
  | seriesId tenant labels, state =>
      (.seriesId (Writer.seriesId tenant labels state).1,
        (Writer.seriesId tenant labels state).2)
  | restart firstId bucketWidth capacity, (_, store) =>
      (.restarted, starting firstId bucketWidth capacity, store)

/-- The counter of identifiers does not wrap in the call, and a new writer has the buckets of the
old one and starts above every identifier given so far. -/
def Steady : Call → State → Prop
  | indexRow tenant row, state => state.1.nextId ≤ (Writer.indexRow tenant row state).2.1.nextId
  | indexRows tenant rows _, state => Unwrapped tenant rows ⟨0, [], []⟩ state
  | seriesId _ _, _ => True
  | restart firstId bucketWidth capacity, (writer, store) =>
      (starting firstId bucketWidth capacity).bucketWidth = writer.bucketWidth ∧
        ∀ tenant labels id, store.table.Registers tenant labels id → id < firstId

/-- The rows that are indexed once a call has been answered. -/
def indexed : Call → Answer → List (Tenant × Row)
  | indexRow tenant row, .indexRow given => (covered given [row]).map fun row => (tenant, row)
  | indexRows tenant rows _, .indexRows count => (covered count rows).map fun row => (tenant, row)
  | _, _ => []

/-- Each call keeps what is remembered sound and indexes the rows that it covers. -/
theorem run_keeps {state : State} (sound : state.1.Sound state.2.table) (call : Call)
    (steady : call.Steady state) :
    ∃ tenant rows, call.indexed (call.run state).1 = rows.map (fun row => (tenant, row)) ∧
      Indexing tenant rows state (call.run state).2 := by
  obtain ⟨writer, store⟩ := state
  cases call with
  | indexRow tenant row =>
      obtain ⟨given, after, left, done, indexing, -⟩ := indexRow_keeps sound tenant row steady
      rw [run, done]
      exact ⟨tenant, _, rfl, indexing⟩
  | indexRows tenant rows order =>
      obtain ⟨count, after, left, done, indexing⟩ :=
        indexRows_keeps sound tenant rows order steady
      rw [run, done]
      exact ⟨tenant, _, rfl, indexing⟩
  | seriesId tenant labels =>
      obtain ⟨found, after, left, looked, afterSound, same, -, width, -⟩ :=
        seriesId_keeps sound tenant labels
      rw [run, looked]
      have extends_ : Extends (writer, store) (after, left) := extends_of_table width same
      exact ⟨tenant, [], rfl, extends_.indexing afterSound tenant⟩
  | restart firstId bucketWidth capacity =>
      obtain ⟨width, ahead⟩ := steady
      have extends_ : Extends (writer, store) (starting firstId bucketWidth capacity, store) :=
        extends_of_table width rfl
      have started := sound_starting firstId bucketWidth capacity sound.registry
        fun registered => ahead _ _ _ registered
      exact ⟨⟨0, 0⟩, [], rfl, extends_.indexing started _⟩

end Call

/-! ## Runs -/

/-- The calls made so far with their answers, and the state that they have led to. -/
inductive Run : List (Call × Answer) → State → Prop where
  | start (firstId bucketWidth : UInt64) (capacity : Nat) {store : Store}
      (empty : store.table = .empty) : Run [] (starting firstId bucketWidth capacity, store)
  | call {history : List (Call × Answer)} {state : State} (run : Run history state) (call : Call)
      (steady : call.Steady state) :
      Run (history ++ [(call, (call.run state).1)]) (call.run state).2

/-- A row with a metric that a call of the history has indexed. -/
def Indexed (history : List (Call × Answer)) (tenant : Tenant) (row : Row) : Prop :=
  row.metric ≠ "" ∧ ∃ entry ∈ history, (tenant, row) ∈ entry.1.indexed entry.2

/-- What holds at every point of a run. -/
structure Kept (history : List (Call × Answer)) (state : State) : Prop where
  sound : state.1.Sound state.2.table
  indexed : ∀ {tenant row}, Indexed history tenant row →
    state.2.table.Indexes state.1.bucketWidth tenant row
  postings : ∀ {owner label content bucket ids},
    Key.posting owner label content bucket ids ∈ state.2.table.items → ∃ row,
      Indexed history owner row ∧ state.2.table.Belongs state.1.bucketWidth owner row
        (Key.posting owner label content bucket ids)

variable {history : List (Call × Answer)} {state after : State} {tenant : Tenant} {row : Row}

theorem Indexed.append (indexed : Indexed history tenant row) (entry : Call × Answer) :
    Indexed (history ++ [entry]) tenant row := by
  obtain ⟨measured, other, inside, held⟩ := indexed
  exact ⟨measured, other, List.mem_append_left _ inside, held⟩

/-- What holds is kept by a call that indexes its rows and owes its new postings to them. -/
theorem Kept.extend (kept : Kept history state) {rows : List Row}
    (indexing : Indexing tenant rows state after) {entry : Call × Answer}
    (covers : entry.1.indexed entry.2 = rows.map fun row => (tenant, row)) :
    Kept (history ++ [entry]) after := by
  constructor
  · exact indexing.sound
  · rintro owner row ⟨measured, other, inside, held⟩
    rw [indexing.width]
    rcases List.mem_append.mp inside with old | new
    · exact (kept.indexed ⟨measured, other, old, held⟩).mono indexing.kept
    · rw [List.mem_singleton.mp new, covers] at held
      obtain ⟨_, listed, same⟩ := List.mem_map.mp held
      cases same
      exact indexing.indexed row listed measured
  · intro owner label content bucket ids held
    rw [indexing.width]
    rcases indexing.postings held with old | ⟨row, listed, belongs⟩
    · obtain ⟨row, indexed, belongs⟩ := kept.postings old
      exact ⟨row, indexed.append entry, belongs.mono indexing.kept⟩
    · obtain ⟨measured, id, registered, inside⟩ := belongs
      obtain ⟨label, -, same⟩ := mem_postings.mp inside
      obtain ⟨rfl, -⟩ := Key.posting_inj same
      refine ⟨row, ⟨measured, entry, List.mem_append_right _ (.head _), ?_⟩,
        measured, id, registered, inside⟩
      rw [covers]
      exact List.mem_map_of_mem listed

theorem Run.kept (run : Run history state) : Kept history state := by
  induction run with
  | start firstId bucketWidth capacity empty =>
      constructor
      · exact sound_starting_empty firstId bucketWidth capacity empty
      · rintro _ _ ⟨-, _, impossible, -⟩
        exact absurd impossible List.not_mem_nil
      · intro _ _ _ _ _ held
        rw [empty] at held
        exact absurd held List.not_mem_nil
  | call run call steady ih =>
      obtain ⟨tenant, rows, covers, indexing⟩ := call.run_keeps ih.sound steady
      exact ih.extend indexing covers

end SeriesIndex.Writer
