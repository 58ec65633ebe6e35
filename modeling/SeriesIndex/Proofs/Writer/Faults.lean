import SeriesIndex.Proofs.Writer.Registry

/-!
# Reads that fail

When a read fails, what it was part of fails too. So whatever becomes of the reads, the labels of a
series, its identifier and the indexing of a row end with an error or as if every read had
succeeded, and a series that is in the table does not get a second identifier.
-/

namespace SeriesIndex

/-- The outcome of a step whose reads may fail, beside that of the same step if none of them does.
They are the same, although the states they leave lie on different media, or the first is one of
the faults that a read can cause. -/
inductive Exposes {α ε σ : Type} (faulty : ε → Prop) (mend : σ → σ) :
    Except ε α × σ → Except ε α × σ → Prop where
  | fault {error : ε} {state : σ} {sound : Except ε α × σ} (cause : faulty error) :
      Exposes faulty mend (.error error, state) sound
  | same {result : Except ε α} {state : σ} :
      Exposes faulty mend (result, state) (result, mend state)

/-- Any error may come from a read. -/
def AnyError : StoreError → Prop := fun _ => True

namespace Store

/-- The store on a medium on which no read fails. -/
def mended (store : Store) : Store :=
  { store with medium := { store.medium with read := fun _ => none } }

/-- Reading the first item with a start fails or gives what is in the table. -/
theorem firstWithPrefix_exposes (store : Store) (start : Bytes) :
    Exposes AnyError mended (store.firstWithPrefix start) (store.mended.firstWithPrefix start) := by
  cases read : store.medium.read store.reads with
  | some error =>
      rw [firstWithPrefix_of_fault read]
      exact .fault trivial
  | none =>
      have sound : store.mended.medium.read store.mended.reads = none := rfl
      rw [firstWithPrefix_of_read read, firstWithPrefix_of_read sound]
      exact .same

theorem seriesLabels_exposes (store : Store) (tenant : Tenant) (id : UInt64) :
    Exposes AnyError mended (store.seriesLabels tenant id)
      (store.mended.seriesLabels tenant id) := by
  have looked := store.firstWithPrefix_exposes (Key.labels tenant id)
  rw [seriesLabels, seriesLabels]
  generalize store.firstWithPrefix (Key.labels tenant id) = failing at looked ⊢
  generalize store.mended.firstWithPrefix (Key.labels tenant id) = sound at looked ⊢
  cases looked with
  | fault cause => exact .fault cause
  | @same result left =>
      match result with
      | .error _ => exact .same
      | .ok none => exact .same
      | .ok (some _) => exact .same

/-- Writing does not depend on what becomes of the reads. -/
theorem add_exposes (store : Store) (items : List Bytes) :
    Exposes AnyError mended (store.add items) (store.mended.add items) := by
  have same : store.mended.add items = ((store.add items).1, (store.add items).2.mended) := by
    unfold add mended
    dsimp only
    cases store.medium.write store.writes with
    | some error => rfl
    | none => rfl
  rw [same]
  exact .same

end Store

namespace Writer

/-- The state with its store on a medium on which no read fails. -/
def State.mended (state : State) : State := (state.1, state.2.mended)

variable {tenant : Tenant} {labels : List Label}

/-! ## Looking a series up -/

theorem lookUp_exposes (key : Bytes) (state : State) :
    Exposes AnyError State.mended (lookUp key state) (lookUp key state.mended) := by
  obtain ⟨writer, store⟩ := state
  change Exposes _ _ _ (lookUp key (writer, store.mended))
  rw [lookUp, lookUp]
  cases writer.known.use key with
  | mk found known =>
      cases found with
      | some id => exact .same
      | none =>
          have looked := store.firstWithPrefix_exposes key
          dsimp only
          generalize store.firstWithPrefix key = failing at looked ⊢
          generalize store.mended.firstWithPrefix key = sound at looked ⊢
          cases looked with
          | fault cause => exact .fault cause
          | @same result left =>
              match result with
              | .error _ => exact .same
              | .ok none => exact .same
              | .ok (some item) =>
                  dsimp only
                  cases Key.takeWord (item.drop key.length) with
                  | error cause => exact .same
                  | ok id => exact .same

theorem seriesId_exposes (tenant : Tenant) (labels : List Label) (state : State) :
    Exposes AnyError State.mended (seriesId tenant labels state)
      (seriesId tenant labels state.mended) :=
  lookUp_exposes _ state

/-- Looking a series up changes neither the table nor the next identifier, and finds nothing only if
there is nothing. -/
theorem lookUp_frame (key : Bytes) (state : State) :
    (lookUp key state).2.1.nextId = state.1.nextId ∧
      (lookUp key state).2.2.table = state.2.table ∧
      ((lookUp key state).1 = .ok none → state.2.table.first? key = none) := by
  obtain ⟨writer, store⟩ := state
  rw [lookUp]
  cases writer.known.use key with
  | mk found known =>
      cases found with
      | some id => exact ⟨rfl, rfl, nofun⟩
      | none =>
          cases read : store.medium.read store.reads with
          | some error =>
              rw [Store.firstWithPrefix_of_fault read]
              exact ⟨rfl, rfl, nofun⟩
          | none =>
              rw [Store.firstWithPrefix_of_read read]
              cases store.table.first? key with
              | none => exact ⟨rfl, rfl, fun _ => rfl⟩
              | some item =>
                  dsimp only
                  cases Key.takeWord (item.drop key.length) with
                  | error cause => exact ⟨rfl, rfl, nofun⟩
                  | ok id => exact ⟨rfl, rfl, nofun⟩

/-! ## Indexing a row -/

/-- A write at the end of a step exposes what the reads before it did. -/
theorem written_exposes {α : Type} (store : Store) (items : List Bytes) (writer after : Writer)
    (given : α) :
    Exposes AnyError State.mended
      (match store.add items with
        | (.error error, store) => (.error error, writer, store)
        | (.ok (), store) => (.ok given, after, store))
      (match store.mended.add items with
        | (.error error, store) => (.error error, writer, store)
        | (.ok (), store) => (.ok given, after, store)) := by
  have added := store.add_exposes items
  generalize store.add items = failing at added ⊢
  generalize store.mended.add items = sound at added ⊢
  cases added with
  | fault cause => exact .fault cause
  | @same result left =>
      match result with
      | .error _ => exact .same
      | .ok () => exact .same

theorem register_exposes (tenant : Tenant) (labels : List Label) (state : State) :
    Exposes AnyError State.mended (register tenant labels state)
      (register tenant labels state.mended) := by
  obtain ⟨writer, store⟩ := state
  change Exposes _ _ _ (register tenant labels (writer, store.mended))
  rw [register, register]
  dsimp only
  cases LabelRecord.encode labels with
  | error error => exact .same
  | ok record => exact written_exposes _ _ _ _ _

theorem identify_exposes (tenant : Tenant) (labels : List Label) (state : State) :
    Exposes AnyError State.mended (identify tenant labels state)
      (identify tenant labels state.mended) := by
  have first := seriesId_exposes tenant labels state
  rw [identify, identify]
  generalize seriesId tenant labels state = failing at first ⊢
  generalize seriesId tenant labels state.mended = sound at first ⊢
  cases first with
  | fault cause => exact .fault cause
  | @same result next =>
      match result with
      | .error _ => exact .same
      | .ok (some _) => exact .same
      | .ok none =>
          have second := seriesId_exposes tenant labels next
          dsimp only
          generalize seriesId tenant labels next = failing at second ⊢
          generalize seriesId tenant labels next.mended = sound at second ⊢
          cases second with
          | fault cause => exact .fault cause
          | @same result last =>
              match result with
              | .error _ => exact .same
              | .ok (some _) => exact .same
              | .ok none => exact register_exposes tenant labels last

/-- Indexing a row ends with an error or as if no read had failed. -/
theorem indexRow_exposes (tenant : Tenant) (row : Row) (state : State) :
    Exposes AnyError State.mended (indexRow tenant row state)
      (indexRow tenant row state.mended) := by
  rw [indexRow, indexRow]
  split
  · exact .same
  · have identified := identify_exposes tenant row.canonicalLabels state
    generalize identify tenant row.canonicalLabels state = failing at identified ⊢
    generalize identify tenant row.canonicalLabels state.mended = sound at identified ⊢
    cases identified with
    | fault cause => exact .fault cause
    | @same result next =>
        obtain ⟨writer, store⟩ := next
        cases result with
        | error error => exact .same
        | ok id =>
            dsimp only [State.mended]
            generalize writer.wasWritten _ = written
            obtain ⟨lately, writer⟩ := written
            cases lately with
            | true => exact .same
            | false => exact written_exposes _ _ _ _ _

/-! ## A series that is in the table -/

/-- Some item of the table is about the series. -/
def Holds (table : Table) (tenant : Tenant) (labels : List Label) : Prop :=
  ∃ item ∈ table.items, seriesKey tenant labels <+: item

theorem identify_of_holds {state : State} (holds : Holds state.2.table tenant labels) :
    (identify tenant labels state).2.1.nextId = state.1.nextId ∧
      (identify tenant labels state).2.2.table = state.2.table := by
  -- a lookup that does not fail finds the item, so the series is never registered
  obtain ⟨item, inside, begins⟩ := holds
  obtain ⟨counter, table, missing⟩ := lookUp_frame (seriesKey tenant labels) state
  have here : (seriesId tenant labels state).1 ≠ .ok none := fun absent =>
    Table.first?_none (missing absent) item inside begins
  change (seriesId tenant labels state).2.1.nextId = _ at counter
  change (seriesId tenant labels state).2.2.table = _ at table
  rw [identify]
  generalize seriesId tenant labels state = outcome at here counter table ⊢
  obtain ⟨result, next⟩ := outcome
  match result with
  | .error _ => exact ⟨counter, table⟩
  | .ok (some _) => exact ⟨counter, table⟩
  | .ok none => exact absurd rfl here

/-- Whichever reads and writes fail, a series that is in the table gets no other identifier. -/
theorem indexRow_of_holds {row : Row} {state : State}
    (holds : Holds state.2.table tenant row.canonicalLabels) :
    (indexRow tenant row state).2.1.nextId = state.1.nextId ∧
      ∀ {owner others id}, (indexRow tenant row state).2.2.table.Registers owner others id →
        state.2.table.Registers owner others id := by
  have identified := identify_of_holds holds
  rw [indexRow]
  split
  · exact ⟨rfl, fun registered => registered⟩
  · generalize identify tenant row.canonicalLabels state = outcome at identified ⊢
    obtain ⟨result, writer, store⟩ := outcome
    obtain ⟨counter, table⟩ := identified
    cases result with
    | error error => exact ⟨counter, fun registered => table ▸ registered⟩
    | ok id =>
        dsimp only at counter table ⊢
        have kept : ∀ key, (writer.wasWritten key).2.nextId = writer.nextId := fun _ => rfl
        generalize (⟨tenant, _, id⟩ : PostingKey) = key
        have same := (kept key).trans counter
        generalize writer.wasWritten key = written at same ⊢
        obtain ⟨lately, last⟩ := written
        cases lately with
        | true => exact ⟨same, fun registered => table ▸ registered⟩
        | false =>
            obtain ⟨error, left, failed, unchanged⟩ | ⟨left, added, grown⟩ :=
              store.add_cases (postings row.canonicalLabels key)
            · dsimp only
              rw [failed]
              exact ⟨same, fun registered => table ▸ unchanged ▸ registered⟩
            · dsimp only
              rw [added]
              refine ⟨same, fun {owner others other} registered => ?_⟩
              have inside : seriesKey owner others ++ Bytes.ofWord64 other ∈
                  (store.table.insertAll (postings row.canonicalLabels key)).items :=
                grown ▸ registered
              rcases Table.mem_insertAll.mp inside with new | old
              · obtain ⟨label, _, clash⟩ := mem_postings.mp new
                cases congrArg List.head? clash
              · exact table ▸ old

end Writer

end SeriesIndex
