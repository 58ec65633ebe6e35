import SeriesIndex.Proofs.Writer.Run

/-!
# Courses of calls

A course is what is done with the writers of one table, from the empty table on: rows are indexed,
series are looked up, and new writers, with buckets and recent maps of any size, take the place of
old ones. Reads and writes may fail anywhere. A new writer starts above every identifier given
before, and no counter wraps. At every point the table registers the series that have been
identified, and no other, under the identifiers that were given to them.
-/

namespace SeriesIndex.Writer

/-! ## Series that are identified -/

/-- A series and the identifier that it is given. -/
structure Registration where
  tenant : Tenant
  labels : List Label
  id : UInt64
deriving DecidableEq, Repr

/-- The series that a row is given the identifier of. -/
def identified (tenant : Tenant) (row : Row) (state : State) : List Registration :=
  if row.metric.isEmpty then []
  else
    match (identify tenant row.canonicalLabels state).1 with
    | .ok id => [⟨tenant, row.canonicalLabels, id⟩]
    | .error _ => []

/-- The series that the rows added to a batch are given the identifiers of, up to the first row that
fails. -/
def identifiedAll (tenant : Tenant) : List Row → Batch → State → List Registration
  | [], _, _ => []
  | row :: rest, batch, state =>
      identified tenant row state ++
        match addToBatch tenant row batch state with
        | (.error _, _) => []
        | (.ok batch, state) => identifiedAll tenant rest batch state

section Identified

variable {tenant owner : Tenant} {row : Row} {labels : List Label} {id : UInt64} {state : State}

theorem identified_of_unmeasured (unmeasured : row.metric = "") :
    identified tenant row state = [] := if_pos (by simpa using unmeasured)

theorem mem_identified (measured : row.metric ≠ "") :
    ⟨owner, labels, id⟩ ∈ identified tenant row state ↔
      (identify tenant row.canonicalLabels state).1 = .ok id ∧
        owner = tenant ∧ labels = row.canonicalLabels := by
  rw [identified, if_neg (by simpa using measured)]
  cases (identify tenant row.canonicalLabels state).1 with
  | error error => simp
  | ok given =>
      rw [List.mem_singleton, Registration.mk.injEq, Except.ok.injEq]
      constructor
      · rintro ⟨rfl, rfl, rfl⟩
        exact ⟨rfl, rfl, rfl⟩
      · rintro ⟨rfl, rfl, rfl⟩
        exact ⟨rfl, rfl, rfl⟩

end Identified

/-! ## What is registered after a step -/

section Registering

variable {writer : Writer} {store : Store} {tenant owner : Tenant} {labels others : List Label}
  {row : Row} {rows done : List Row} {batch : Batch} {id : UInt64} {width : UInt64}

/-- Registering a series adds it under the identifier given, or adds nothing. -/
theorem register_registers (tenant : Tenant) (labels : List Label) (state : State) :
    (register tenant labels state).2.2.table.Registers owner others id ↔
      state.2.table.Registers owner others id ∨
        (register tenant labels state).1 = .ok id ∧ owner = tenant ∧ others = labels := by
  obtain ⟨writer, store⟩ := state
  unfold register
  dsimp only
  cases encoded : LabelRecord.encode labels with
  | error fault => simp
  | ok record =>
      dsimp only
      obtain ⟨error, left, failed, same⟩ | ⟨left, written, table⟩ := store.add_cases
        [seriesKey tenant labels ++ Bytes.ofWord64 writer.nextId,
          Key.labels tenant writer.nextId ++ record]
      · rw [failed, same]
        simp
      · have whole : left.table = store.table.register tenant labels writer.nextId record := table
        rw [written]
        dsimp only
        rw [whole, Table.registers_register, Except.ok.injEq]
        constructor
        · rintro (old | ⟨rfl, rfl, rfl⟩)
          · exact .inl old
          · exact .inr ⟨rfl, rfl, rfl⟩
        · rintro (old | ⟨rfl, rfl, rfl⟩)
          · exact .inl old
          · exact .inr ⟨rfl, rfl, rfl⟩

/-- After a series has been identified it is registered under the identifier given, and nothing else
is new. -/
theorem identify_registers (sound : writer.Sound store.table) :
    (identify tenant labels (writer, store)).2.2.table.Registers owner others id ↔
      store.table.Registers owner others id ∨
        (identify tenant labels (writer, store)).1 = .ok id ∧ owner = tenant ∧ others = labels := by
  have known : ∀ {table : Table} {given : UInt64}, table.Registers tenant labels given →
      (table.Registers owner others id ↔ table.Registers owner others id ∨
        (Except.ok given : Except StoreError UInt64) = .ok id ∧ owner = tenant ∧
          others = labels) := by
    intro table given registered
    constructor
    · exact .inl
    · rintro (old | ⟨same, rfl, rfl⟩)
      · exact old
      · exact Except.ok.inj same ▸ registered
  unfold identify
  obtain ⟨found, once, left, looked, onceSound, same, -, -, registered, -, -⟩ :=
    seriesId_keeps sound tenant labels
  rw [looked]
  match found with
  | .error error => simp [same]
  | .ok (some given) =>
      dsimp only
      rw [same]
      exact known (registered given rfl)
  | .ok none =>
      dsimp only
      obtain ⟨found, twice, right, looked, -, again, -, -, registered, -, -⟩ :=
        seriesId_keeps onceSound tenant labels
      rw [looked, ← same]
      match found with
      | .error error => simp [again]
      | .ok (some given) =>
          dsimp only
          rw [again]
          exact known (registered given rfl)
      | .ok none =>
          dsimp only
          rw [register_registers, again]

/-- Adding a row to a batch leaves the store that identifying its series leaves. -/
theorem addToBatch_store (measured : row.metric ≠ "") (batch : Batch) (state : State) :
    (addToBatch tenant row batch state).2.2 =
      (identify tenant row.canonicalLabels state).2.2 := by
  unfold addToBatch
  rw [if_neg (by simpa using measured)]
  split
  · next identified => rw [identified]
  · next id writer store identified =>
      rw [identified]
      dsimp only
      split
      · rfl
      · split <;> rfl

theorem addToBatch_registers (sound : writer.Sound store.table) (batch : Batch) :
    (addToBatch tenant row batch (writer, store)).2.2.table.Registers owner others id ↔
      store.table.Registers owner others id ∨
        ⟨owner, others, id⟩ ∈ identified tenant row (writer, store) := by
  by_cases measured : row.metric = ""
  · rw [addToBatch, if_pos (by simpa using measured), identified_of_unmeasured measured]
    simp
  · rw [addToBatch_store measured, identify_registers sound, mem_identified measured]

theorem addAllToBatch_registers (sound : writer.Sound store.table)
    (widths : writer.bucketWidth = width)
    (completes : Completes store.table width tenant done batch.items batch.fresh)
    (steady : Unwrapped tenant rows batch (writer, store)) :
    (addAllToBatch tenant rows batch (writer, store)).2.2.table.Registers owner others id ↔
      store.table.Registers owner others id ∨
        ⟨owner, others, id⟩ ∈ identifiedAll tenant rows batch (writer, store) := by
  induction rows generalizing batch writer store done with
  | nil => simp [addAllToBatch, identifiedAll]
  | cons row rest ih =>
      obtain ⟨here, later⟩ := steady
      obtain ⟨answer, between, middle, added, betweenSound, first, completed⟩ :=
        addToBatch_keeps sound widths completes row here
      have registers : (addToBatch tenant row batch (writer, store)).2.2.table.Registers owner
          others id ↔ _ := addToBatch_registers sound batch
      rw [addAllToBatch, identifiedAll, List.mem_append, ← or_assoc, ← registers]
      rw [added] at later ⊢
      cases answer with
      | error error => simp
      | ok next => exact ih betweenSound (first.width.trans widths) (completed next rfl) later

theorem indexRow_registers (sound : writer.Sound store.table) :
    (indexRow tenant row (writer, store)).2.2.table.Registers owner others id ↔
      store.table.Registers owner others id ∨
        ⟨owner, others, id⟩ ∈ identified tenant row (writer, store) := by
  by_cases measured : row.metric = ""
  · rw [indexRow, if_pos (by simpa using measured), identified_of_unmeasured measured]
    simp
  · rw [mem_identified measured, ← identify_registers sound, indexRow,
      if_neg (by simpa using measured)]
    split
    · next identified => rw [identified]
    · next given between middle identified =>
        rw [identified]
        dsimp only
        split
        · rfl
        · obtain ⟨error, left, failed, same⟩ | ⟨left, written, table⟩ := middle.add_cases
            (postings row.canonicalLabels
              ⟨tenant, Key.bucketStart row.time between.bucketWidth, given⟩)
          · rw [failed]
            dsimp only
            rw [same]
          · rw [written]
            dsimp only
            rw [table]
            exact Table.registers_insertAll fun item posted => ⟨_, _, posted⟩

theorem indexRows_registers (sound : writer.Sound store.table) (order : KeyOrder)
    (steady : Unwrapped tenant rows ⟨0, [], []⟩ (writer, store)) :
    (indexRows tenant rows (writer, store) order).2.2.table.Registers owner others id ↔
      store.table.Registers owner others id ∨
        ⟨owner, others, id⟩ ∈ identifiedAll tenant rows ⟨0, [], []⟩ (writer, store) := by
  have nothing := Completes.nothing store.table writer.bucketWidth tenant
  obtain ⟨answer, between, middle, collected, -, -, completed⟩ :=
    addAllToBatch_keeps sound rfl nothing steady
  rw [← addAllToBatch_registers sound rfl nothing steady, indexRows, collected]
  cases answer with
  | error error => rfl
  | ok batch =>
      dsimp only
      obtain ⟨error, left, failed, same⟩ | ⟨left, written, table⟩ := middle.add_cases batch.items
      · rw [failed]
        dsimp only
        rw [same]
      · rw [written]
        dsimp only
        rw [table]
        apply Table.registers_insertAll
        intro item owed
        obtain ⟨row, -, -, given, -, posted⟩ := (completed batch rfl).belongs item owed
        exact ⟨_, _, posted⟩

end Registering

/-! ## Calls -/

namespace Call

variable {state : State} {tenant : Tenant} {labels : List Label} {id : UInt64}

/-- The counter of identifiers does not wrap in the call, and a new writer starts above every
identifier given so far. -/
def Forward : Call → State → Prop
  | indexRow tenant row, state => state.1.nextId ≤ (Writer.indexRow tenant row state).2.1.nextId
  | indexRows tenant rows _, state => Unwrapped tenant rows ⟨0, [], []⟩ state
  | seriesId _ _, _ => True
  | restart firstId _ _, (_, store) =>
      ∀ tenant labels id, store.table.Registers tenant labels id → id < firstId

/-- The series that rows of the call are given the identifiers of. -/
def identified : Call → State → List Registration
  | indexRow tenant row, state => Writer.identified tenant row state
  | indexRows tenant rows _, state => identifiedAll tenant rows ⟨0, [], []⟩ state
  | seriesId _ _, _ => []
  | restart _ _ _, _ => []

/-- The series that an answer tells the identifier of. -/
def told : Call → Answer → List Registration
  | indexRow tenant row, .indexRow (.ok id) => [⟨tenant, row.canonicalLabels, id⟩]
  | seriesId tenant labels, .seriesId (.ok (some id)) => [⟨tenant, labels, id⟩]
  | _, _ => []

/-- After a call the series that it has identified are registered, and no other new ones. -/
theorem run_registers (sound : state.1.Sound state.2.table) (call : Call)
    (forward : call.Forward state) :
    (call.run state).2.2.table.Registers tenant labels id ↔
      state.2.table.Registers tenant labels id ∨
        ⟨tenant, labels, id⟩ ∈ call.identified state := by
  obtain ⟨writer, store⟩ := state
  cases call with
  | indexRow owner row => exact indexRow_registers sound
  | indexRows owner rows order => exact indexRows_registers sound order forward
  | seriesId owner others =>
      obtain ⟨found, after, left, looked, -, same, -⟩ := seriesId_keeps sound owner others
      rw [run, looked]
      simp [identified, same]
  | restart firstId bucketWidth capacity => simp [run, identified]

/-- A call keeps what is remembered sound and loses no item, and the rows that it covers are
indexed after it. -/
theorem run_indexes (sound : state.1.Sound state.2.table) (call : Call)
    (forward : call.Forward state) :
    (call.run state).2.1.Sound (call.run state).2.2.table ∧
      (∀ item ∈ state.2.table.items, item ∈ (call.run state).2.2.table.items) ∧
      ∀ tenant row, (tenant, row) ∈ call.indexed (call.run state).1 → row.metric ≠ "" →
        (call.run state).2.2.table.Indexes state.1.bucketWidth tenant row := by
  -- all calls but a new writer's leave the buckets as they are
  have steady : call.Steady state → (call.run state).2.1.Sound (call.run state).2.2.table ∧
      (∀ item ∈ state.2.table.items, item ∈ (call.run state).2.2.table.items) ∧
      ∀ tenant row, (tenant, row) ∈ call.indexed (call.run state).1 → row.metric ≠ "" →
        (call.run state).2.2.table.Indexes state.1.bucketWidth tenant row := by
    intro steady
    obtain ⟨owner, rows, covers, indexing⟩ := call.run_keeps sound steady
    refine ⟨indexing.sound, indexing.kept, ?_⟩
    intro tenant row covered measured
    rw [covers] at covered
    obtain ⟨other, listed, same⟩ := List.mem_map.mp covered
    cases same
    exact indexing.indexed row listed measured
  cases call with
  | indexRow owner row => exact steady forward
  | indexRows owner rows order => exact steady forward
  | seriesId owner others => exact steady trivial
  | restart firstId bucketWidth capacity =>
      refine ⟨?_, fun item held => held, fun _ _ impossible => absurd impossible List.not_mem_nil⟩
      apply sound_starting firstId bucketWidth capacity sound.registry
      intro tenant labels id registered
      exact forward tenant labels id registered

end Call

/-! ## Courses -/

/-- A call with the state that it is made in. -/
structure Step where
  call : Call
  before : State

namespace Step

variable {step : Step} {registration : Registration} {tenant : Tenant} {row : Row}

def answer (step : Step) : Answer := (step.call.run step.before).1

def after (step : Step) : State := (step.call.run step.before).2

/-- The series that rows of the call are given the identifiers of. -/
def identified (step : Step) : List Registration := step.call.identified step.before

/-- The series that the answer tells the identifier of. -/
def told (step : Step) : List Registration := step.call.told step.answer

/-- The rows that are indexed once the call has been answered. -/
def indexed (step : Step) : List (Tenant × Row) := step.call.indexed step.answer

end Step

/-- The steps made so far, and the state that they have led to. -/
inductive Course : List Step → State → Prop where
  | start (firstId bucketWidth : UInt64) (capacity : Nat) {store : Store}
      (empty : store.table = .empty) : Course [] (starting firstId bucketWidth capacity, store)
  | step {steps : List Step} {state : State} (course : Course steps state) (call : Call)
      (forward : call.Forward state) : Course (steps ++ [⟨call, state⟩]) (call.run state).2

/-- All series that have been given an identifier. -/
def registrations (steps : List Step) : List Registration := steps.flatMap Step.identified

section Courses

variable {steps : List Step} {state : State} {tenant : Tenant} {labels : List Label}
  {row : Row} {id : UInt64}

theorem mem_registrations_append {call : Call} {registration : Registration} :
    registration ∈ registrations (steps ++ [⟨call, state⟩]) ↔
      registration ∈ registrations steps ∨ registration ∈ call.identified state := by
  simp [registrations, Step.identified]

/-- In a course what is remembered is sound, and the table registers what was identified. -/
theorem Course.sound_registers (course : Course steps state) :
    state.1.Sound state.2.table ∧ ∀ tenant labels id,
      state.2.table.Registers tenant labels id ↔ ⟨tenant, labels, id⟩ ∈ registrations steps := by
  induction course with
  | start firstId bucketWidth capacity empty =>
      constructor
      · exact sound_starting_empty firstId bucketWidth capacity empty
      · intro tenant labels id
        rw [empty]
        exact ⟨fun registered => absurd registered List.not_mem_nil,
          fun impossible => absurd impossible List.not_mem_nil⟩
  | step course call forward ih =>
      obtain ⟨sound, registers⟩ := ih
      refine ⟨(call.run_indexes sound forward).1, ?_⟩
      intro tenant labels id
      rw [call.run_registers sound forward, registers, mem_registrations_append]

theorem Course.sound (course : Course steps state) : state.1.Sound state.2.table :=
  course.sound_registers.1

theorem Course.registers_iff (course : Course steps state) :
    state.2.table.Registers tenant labels id ↔ ⟨tenant, labels, id⟩ ∈ registrations steps :=
  course.sound_registers.2 tenant labels id

/-- A row that is indexed has been given an identifier, and it is the one that is told. -/
theorem identified_of_indexRow {given : UInt64}
    (answered : (indexRow tenant row state).1 = .ok given) :
    ⟨tenant, row.canonicalLabels, given⟩ ∈ identified tenant row state := by
  by_cases measured : row.metric = ""
  · rw [indexRow, if_pos (by simpa using measured)] at answered
    cases answered
  · rw [mem_identified measured]
    refine ⟨?_, rfl, rfl⟩
    rw [indexRow, if_neg (by simpa using measured)] at answered
    split at answered
    · cases answered
    · next identified =>
        rw [identified]
        dsimp only at answered ⊢
        split at answered
        · exact answered
        · split at answered
          · cases answered
          · exact answered

theorem identified_of_addToBatch {batch next : Batch} (measured : row.metric ≠ "")
    (added : (addToBatch tenant row batch state).1 = .ok next) :
    ∃ id, ⟨tenant, row.canonicalLabels, id⟩ ∈ identified tenant row state := by
  unfold addToBatch at added
  rw [if_neg (by simpa using measured)] at added
  split at added
  · cases added
  · next given writer store identified =>
      refine ⟨given, (mem_identified measured).mpr ⟨?_, rfl, rfl⟩⟩
      rw [identified]

/-- Once all rows are in a batch each of them that has a metric has been given an identifier. -/
theorem identified_of_addAllToBatch {rows : List Row} {batch last : Batch}
    (added : (addAllToBatch tenant rows batch state).1 = .ok last) :
    ∀ row ∈ rows, row.metric ≠ "" →
      ∃ id, ⟨tenant, row.canonicalLabels, id⟩ ∈ identifiedAll tenant rows batch state := by
  induction rows generalizing batch state with
  | nil => exact fun _ impossible => absurd impossible List.not_mem_nil
  | cons first rest ih =>
      intro row listed measured
      rw [addAllToBatch] at added
      rw [identifiedAll]
      cases outcome : addToBatch tenant first batch state with
      | mk answer after =>
          rw [outcome] at added
          cases answer with
          | error error => cases added
          | ok next =>
              dsimp only at added ⊢
              rcases List.mem_cons.mp listed with rfl | later
              · have succeeded : (addToBatch tenant row batch state).1 = .ok next := by
                  rw [outcome]
                obtain ⟨id, here⟩ := identified_of_addToBatch measured succeeded
                exact ⟨id, List.mem_append_left _ here⟩
              · obtain ⟨id, there⟩ := ih added row later measured
                exact ⟨id, List.mem_append_right _ there⟩

theorem identified_of_indexRows {rows : List Row} {order : KeyOrder} {count : Nat}
    (answered : (indexRows tenant rows state order).1 = .ok count) :
    ∀ row ∈ rows, row.metric ≠ "" →
      ∃ id, ⟨tenant, row.canonicalLabels, id⟩ ∈
        identifiedAll tenant rows ⟨0, [], []⟩ state := by
  rw [indexRows] at answered
  split at answered
  · cases answered
  · next collected =>
      apply identified_of_addAllToBatch
      rw [collected]

/-- Every row that a call has indexed has been given an identifier in it. -/
theorem Step.identified_of_indexed {step : Step} (inside : (tenant, row) ∈ step.indexed)
    (measured : row.metric ≠ "") : ∃ id, ⟨tenant, row.canonicalLabels, id⟩ ∈ step.identified := by
  obtain ⟨call, state⟩ := step
  cases call with
  | indexRow owner own =>
      change (tenant, row) ∈
        (covered (Writer.indexRow owner own state).1 [own]).map fun row => (owner, row) at inside
      cases answered : (Writer.indexRow owner own state).1 with
      | error error =>
          rw [answered] at inside
          exact absurd inside List.not_mem_nil
      | ok given =>
          rw [answered] at inside
          cases List.mem_singleton.mp inside
          exact ⟨given, identified_of_indexRow answered⟩
  | indexRows owner rows order =>
      change (tenant, row) ∈ (covered (Writer.indexRows owner rows state order).1 rows).map
        fun row => (owner, row) at inside
      cases answered : (Writer.indexRows owner rows state order).1 with
      | error error =>
          rw [answered] at inside
          exact absurd inside List.not_mem_nil
      | ok count =>
          rw [answered] at inside
          obtain ⟨other, listed, same⟩ := List.mem_map.mp inside
          cases same
          exact identified_of_indexRows answered row listed measured
  | seriesId owner others => exact absurd inside List.not_mem_nil
  | restart firstId bucketWidth capacity => exact absurd inside List.not_mem_nil

/-- What is told of a series has been registered by then. -/
theorem Course.registered_of_told (course : Course steps state) {call : Call}
    {registration : Registration} (told : registration ∈ call.told (call.run state).1) :
    registration ∈ registrations steps ∨ registration ∈ call.identified state := by
  cases call with
  | indexRow owner own =>
      rw [Call.run] at told
      cases answered : (Writer.indexRow owner own state).1 with
      | error error =>
          rw [answered] at told
          exact absurd told List.not_mem_nil
      | ok given =>
          rw [answered] at told
          rw [List.mem_singleton.mp told]
          exact .inr (identified_of_indexRow answered)
  | indexRows owner rows order => exact absurd told List.not_mem_nil
  | seriesId owner others =>
      rw [Call.run] at told
      obtain ⟨found, after, left, looked, -, -, -, -, registered, -⟩ :=
        seriesId_keeps course.sound owner others
      rw [looked] at told
      cases found with
      | error error => exact absurd told List.not_mem_nil
      | ok found =>
          cases found with
          | none => exact absurd told List.not_mem_nil
          | some given =>
              rw [List.mem_singleton.mp told]
              exact .inl (course.registers_iff.mp (registered given rfl))
  | restart firstId bucketWidth capacity => exact absurd told List.not_mem_nil

theorem Course.registered_of_step (course : Course steps state) {step : Step}
    (made : step ∈ steps) {registration : Registration} (told : registration ∈ step.told) :
    registration ∈ registrations steps := by
  induction course with
  | start firstId bucketWidth capacity empty => exact absurd made List.not_mem_nil
  | step course call forward ih =>
      rw [mem_registrations_append]
      rcases List.mem_append.mp made with old | new
      · exact .inl (ih old)
      · rw [List.mem_singleton.mp new] at told
        exact course.registered_of_told told

/-- Looking a series up finds it exactly if it has been registered, unless the read fails. -/
theorem Course.seriesId_finds (course : Course steps state) (tenant : Tenant)
    (labels : List Label) :
    match (Writer.seriesId tenant labels state).1 with
    | .ok found => ∀ id, found = some id ↔ ⟨tenant, labels, id⟩ ∈ registrations steps
    | .error error => state.2.medium.read state.2.reads = some error := by
  have registry := course.sound.registry
  obtain ⟨found, after, left, looked, -, -, -, -, registered, absent, failed⟩ :=
    seriesId_keeps course.sound tenant labels
  rw [looked]
  cases found with
  | error error => exact failed error rfl
  | ok found =>
      intro id
      rw [← course.registers_iff]
      cases found with
      | none => exact ⟨nofun, fun held => absurd held (absent rfl id)⟩
      | some given =>
          have held := registered given rfl
          constructor
          · rintro ⟨⟩
            exact held
          · intro other
            rw [registry.once held other]

/-- At every point of a course each series has one identifier and each identifier is of one series:
all answers tell the same, every row that was indexed has one, and looking a series up finds it
exactly if the series has been registered, unless the read fails. -/
theorem course_identifiers (course : Course steps state) :
    (∀ first ∈ registrations steps, ∀ second ∈ registrations steps,
      first.id = second.id ↔ first.tenant = second.tenant ∧ first.labels = second.labels) ∧
    (∀ step ∈ steps, (∀ registration ∈ step.told, registration ∈ registrations steps) ∧
      ∀ tenant row, (tenant, row) ∈ step.indexed → row.metric ≠ "" →
        ∃ id, ⟨tenant, row.canonicalLabels, id⟩ ∈ step.identified) ∧
    ∀ tenant labels,
      match (seriesId tenant labels state).1 with
      | .ok found => ∀ id, found = some id ↔ ⟨tenant, labels, id⟩ ∈ registrations steps
      | .error error => state.2.medium.read state.2.reads = some error := by
  have registry := course.sound.registry
  refine ⟨?_, ?_, ?_⟩
  · rintro ⟨tenant, labels, id⟩ first ⟨owner, others, other⟩ second
    have registered := course.registers_iff.mpr first
    have otherRegistered := course.registers_iff.mpr second
    constructor
    · rintro rfl
      exact registry.apart registered otherRegistered
    · rintro ⟨rfl, rfl⟩
      exact registry.once registered otherRegistered
  · intro step made
    refine ⟨fun registration told => course.registered_of_step made told, ?_⟩
    intro tenant row inside measured
    exact Step.identified_of_indexed inside measured
  · exact course.seriesId_finds

end Courses

/-! ## A sample -/

/-- An empty store whose second write fails. -/
def sampleStore : Store :=
  ⟨.memory, .empty, ⟨fun _ => none, fun index => if index = 1 then some (.io "full") else none⟩,
    0, 0⟩

def sampleRow : Row := ⟨"m", [⟨"a", "x"⟩], 5, "1"⟩

/-- Two rows of different series, with a row between them that has no metric. -/
def sampleRows : List Row := [sampleRow, ⟨"", [⟨"a", "x"⟩], 5, "1"⟩, ⟨"m", [], 5, "1"⟩]

def sampleStart : State := (starting 1 86400000 0, sampleStore)

/-- Indexing a row fails when its postings are to be written. -/
def sampleFailed : State := ((Call.indexRow ⟨0, 0⟩ sampleRow).run sampleStart).2

/-- Then the row is indexed together with others. -/
def sampleIndexed : State := ((Call.indexRows ⟨0, 0⟩ sampleRows).run sampleFailed).2

/-- In the end a new writer takes over, with buckets of an hour. -/
def sampleTaken : State := ((Call.restart 7 3600000 2).run sampleIndexed).2

def sampleSteps : List Step :=
  [⟨.indexRow ⟨0, 0⟩ sampleRow, sampleStart⟩, ⟨.indexRows ⟨0, 0⟩ sampleRows, sampleFailed⟩,
    ⟨.restart 7 3600000 2, sampleIndexed⟩]

theorem sampleSteps_course : Course sampleSteps sampleTaken := by
  have start : Course [] sampleStart := .start 1 86400000 0 rfl
  have failed : Course [⟨.indexRow ⟨0, 0⟩ sampleRow, sampleStart⟩] sampleFailed := by
    refine start.step (.indexRow ⟨0, 0⟩ sampleRow) ?_
    have counter : (indexRow ⟨0, 0⟩ sampleRow sampleStart).2.1.nextId = 2 := by
      decide +kernel
    rw [Call.Forward, counter]
    decide
  have indexed : Course [⟨.indexRow ⟨0, 0⟩ sampleRow, sampleStart⟩,
      ⟨.indexRows ⟨0, 0⟩ sampleRows, sampleFailed⟩] sampleIndexed := by
    refine failed.step (.indexRows ⟨0, 0⟩ sampleRows) ?_
    have unwrapped : Unwrapped ⟨0, 0⟩ sampleRows ⟨0, [], []⟩ sampleFailed := by
      decide +kernel
    exact unwrapped
  refine indexed.step (.restart 7 3600000 2) ?_
  intro tenant labels id registered
  have below : id < sampleIndexed.1.nextId := indexed.sound.ahead registered
  have counter : sampleIndexed.1.nextId = 3 := by
    decide +kernel
  rw [counter] at below
  exact UInt64.lt_trans below (by decide)

/-- The new writer finds the series of the first row, which has kept the identifier that it was
given before its postings failed. -/
theorem course_identifiers_sample :
    Course sampleSteps sampleTaken ∧
      (seriesId ⟨0, 0⟩ sampleRow.canonicalLabels sampleTaken).1 = .ok (some 1) ∧
      ∀ labels, ⟨⟨0, 0⟩, labels, 1⟩ ∈ registrations sampleSteps →
        labels = sampleRow.canonicalLabels := by
  obtain ⟨once, -, lookUp⟩ := course_identifiers sampleSteps_course
  have given : ⟨⟨0, 0⟩, sampleRow.canonicalLabels, 1⟩ ∈ registrations sampleSteps := by
    decide +kernel
  have looked := lookUp ⟨0, 0⟩ sampleRow.canonicalLabels
  refine ⟨sampleSteps_course, ?_, ?_⟩
  · cases answer : (seriesId ⟨0, 0⟩ sampleRow.canonicalLabels sampleTaken).1 with
    | error error =>
        rw [answer] at looked
        have readable : sampleTaken.2.medium.read sampleTaken.2.reads = none := by
          decide +kernel
        rw [readable] at looked
        cases looked
    | ok found =>
        rw [answer] at looked
        rw [(looked 1).mpr given]
  · intro labels other
    exact ((once _ other _ given).mp rfl).2

end SeriesIndex.Writer
