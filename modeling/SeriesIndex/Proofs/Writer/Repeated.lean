import SeriesIndex.Proofs.Writer.OneByOne
import SeriesIndex.Proofs.Writer.Recent

/-!
# Rows that come again

A row whose labels and bucket are those of a row indexed before has nothing to add to the table: its
series is registered and its postings are there, so whatever a writer does for it, it writes items
that the table has. This does not depend on what the writer remembers, nor on its next identifier.
-/

namespace SeriesIndex

/-- A read or a write that is still to come fails with the error. -/
def Store.Faults (store : Store) (error : StoreError) : Prop :=
  (∃ index, store.reads ≤ index ∧ store.medium.read index = some error) ∨
    ∃ index, store.writes ≤ index ∧ store.medium.write index = some error

namespace Writer

/-! ## States with the same table -/

/-- A state that comes after another: it has the same table and the same buckets, what the writer
knows is so, and reads and writes have only been added. -/
structure Stays (before after : State) : Prop where
  recalls : after.1.Recalls after.2.table
  width : after.1.bucketWidth = before.1.bucketWidth
  table : after.2.table = before.2.table
  medium : after.2.medium = before.2.medium
  reads : before.2.reads ≤ after.2.reads
  writes : before.2.writes ≤ after.2.writes

/-- How a call ends that has nothing to add: the table stays, and the answer is right or an error
of the medium. -/
structure Settles {α : Type} (right : α → Prop) (before : State)
    (outcome : Except StoreError α × State) : Prop where
  stays : Stays before outcome.2
  given : ∀ {value}, outcome.1 = .ok value → right value
  failed : ∀ {error}, outcome.1 = .error error → before.2.Faults error

section Staying

variable {writer : Writer} {store : Store} {first second third state : State} {tenant : Tenant}
  {labels : List Label} {id : UInt64} {items : List Bytes}

theorem Recalls.stays (recalls : state.1.Recalls state.2.table) : Stays state state :=
  ⟨recalls, rfl, rfl, rfl, Nat.le_refl _, Nat.le_refl _⟩

theorem Stays.trans (left : Stays first second) (right : Stays second third) :
    Stays first third :=
  ⟨right.recalls, right.width.trans left.width, right.table.trans left.table,
    right.medium.trans left.medium, Nat.le_trans left.reads right.reads,
    Nat.le_trans left.writes right.writes⟩

/-- What fails later fails from the start. -/
theorem Stays.faults (stays : Stays first second) {error : StoreError}
    (faults : second.2.Faults error) : first.2.Faults error := by
  rcases faults with ⟨index, later, fault⟩ | ⟨index, later, fault⟩
  · exact .inl ⟨index, Nat.le_trans stays.reads later, stays.medium ▸ fault⟩
  · exact .inr ⟨index, Nat.le_trans stays.writes later, stays.medium ▸ fault⟩

theorem Stays.settles {α : Type} {right : α → Prop} {outcome : Except StoreError α × State}
    (stays : Stays first second) (settles : Settles right second outcome) :
    Settles right first outcome :=
  ⟨stays.trans settles.stays, settles.given, fun ends => stays.faults (settles.failed ends)⟩

theorem Stays.answers {α : Type} {right : α → Prop} {value : α} (stays : Stays first second)
    (answer : right value) : Settles right first (.ok value, second) := by
  refine ⟨stays, ?_, nofun⟩
  rintro _ ⟨⟩
  exact answer

/-- An error is passed on. -/
theorem Settles.fails {α β : Type} {right : α → Prop} {other : β → Prop} {error : StoreError}
    (settles : Settles right first (.error error, second)) :
    Settles other first (.error error, second) := by
  refine ⟨settles.stays, nofun, ?_⟩
  rintro _ ⟨⟩
  exact settles.failed rfl

/-! ## Steps that add nothing -/

/-- A series is found under the identifier that it has in the table. -/
theorem seriesId_settles (recalls : state.1.Recalls state.2.table) (tenant : Tenant)
    (labels : List Label) :
    Settles (fun found => ∀ id, found = some id ↔ state.2.table.Registers tenant labels id) state
      (seriesId tenant labels state) := by
  obtain ⟨writer, store⟩ := state
  obtain ⟨found, known, reads, looked, kept, later, registered, absent, failed⟩ :=
    seriesId_recalls recalls tenant labels
  rw [looked]
  refine ⟨⟨kept, rfl, rfl, rfl, later, Nat.le_refl _⟩, ?_, ?_⟩
  · rintro found rfl id
    cases found with
    | none => exact ⟨nofun, fun held => absurd held (absent rfl id)⟩
    | some given =>
        have held := registered given rfl
        constructor
        · rintro ⟨⟩
          exact held
        · exact fun other => congrArg some (recalls.registry.once held other)
  · rintro error rfl
    exact .inl ⟨_, Nat.le_refl _, failed error rfl⟩

theorem identify_settles (recalls : state.1.Recalls state.2.table)
    (registered : state.2.table.Registers tenant labels id) :
    Settles (· = id) state (identify tenant labels state) := by
  have looked := seriesId_settles recalls tenant labels
  unfold identify
  split
  · next error after outcome =>
      rw [outcome] at looked
      exact looked.fails
  · next other after outcome =>
      rw [outcome] at looked
      exact looked.stays.answers (Option.some.inj ((looked.given rfl id).mpr registered))
  · next after outcome =>
      rw [outcome] at looked
      cases (looked.given rfl id).mpr registered

/-- Items that are there already change nothing when they are written at the end of a call. -/
theorem written_settles {α : Type} {right : α → Prop} {given : α}
    (recalls : writer.Recalls store.table) (held : ∀ item ∈ items, item ∈ store.table.items)
    (keys : List PostingKey) (answer : right given) :
    Settles right (writer, store)
      (match store.add items with
        | (.error error, store) => (.error error, writer, store)
        | (.ok (), store) => (.ok given, writer.remember keys, store)) := by
  unfold Store.add
  dsimp only
  cases fault : store.medium.write store.writes with
  | some error =>
      refine ⟨⟨recalls, rfl, rfl, rfl, Nat.le_refl _, Nat.le_succ _⟩, nofun, ?_⟩
      rintro _ ⟨⟩
      exact .inr ⟨_, Nat.le_refl _, fault⟩
  | none =>
      have same := Table.insertAll_of_held held
      have kept : (writer.remember keys).Recalls (store.table.insertAll items) := by
        rw [same]
        exact ⟨recalls.registry, recalls.known⟩
      exact Stays.answers ⟨kept, rfl, same, rfl, Nat.le_refl _, Nat.le_succ _⟩ answer

/-- Whether postings have been written lately is asked without a change to the table. -/
theorem Stays.wasWritten (stays : Stays first (writer, store)) (key : PostingKey) :
    Stays first ((writer.wasWritten key).2, store) :=
  stays.trans ⟨⟨stays.recalls.registry, stays.recalls.known⟩, rfl, rfl, rfl, Nat.le_refl _,
    Nat.le_refl _⟩

end Staying

/-! ## Rows that are indexed already -/

section Rows

variable {state : State} {tenant : Tenant} {row : Row} {rows : List Row} {batch : Batch}
  {id : UInt64}

theorem indexRow_settles (recalls : state.1.Recalls state.2.table) (measured : row.metric ≠ "")
    (indexed : state.2.table.Indexes state.1.bucketWidth tenant row) :
    Settles (state.2.table.Registers tenant row.canonicalLabels) state
      (indexRow tenant row state) := by
  obtain ⟨id, registered, posted⟩ := indexed
  have named := identify_settles recalls registered
  rw [indexRow, if_neg (by simpa using measured)]
  split
  · next error after outcome =>
      rw [outcome] at named
      exact named.fails
  · next given writer store outcome =>
      rw [outcome] at named
      obtain rfl := named.given rfl
      obtain ⟨stays, -, -⟩ := named
      have settled := stays.wasWritten ⟨tenant, Key.bucketStart row.time writer.bucketWidth, given⟩
      have widths : writer.bucketWidth = state.1.bucketWidth := stays.width
      have table : store.table = state.2.table := stays.table
      dsimp only
      split
      · next after found =>
          rw [found] at settled
          exact settled.answers registered
      · next after missing =>
          rw [missing] at settled
          apply settled.settles
          apply written_settles settled.recalls ?_ _ registered
          intro item owed
          rw [widths] at owed
          exact table ▸ posted item owed

/-- A row that is added to a batch is counted if it has a metric, and what the batch holds is in the
table as before. -/
theorem addToBatch_settles (recalls : state.1.Recalls state.2.table)
    (indexed : row.metric ≠ "" → state.2.table.Indexes state.1.bucketWidth tenant row)
    (held : ∀ item ∈ batch.items, item ∈ state.2.table.items) :
    Settles (fun next => next.indexed = batch.indexed + (measured [row]).length ∧
      ∀ item ∈ next.items, item ∈ state.2.table.items) state
      (addToBatch tenant row batch state) := by
  by_cases unmeasured : row.metric = ""
  · rw [addToBatch, if_pos (by simpa using unmeasured)]
    exact recalls.stays.answers ⟨by simp [measured, unmeasured], held⟩
  obtain ⟨id, registered, posted⟩ := indexed unmeasured
  have named := identify_settles recalls registered
  have counted : (measured [row]).length = 1 := by simp [measured, unmeasured]
  rw [addToBatch, if_neg (by simpa using unmeasured), counted]
  split
  · next error after outcome =>
      rw [outcome] at named
      exact named.fails
  · next given writer store outcome =>
      rw [outcome] at named
      obtain rfl := named.given rfl
      obtain ⟨stays, -, -⟩ := named
      have settled := stays.wasWritten ⟨tenant, Key.bucketStart row.time writer.bucketWidth, given⟩
      have widths : writer.bucketWidth = state.1.bucketWidth := stays.width
      dsimp only
      split
      · exact stays.answers ⟨rfl, held⟩
      · split
        · next after found =>
            rw [found] at settled
            exact settled.answers ⟨rfl, held⟩
        · next after missing =>
            rw [missing] at settled
            refine settled.answers ⟨rfl, fun item owed => ?_⟩
            rcases List.mem_append.mp owed with old | new
            · exact held item old
            · rw [widths] at new
              exact posted item new

theorem addAllToBatch_settles (recalls : state.1.Recalls state.2.table)
    (indexed : ∀ row ∈ rows, row.metric ≠ "" →
      state.2.table.Indexes state.1.bucketWidth tenant row)
    (held : ∀ item ∈ batch.items, item ∈ state.2.table.items) :
    Settles (fun last => last.indexed = batch.indexed + (measured rows).length ∧
      ∀ item ∈ last.items, item ∈ state.2.table.items) state
      (addAllToBatch tenant rows batch state) := by
  induction rows generalizing batch state with
  | nil => exact recalls.stays.answers ⟨rfl, held⟩
  | cons row rest ih =>
      obtain ⟨here, later⟩ := List.forall_mem_cons.mp indexed
      have first := addToBatch_settles recalls here held
      rw [addAllToBatch]
      split
      · next error after outcome =>
          rw [outcome] at first
          exact first.fails
      · next next after outcome =>
          rw [outcome] at first
          obtain ⟨counted, owed⟩ := first.given rfl
          have width : after.1.bucketWidth = state.1.bucketWidth := first.stays.width
          have table : after.2.table = state.2.table := first.stays.table
          apply first.stays.settles
          -- the other rows are indexed behind the first one as they were before it
          rw [← table, ← width] at later
          rw [← table] at owed
          have rests := ih first.stays.recalls later owed
          rw [table] at rests
          have whole : (measured (row :: rest)).length =
              (measured [row]).length + (measured rest).length := by
            rw [measured, ← List.singleton_append, List.filter_append, List.length_append]
            rfl
          rw [whole, ← Nat.add_assoc, ← counted]
          exact rests

/-- Rows that are indexed already are counted when they are indexed together. -/
theorem indexRows_settles (order : KeyOrder) (recalls : state.1.Recalls state.2.table)
    (indexed : ∀ row ∈ rows, row.metric ≠ "" →
      state.2.table.Indexes state.1.bucketWidth tenant row) :
    Settles (· = (measured rows).length) state (indexRows tenant rows state order) := by
  have collected : Settles _ state (addAllToBatch tenant rows ⟨0, [], []⟩ state) :=
    addAllToBatch_settles recalls indexed fun _ impossible => absurd impossible List.not_mem_nil
  rw [indexRows]
  split
  · next error after outcome =>
      rw [outcome] at collected
      exact collected.fails
  · next batch writer store outcome =>
      rw [outcome] at collected
      obtain ⟨counted, held⟩ := collected.given rfl
      have table : store.table = state.2.table := collected.stays.table
      rw [← table] at held
      apply collected.stays.settles
      apply written_settles collected.stays.recalls held
      rw [counted, Nat.zero_add]

end Rows

/-! ## Calls that repeat rows -/

/-- The row has the canonical labels and the bucket of a row that a call has indexed. -/
def Repeated (steps : List Step) (width : UInt64) (tenant : Tenant) (row : Row) : Prop :=
  ∃ step ∈ steps, ∃ old, (tenant, old) ∈ step.indexed ∧
    row.canonicalLabels = old.canonicalLabels ∧
    Key.bucketStart row.time width = Key.bucketStart old.time step.before.1.bucketWidth

/-- A writer that has lost some of what it remembered. -/
structure Forgets (before after : Writer) : Prop where
  width : after.bucketWidth = before.bucketWidth
  nextId : after.nextId = before.nextId
  known : ∀ entry ∈ after.known.entries, entry ∈ before.known.entries
  recent : ∀ entry ∈ after.recent.entries, entry ∈ before.recent.entries

theorem Recalls.forget {writer after : Writer} {table : Table} (recalls : writer.Recalls table)
    (forgets : Forgets writer after) : after.Recalls table :=
  ⟨recalls.registry, fun held => recalls.known (forgets.known _ held)⟩

namespace Call

/-- All rows of the call are repeated. -/
def Repeats (steps : List Step) (width : UInt64) : Call → Prop
  | indexRow tenant row => Repeated steps width tenant row
  | indexRows tenant rows _ => ∀ row ∈ rows, Repeated steps width tenant row
  | seriesId _ _ | restart _ _ _ => True

/-- The answer to a call when certain series have been given identifiers: those identifiers, and for
rows that are indexed together the number of those with a metric. A row without a metric is refused,
and any other error is one of the medium. -/
def Recites (given : List Registration) (store : Store) : Call → Answer → Prop
  | indexRow tenant row, .indexRow (.ok id) =>
      ∀ other, ⟨tenant, row.canonicalLabels, other⟩ ∈ given ↔ other = id
  | indexRow _ row, .indexRow (.error error) =>
      row.metric = "" ∧ error = .codec .noMetric ∨ row.metric ≠ "" ∧ store.Faults error
  | indexRows _ rows _, .indexRows (.ok count) => count = (measured rows).length
  | indexRows _ _ _, .indexRows (.error error) => store.Faults error
  | seriesId tenant labels, .seriesId (.ok found) =>
      ∀ id, found = some id ↔ ⟨tenant, labels, id⟩ ∈ given
  | seriesId _ _, .seriesId (.error error) => store.Faults error
  | restart _ _ _, .restarted => True
  | _, _ => False

end Call

/-- Calls that follow a course and index no rows but repeated ones; the writer may forget anything
at any time. -/
inductive Again (steps : List Step) (start : State) : List Step → State → Prop where
  | nothing : Again steps start [] start
  | forget {made : List Step} {writer after : Writer} {store : Store}
      (again : Again steps start made (writer, store)) (forgets : Forgets writer after) :
      Again steps start made (after, store)
  | step {made : List Step} {state : State} (again : Again steps start made state) (call : Call)
      (repeats : call.Repeats steps state.1.bucketWidth) :
      Again steps start (made ++ [⟨call, state⟩]) (call.run state).2

section Repeating

variable {steps made : List Step} {start state : State} {tenant : Tenant} {row other : Row}
  {width : UInt64}

theorem metric_of_canonicalLabels (same : row.canonicalLabels = other.canonicalLabels) :
    row.metric = other.metric :=
  congrArg Label.value (List.cons.inj same).1

/-- A repeated row is indexed already. -/
theorem Course.indexes_repeated (course : Course steps state)
    (repeated : Repeated steps width tenant row) (measured : row.metric ≠ "") :
    state.2.table.Indexes width tenant row := by
  obtain ⟨step, made, old, covered, labels, bucket⟩ := repeated
  have metric : old.metric ≠ "" := metric_of_canonicalLabels labels ▸ measured
  obtain ⟨id, registered, posted⟩ := course.indexes made covered metric
  rw [Table.Indexes, labels, bucket]
  exact ⟨id, registered, posted⟩

/-- A call that repeats rows leaves the table as it is, and answers what was answered before. -/
theorem Call.run_settles {given : List Registration} (call : Call)
    (recalls : state.1.Recalls state.2.table)
    (registers : ∀ {tenant labels id},
      state.2.table.Registers tenant labels id ↔ ⟨tenant, labels, id⟩ ∈ given)
    (indexes : ∀ {tenant row}, Repeated steps state.1.bucketWidth tenant row → row.metric ≠ "" →
      state.2.table.Indexes state.1.bucketWidth tenant row)
    (repeats : call.Repeats steps state.1.bucketWidth) :
    (call.run state).2.1.Recalls (call.run state).2.2.table ∧
      (call.run state).2.2.table = state.2.table ∧
      call.Recites given state.2 (call.run state).1 := by
  cases call with
  | indexRow tenant row =>
      by_cases unmeasured : row.metric = ""
      · have refused : Writer.indexRow tenant row state = (.error (.codec .noMetric), state) :=
          if_pos (by simpa using unmeasured)
        rw [run, refused]
        exact ⟨recalls, rfl, .inl ⟨unmeasured, rfl⟩⟩
      · have settles := indexRow_settles recalls unmeasured (indexes repeats unmeasured)
        refine ⟨settles.stays.recalls, settles.stays.table, ?_⟩
        cases answer : (Writer.indexRow tenant row state).1 with
        | error error =>
            rw [run, answer]
            exact .inr ⟨unmeasured, settles.failed answer⟩
        | ok id =>
            rw [run, answer]
            have registered := settles.given answer
            intro other
            rw [← registers]
            constructor
            · exact fun held => recalls.registry.once held registered
            · rintro rfl
              exact registered
  | indexRows tenant rows order =>
      have settles := indexRows_settles order recalls fun row listed measured =>
        indexes (repeats row listed) measured
      refine ⟨settles.stays.recalls, settles.stays.table, ?_⟩
      cases answer : (Writer.indexRows tenant rows state order).1 with
      | error error =>
          rw [run, answer]
          exact settles.failed answer
      | ok count =>
          rw [run, answer]
          exact settles.given answer
  | seriesId tenant labels =>
      have settles := seriesId_settles recalls tenant labels
      refine ⟨settles.stays.recalls, settles.stays.table, ?_⟩
      cases answer : (Writer.seriesId tenant labels state).1 with
      | error error =>
          rw [run, answer]
          exact settles.failed answer
      | ok found =>
          rw [run, answer]
          intro id
          rw [settles.given answer id, registers]
  | restart firstId bucketWidth capacity =>
      have nothing : (starting firstId bucketWidth capacity).Recalls state.2.table :=
        ⟨recalls.registry, fun held => absurd held List.not_mem_nil⟩
      exact ⟨nothing, rfl, trivial⟩

/-- After a course, rows that are indexed again add nothing, whatever the writer has forgotten and
whichever writers take over: each call leaves the table as it was and answers what was answered
before, unless the medium fails. -/
theorem course_repeated (course : Course steps start) (again : Again steps start made state) :
    state.2.table = start.2.table ∧
      ∀ step ∈ made, step.after.2.table = start.2.table ∧
        step.call.Recites (registrations steps) step.before.2 step.answer := by
  have kept : state.1.Recalls state.2.table ∧ state.2.table = start.2.table ∧
      ∀ step ∈ made, step.after.2.table = start.2.table ∧
        step.call.Recites (registrations steps) step.before.2 step.answer := by
    induction again with
    | nothing =>
        exact ⟨course.sound.recalls, rfl, fun _ impossible => absurd impossible List.not_mem_nil⟩
    | forget again forgets ih =>
        obtain ⟨recalls, same, answers⟩ := ih
        exact ⟨recalls.forget forgets, same, answers⟩
    | @step made state again call repeats ih =>
        obtain ⟨recalls, same, answers⟩ := ih
        have settles := call.run_settles recalls
          (fun {tenant labels id} => same ▸ course.registers_iff)
          (fun {tenant row} repeated measured => same ▸ course.indexes_repeated repeated measured)
          repeats
        obtain ⟨kept, unchanged, recites⟩ := settles
        have table := unchanged.trans same
        refine ⟨kept, table, ?_⟩
        intro step inside
        rcases List.mem_append.mp inside with old | new
        · exact answers step old
        · rw [List.mem_singleton.mp new]
          exact ⟨table, recites⟩
  exact kept.2

end Repeating

/-! ## A sample -/

/-- A row with the canonical labels of the first row, and within the same hour. -/
def sampleRepeated : Row :=
  ⟨"m", [⟨"a", "y"⟩, ⟨Key.metricName, "n"⟩, ⟨"b", ""⟩, ⟨"a", "x"⟩], 3599999, "2"⟩

/-- The new writer is given that row and the first one. -/
def sampleRepeats : State :=
  ((Call.indexRows ⟨0, 0⟩ [sampleRepeated, sampleRow]).run sampleTaken).2

/-- Then it forgets everything. -/
def sampleForgotten : State :=
  ({ sampleRepeats.1 with known := .empty 1, recent := .empty 1 }, sampleRepeats.2)

/-- At last another writer takes over, with buckets of a minute and with identifiers that have been
given before. -/
def sampleReplaced : State := ((Call.restart 0 60000 1).run sampleForgotten).2

def sampleMade : List Step :=
  [⟨.indexRows ⟨0, 0⟩ [sampleRepeated, sampleRow], sampleTaken⟩,
    ⟨.restart 0 60000 1, sampleForgotten⟩, ⟨.indexRow ⟨0, 0⟩ sampleRow, sampleReplaced⟩]

theorem sampleMade_again :
    Again sampleSteps sampleTaken sampleMade
      ((Call.indexRow ⟨0, 0⟩ sampleRow).run sampleReplaced).2 := by
  have covered : (⟨0, 0⟩, sampleRow) ∈
      (Step.mk (.indexRows ⟨0, 0⟩ sampleRows) sampleFailed).indexed := by
    decide +kernel
  have days : sampleFailed.1.bucketWidth = 86400000 := by decide +kernel
  have repeated : ∀ {row width}, row.canonicalLabels = sampleRow.canonicalLabels →
      Key.bucketStart row.time width = Key.bucketStart sampleRow.time 86400000 →
      Repeated sampleSteps width ⟨0, 0⟩ row := fun labels bucket =>
    ⟨_, .tail _ (.head _), sampleRow, covered, labels, days ▸ bucket⟩
  have first : Again sampleSteps sampleTaken
      [⟨.indexRows ⟨0, 0⟩ [sampleRepeated, sampleRow], sampleTaken⟩] sampleRepeats := by
    apply Again.nothing.step (.indexRows ⟨0, 0⟩ [sampleRepeated, sampleRow])
    intro row listed
    rcases List.mem_cons.mp listed with rfl | other
    · exact repeated (by decide +kernel) (by decide +kernel)
    · rw [List.mem_singleton.mp other]
      exact repeated rfl (by decide +kernel)
  have forgotten : Again sampleSteps sampleTaken _ sampleForgotten :=
    first.forget ⟨rfl, rfl, fun _ impossible => absurd impossible List.not_mem_nil,
      fun _ impossible => absurd impossible List.not_mem_nil⟩
  have replaced : Again sampleSteps sampleTaken _ sampleReplaced :=
    forgotten.step (.restart 0 60000 1) trivial
  exact replaced.step (.indexRow ⟨0, 0⟩ sampleRow) (repeated rfl (by decide +kernel))

/-- The first row is given its identifier once more, and nothing has been added for it. -/
theorem course_repeated_sample :
    Course sampleSteps sampleTaken ∧
      Again sampleSteps sampleTaken sampleMade
        ((Call.indexRow ⟨0, 0⟩ sampleRow).run sampleReplaced).2 ∧
      (indexRow ⟨0, 0⟩ sampleRow sampleReplaced).2.2.table = sampleTaken.2.table ∧
      (indexRow ⟨0, 0⟩ sampleRow sampleReplaced).1 = .ok 1 := by
  obtain ⟨same, answers⟩ := course_repeated sampleSteps_course sampleMade_again
  have given : ⟨⟨0, 0⟩, sampleRow.canonicalLabels, 1⟩ ∈ registrations sampleSteps := by
    decide +kernel
  have last : Step.mk (.indexRow ⟨0, 0⟩ sampleRow) sampleReplaced ∈ sampleMade :=
    .tail _ (.tail _ (.head _))
  have recites := (answers _ last).2
  have answered : (indexRow ⟨0, 0⟩ sampleRow sampleReplaced).1.isOk = true := by
    decide +kernel
  refine ⟨sampleSteps_course, sampleMade_again, same, ?_⟩
  change Call.Recites _ _ _ (.indexRow (indexRow ⟨0, 0⟩ sampleRow sampleReplaced).1) at recites
  cases answer : (indexRow ⟨0, 0⟩ sampleRow sampleReplaced).1 with
  | ok id =>
      rw [answer] at recites
      rw [(recites 1).mp given]
  | error error =>
      rw [answer] at answered
      cases answered

end Writer

end SeriesIndex
