import SeriesIndex.Proofs.Writer.Course

/-!
# Postings that are remembered

A writer remembers postings after they have been written and not before. So a row whose postings it
skips is indexed all the same, and a call that fails, wherever that is, leaves nothing behind that
would make a later call skip a write.
-/

namespace SeriesIndex.Writer

/-- The call was not carried out to its end. -/
def Answer.failed : Answer → Bool
  | indexRow (.error _) | indexRows (.error _) | seriesId (.error _) => true
  | _ => false

/-! ## What calls that fail remember -/

section Failing

variable {tenant : Tenant} {row : Row} {rows : List Row} {state : State} {error : StoreError}
  {entry : PostingKey × Unit}

theorem lookUp_recent (key : Bytes) (state : State) :
    (lookUp key state).2.1.recent = state.1.recent := by
  unfold lookUp
  repeat' split
  all_goals rfl

theorem register_recent (tenant : Tenant) (labels : List Label) (state : State) :
    (register tenant labels state).2.1.recent = state.1.recent := by
  unfold register
  dsimp only
  repeat' split
  all_goals rfl

/-- Identifying a series has nothing to do with postings. -/
theorem identify_recent (tenant : Tenant) (labels : List Label) (state : State) :
    (identify tenant labels state).2.1.recent = state.1.recent := by
  have first := lookUp_recent (seriesKey tenant labels) state
  unfold identify seriesId
  split
  · next looked =>
      rw [looked] at first
      exact first
  · next looked =>
      rw [looked] at first
      exact first
  · next between looked =>
      rw [looked] at first
      have second := lookUp_recent (seriesKey tenant labels) between
      split
      · next again =>
          rw [again] at second
          exact second.trans first
      · next again =>
          rw [again] at second
          exact second.trans first
      · next last again =>
          rw [again] at second
          exact (register_recent tenant labels last).trans (second.trans first)

theorem mem_of_mem_wasWritten {writer : Writer} {key : PostingKey}
    (inside : entry ∈ (writer.wasWritten key).2.recent.entries) :
    entry ∈ writer.recent.entries := RecentMap.mem_of_mem_use inside

/-- A row that cannot be indexed is not remembered. -/
theorem indexRow_recent (failed : (indexRow tenant row state).1 = .error error)
    (inside : entry ∈ (indexRow tenant row state).2.1.recent.entries) :
    entry ∈ state.1.recent.entries := by
  have identifies := identify_recent tenant row.canonicalLabels state
  by_cases measured : row.metric = ""
  · rw [indexRow, if_pos (by simpa using measured)] at inside
    exact inside
  · rw [indexRow, if_neg (by simpa using measured)] at failed inside
    split at inside
    · next identified =>
        rw [identified] at identifies
        exact identifies ▸ inside
    · next id writer store identified =>
        rw [identified] at identifies failed
        dsimp only at identifies failed inside
        rw [← identifies]
        split at inside
        · next after written =>
            rw [written] at failed
            cases failed
        · next after unwritten =>
            rw [unwritten] at failed
            dsimp only at failed
            split at inside
            · apply mem_of_mem_wasWritten
              rw [unwritten]
              exact inside
            · next added =>
                rw [added] at failed
                cases failed

/-- A batch remembers nothing by itself. -/
theorem addToBatch_recent (tenant : Tenant) (row : Row) (batch : Batch)
    (inside : entry ∈ (addToBatch tenant row batch state).2.1.recent.entries) :
    entry ∈ state.1.recent.entries := by
  have identifies := identify_recent tenant row.canonicalLabels state
  by_cases measured : row.metric = ""
  · rw [addToBatch, if_pos (by simpa using measured)] at inside
    exact inside
  · rw [addToBatch, if_neg (by simpa using measured)] at inside
    split at inside
    · next identified =>
        rw [identified] at identifies
        exact identifies ▸ inside
    · next id writer store identified =>
        rw [identified] at identifies
        dsimp only at identifies inside
        rw [← identifies]
        split at inside
        · exact inside
        · split at inside
          all_goals
            next used =>
              apply mem_of_mem_wasWritten
              rw [used]
              exact inside

theorem addAllToBatch_recent (tenant : Tenant) (rows : List Row) (batch : Batch)
    (inside : entry ∈ (addAllToBatch tenant rows batch state).2.1.recent.entries) :
    entry ∈ state.1.recent.entries := by
  induction rows generalizing batch state with
  | nil => exact inside
  | cons row rest ih =>
      apply addToBatch_recent tenant row batch
      rw [addAllToBatch] at inside
      split at inside
      · next added =>
          rw [added]
          exact inside
      · next next after added =>
          rw [added]
          exact ih next inside

theorem indexRows_recent {order : KeyOrder}
    (failed : (indexRows tenant rows state order).1 = .error error)
    (inside : entry ∈ (indexRows tenant rows state order).2.1.recent.entries) :
    entry ∈ state.1.recent.entries := by
  apply addAllToBatch_recent tenant rows ⟨0, [], []⟩
  rw [indexRows] at failed inside
  split at inside
  · next collected =>
      rw [collected]
      exact inside
  · next batch writer store collected =>
      rw [collected] at failed ⊢
      dsimp only at failed inside
      split at inside
      · exact inside
      · next written =>
          rw [written] at failed
          cases failed

/-- A call that fails remembers no postings that were not remembered before. -/
theorem Call.run_recent (call : Call) (failed : (call.run state).1.failed = true)
    (inside : entry ∈ (call.run state).2.1.recent.entries) : entry ∈ state.1.recent.entries := by
  cases call with
  | indexRow owner own =>
      cases answered : (Writer.indexRow owner own state).1 with
      | ok id =>
          rw [run, answered] at failed
          cases failed
      | error error => exact indexRow_recent answered inside
  | indexRows owner rows order =>
      cases answered : (Writer.indexRows owner rows state order).1 with
      | ok count =>
          rw [run, answered] at failed
          cases failed
      | error error => exact indexRows_recent answered inside
  | seriesId owner labels =>
      have same : (Writer.seriesId owner labels state).2.1.recent = state.1.recent :=
        lookUp_recent (seriesKey owner labels) state
      rw [← same]
      exact inside
  | restart firstId bucketWidth capacity => cases failed

end Failing

/-! ## What is indexed in a course -/

section Courses

variable {steps : List Step} {state : State} {tenant : Tenant} {row : Row}

/-- No step loses an item. -/
theorem Course.kept (course : Course steps state) {step : Step} (made : step ∈ steps) :
    ∀ item ∈ step.before.2.table.items, item ∈ step.after.2.table.items := by
  induction course with
  | start firstId bucketWidth capacity empty => exact absurd made List.not_mem_nil
  | step course call forward ih =>
      rcases List.mem_append.mp made with old | new
      · exact ih old
      · rw [List.mem_singleton.mp new]
        exact (call.run_indexes course.sound forward).2.1

/-- The rows of a call that succeeded stay indexed, in the buckets of the writer that was called. -/
theorem Course.indexes (course : Course steps state) {step : Step} (made : step ∈ steps)
    (covered : (tenant, row) ∈ step.indexed) (measured : row.metric ≠ "") :
    state.2.table.Indexes step.before.1.bucketWidth tenant row := by
  induction course with
  | start firstId bucketWidth capacity empty => exact absurd made List.not_mem_nil
  | step course call forward ih =>
      obtain ⟨-, kept, indexed⟩ := call.run_indexes course.sound forward
      rcases List.mem_append.mp made with old | new
      · exact (ih old).mono kept
      · rw [List.mem_singleton.mp new] at covered ⊢
        exact indexed tenant row covered measured

theorem mem_registrations {step : Step} (made : step ∈ steps) {registration : Registration}
    (given : registration ∈ step.identified) : registration ∈ registrations steps :=
  List.mem_flatMap_of_mem made given

/-- At every point of a course, whichever reads and writes have failed: all postings are there that
a writer remembers, and those of every row that a call covered which has succeeded, one for each
canonical label in the bucket of the row. No call loses an item, and one that fails remembers
nothing for which a later call would skip a write. -/
theorem course_postings (course : Course steps state) :
    (∀ key, (key, ()) ∈ state.1.recent.entries → ∃ labels,
      ⟨key.tenant, labels, key.id⟩ ∈ registrations steps ∧
        ∀ label ∈ labels, Key.posting key.tenant (Bytes.ofText label.name)
          (Bytes.ofText label.value) key.bucket [key.id] ∈ state.2.table.items) ∧
    (∀ step ∈ steps, ∀ tenant row, (tenant, row) ∈ step.indexed → row.metric ≠ "" → ∃ id,
      ⟨tenant, row.canonicalLabels, id⟩ ∈ step.identified ∧
        ∀ label ∈ row.canonicalLabels, Key.posting tenant (Bytes.ofText label.name)
          (Bytes.ofText label.value) (Key.bucketStart row.time step.before.1.bucketWidth) [id] ∈
            state.2.table.items) ∧
    ∀ step ∈ steps,
      (∀ item ∈ step.before.2.table.items, item ∈ step.after.2.table.items) ∧
      (step.answer.failed = true → ∀ entry ∈ step.after.1.recent.entries,
        entry ∈ step.before.1.recent.entries) := by
  refine ⟨?_, ?_, ?_⟩
  · intro key held
    obtain ⟨labels, registered, posted⟩ := course.sound.recent held
    refine ⟨labels, course.registers_iff.mp registered, ?_⟩
    intro label listed
    exact posted _ (mem_postings.mpr ⟨label, listed, rfl⟩)
  · intro step made tenant row covered measured
    obtain ⟨id, given⟩ := Step.identified_of_indexed covered measured
    obtain ⟨other, registered, posted⟩ := course.indexes made covered measured
    -- the row was indexed under the identifier that it was given
    have same : other = id := course.sound.registry.once registered
      (course.registers_iff.mpr (mem_registrations made given))
    refine ⟨id, given, ?_⟩
    intro label listed
    rw [← same]
    exact posted _ (mem_postings.mpr ⟨label, listed, rfl⟩)
  · intro step made
    refine ⟨course.kept made, ?_⟩
    intro failed entry inside
    exact step.call.run_recent failed inside

/-- The postings of the first row are there in the end, although they could not be written when it
was indexed first, since the second call did not take them for written. -/
theorem course_postings_sample :
    Course sampleSteps sampleTaken ∧
      (indexRow ⟨0, 0⟩ sampleRow sampleStart).1 = .error (.io "full") ∧
      ∀ label ∈ sampleRow.canonicalLabels, ∃ id, Key.posting ⟨0, 0⟩ (Bytes.ofText label.name)
        (Bytes.ofText label.value) 0 [id] ∈ sampleTaken.2.table.items := by
  obtain ⟨-, posted, -⟩ := course_postings sampleSteps_course
  have covered : (⟨0, 0⟩, sampleRow) ∈
      (Step.mk (.indexRows ⟨0, 0⟩ sampleRows) sampleFailed).indexed := by
    decide +kernel
  obtain ⟨id, -, inside⟩ := posted _ (.tail _ (.head _)) ⟨0, 0⟩ sampleRow covered (by decide)
  have bucket : Key.bucketStart sampleRow.time sampleFailed.1.bucketWidth = 0 := by decide +kernel
  refine ⟨sampleSteps_course, by decide +kernel, ?_⟩
  intro label listed
  exact ⟨id, bucket ▸ inside label listed⟩

end Courses

end SeriesIndex.Writer
