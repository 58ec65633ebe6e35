import SeriesIndex.Proofs.Writer.Faults
import SeriesIndex.Proofs.Writer.OneByOne

/-!
# Indexing rows in parts

Where the medium does not fail, indexing rows succeeds and counts those with a metric, unless the
labels of one of them cannot be recorded. If the counter of identifiers does not wrap, it makes no
difference whether rows are indexed in one batch or in two: either way they come to the same as one
by one. The counter cannot wrap if it has room for one identifier more for each row.
-/

namespace SeriesIndex

/-- Nothing fails from now on, and writers alone have written to the table. -/
structure Store.Answering (store : Store) : Prop where
  unfailing : store.Unfailing
  written : ∀ item ∈ store.table.items, store.table.Written item

namespace Writer

/-! ## Counting rows -/

section Answers

variable {writer : Writer} {store : Store} {tenant : Tenant} {labels : List Label}

/-- Looking a series up succeeds, whatever the writer knows. -/
theorem seriesId_answers (answering : store.Answering) (tenant : Tenant) (labels : List Label) :
    ∃ found after left, seriesId tenant labels (writer, store) = (.ok found, after, left) ∧
      left.Answering := by
  obtain ⟨unfailing, written⟩ := answering
  have later : { store with reads := store.reads + 1 }.Answering :=
    ⟨unfailing.reads (Nat.le_succ _), written⟩
  unfold seriesId lookUp
  dsimp only
  split
  · exact ⟨_, _, _, rfl, unfailing, written⟩
  · rw [Store.firstWithPrefix_of_read (unfailing.read _ (Nat.le_refl _))]
    cases first : store.table.first? (seriesKey tenant labels) with
    | none => exact ⟨_, _, _, rfl, later⟩
    | some item =>
        obtain ⟨id, taken, -⟩ := Table.registers_of_first? written first
        dsimp only
        rw [taken]
        exact ⟨_, _, _, rfl, later⟩

/-- Registering a series fails only if its labels cannot be recorded. -/
theorem register_answers (answering : store.Answering) (tenant : Tenant) (labels : List Label) :
    ∃ given after left, register tenant labels (writer, store) = (given, after, left) ∧
      left.Answering ∧
      ∀ cause, given = .error cause → LabelRecord.encode labels = .error cause := by
  unfold register
  dsimp only
  cases encoded : LabelRecord.encode labels with
  | error cause =>
      refine ⟨_, _, _, rfl, answering, ?_⟩
      rintro _ ⟨⟩
      rfl
  | ok record =>
      obtain ⟨left, wrote, unfailing, table⟩ := answering.unfailing.add
        [seriesKey tenant labels ++ Bytes.ofWord64 writer.nextId,
          Key.labels tenant writer.nextId ++ record]
      have whole : left.table = store.table.register tenant labels writer.nextId record := table
      have registered : left.table.Registers tenant labels writer.nextId := by
        rw [whole]
        exact Table.registers_register.mpr (.inr ⟨rfl, rfl, rfl⟩)
      have written : ∀ item ∈ left.table.items, left.table.Written item := by
        intro item held
        rw [whole] at held
        rcases Table.mem_register.mp held with old | rfl | rfl
        · refine (answering.written item old).mono fun _ held => ?_
          rw [whole]
          exact Table.mem_register.mpr (.inl held)
        · exact .series registered
        · exact .record registered encoded
      dsimp only
      rw [wrote]
      exact ⟨_, _, _, rfl, ⟨unfailing, written⟩, nofun⟩

theorem identify_answers (answering : store.Answering) (tenant : Tenant) (labels : List Label) :
    ∃ given after left, identify tenant labels (writer, store) = (given, after, left) ∧
      left.Answering ∧
      ∀ cause, given = .error cause → LabelRecord.encode labels = .error cause := by
  obtain ⟨found, once, left, looked, answering⟩ :=
    @seriesId_answers writer store answering tenant labels
  unfold identify
  rw [looked]
  cases found with
  | some id => exact ⟨.ok id, once, left, rfl, answering, nofun⟩
  | none =>
      dsimp only
      obtain ⟨found, twice, right, looked, answering⟩ :=
        @seriesId_answers once left answering tenant labels
      rw [looked]
      cases found with
      | some id => exact ⟨.ok id, twice, right, rfl, answering, nofun⟩
      | none => exact register_answers answering tenant labels

variable {row : Row} {rows : List Row} {batch : Batch}

theorem addToBatch_answers (answering : store.Answering) (tenant : Tenant) (row : Row)
    (batch : Batch) :
    ∃ answer after left, addToBatch tenant row batch (writer, store) = (answer, after, left) ∧
      left.Answering ∧ Meets (Refused [row])
        (fun next => next.indexed = batch.indexed + (measured [row]).length) answer := by
  by_cases named : row.metric = ""
  · rw [addToBatch_of_unmeasured named, measured_of_unmeasured named]
    exact ⟨_, _, _, rfl, answering, rfl⟩
  · have listed : row ∈ measured [row] := mem_measured.mpr ⟨.head _, named⟩
    obtain ⟨given, between, left, identified, answering, refuses⟩ :=
      @identify_answers writer store answering tenant row.canonicalLabels
    rw [addToBatch, if_neg (by simpa using named), identified, measured_of_measured named]
    cases given with
    | error cause => exact ⟨_, _, _, rfl, answering, row, listed, refuses cause rfl⟩
    | ok id =>
        -- whatever becomes of its postings, the row is counted
        dsimp only [wasWritten]
        split
        · exact ⟨_, _, _, rfl, answering, rfl⟩
        · split
          · exact ⟨_, _, _, rfl, answering, rfl⟩
          · exact ⟨_, _, _, rfl, answering, rfl⟩

theorem addAllToBatch_answers (answering : store.Answering) (tenant : Tenant) (rows : List Row)
    (batch : Batch) :
    ∃ answer after left, addAllToBatch tenant rows batch (writer, store) = (answer, after, left) ∧
      left.Answering ∧ Meets (Refused rows)
        (fun last => last.indexed = batch.indexed + (measured rows).length) answer := by
  induction rows generalizing batch writer store with
  | nil => exact ⟨_, _, _, rfl, answering, rfl⟩
  | cons row rest ih =>
      have parts : measured (row :: rest) = measured [row] ++ measured rest :=
        List.filter_append [row] rest
      obtain ⟨answer, between, middle, added, answering, counts⟩ :=
        @addToBatch_answers writer store answering tenant row batch
      rw [addAllToBatch, added]
      cases answer with
      | error cause =>
          have refused : Refused [row] cause := counts
          exact ⟨_, _, _, rfl, answering, refused.mono (List.subset_append_left _ _)⟩
      | ok next =>
          have here : next.indexed = batch.indexed + (measured [row]).length := counts
          obtain ⟨answer, after, left, collected, answering, rests⟩ :=
            @ih between middle answering next
          refine ⟨answer, after, left, collected, answering, ?_⟩
          cases answer with
          | error cause => exact Refused.mono rests (List.subset_cons_self _ _)
          | ok last =>
              change last.indexed = _ at rests
              change last.indexed = _
              rw [rests, here, parts, List.length_append, Nat.add_assoc]

/-- The rows are indexed, also if the counter wraps, unless one of them is refused. -/
theorem indexRows_answers {state : State} (answering : state.2.Answering) (tenant : Tenant)
    (rows : List Row) (order : KeyOrder) :
    Meets (Refused rows) (· = (measured rows).length) (indexRows tenant rows state order).1 := by
  obtain ⟨writer, store⟩ := state
  obtain ⟨answer, after, left, collected, answering, counts⟩ :=
    @addAllToBatch_answers writer store answering tenant rows ⟨0, [], []⟩
  rw [indexRows, collected]
  cases answer with
  | error cause => exact counts
  | ok last =>
      have count : last.indexed = 0 + (measured rows).length := counts
      obtain ⟨ended, wrote, -⟩ := answering.unfailing.add last.items
      dsimp only
      rw [wrote]
      exact count.trans (Nat.zero_add _)

end Answers

/-! ## Room for identifiers -/

section Room

variable {tenant : Tenant} {row : Row} {rows : List Row} {state : State}

theorem seriesId_nextId (tenant : Tenant) (labels : List Label) (state : State) :
    (seriesId tenant labels state).2.1.nextId = state.1.nextId :=
  (lookUp_frame _ state).1

/-- A series takes one identifier at most. -/
theorem identify_nextId (tenant : Tenant) (labels : List Label) (state : State) :
    (identify tenant labels state).2.1.nextId = state.1.nextId ∨
      (identify tenant labels state).2.1.nextId = state.1.nextId + 1 := by
  have once := seriesId_nextId tenant labels state
  rw [identify]
  generalize seriesId tenant labels state = outcome at once ⊢
  obtain ⟨found, between⟩ := outcome
  cases found with
  | error cause => exact .inl once
  | ok found =>
      cases found with
      | some id => exact .inl once
      | none =>
          have twice := (seriesId_nextId tenant labels between).trans once
          dsimp only
          generalize seriesId tenant labels between = outcome at twice ⊢
          obtain ⟨found, left⟩ := outcome
          cases found with
          | error cause => exact .inl twice
          | ok found =>
              cases found with
              | some id => exact .inl twice
              | none => exact .inr ((register_nextId _ _ _).trans (congrArg (· + 1) twice))

/-- The counter goes on by one at most for a row, if there is room for that. -/
theorem addToBatch_nextId_le (measured : row.metric ≠ "") (batch : Batch)
    (room : state.1.nextId.toNat + 1 < UInt64.size) :
    state.1.nextId.toNat ≤ (addToBatch tenant row batch state).2.1.nextId.toNat ∧
      (addToBatch tenant row batch state).2.1.nextId.toNat ≤ state.1.nextId.toNat + 1 := by
  have next : (state.1.nextId + 1).toNat = state.1.nextId.toNat + 1 := by
    rw [UInt64.toNat_add]
    exact Nat.mod_eq_of_lt room
  rw [addToBatch_nextId measured]
  rcases identify_nextId tenant row.canonicalLabels state with same | more
  · rw [same]; omega
  · rw [more, next]; omega

/-- The counter does not wrap if there is room for all rows, and goes on by their number at most. -/
theorem addAllToBatch_nextId_le (tenant : Tenant) (batch : Batch)
    (room : state.1.nextId.toNat + (measured rows).length < UInt64.size) :
    Unwrapped tenant rows batch state ∧
      (addAllToBatch tenant rows batch state).2.1.nextId.toNat ≤
        state.1.nextId.toNat + (measured rows).length := by
  induction rows generalizing batch state with
  | nil => exact ⟨trivial, Nat.le_refl _⟩
  | cons row rest ih =>
      rw [Unwrapped, addAllToBatch]
      by_cases named : row.metric = ""
      · rw [measured_of_unmeasured named] at room ⊢
        rw [addToBatch_of_unmeasured named]
        exact ⟨⟨UInt64.le_refl _, (ih batch room).1⟩, (ih batch room).2⟩
      · rw [measured_of_measured named, List.length_cons] at room ⊢
        have here := @addToBatch_nextId_le tenant row state named batch (by omega)
        rw [UInt64.le_iff_toNat_le]
        generalize addToBatch tenant row batch state = outcome at here ⊢
        obtain ⟨answer, after⟩ := outcome
        cases answer with
        | error cause => exact ⟨⟨here.1, trivial⟩, by dsimp only at here ⊢; omega⟩
        | ok next =>
            dsimp only at here ⊢
            obtain ⟨steady, most⟩ := @ih after next (by omega)
            exact ⟨⟨here.1, steady⟩, by omega⟩

theorem indexRows_nextId_le (tenant : Tenant) (order : KeyOrder)
    (room : state.1.nextId.toNat + (measured rows).length < UInt64.size) :
    (indexRows tenant rows state order).2.1.nextId.toNat ≤
      state.1.nextId.toNat + (measured rows).length := by
  have most := (addAllToBatch_nextId_le tenant ⟨0, [], []⟩ room).2
  rw [indexRows]
  generalize addAllToBatch tenant rows ⟨0, [], []⟩ state = outcome at most ⊢
  obtain ⟨answer, writer, store⟩ := outcome
  cases answer with
  | error cause => exact most
  | ok batch =>
      dsimp only
      generalize store.add batch.items = written
      obtain ⟨wrote, left⟩ := written
      cases wrote with
      | error cause => exact most
      | ok => exact most

end Room

/-! ## Rows one after another -/

section Each

variable {tenant : Tenant} {rows others : List Row} {state after last : State}
  {ids : List UInt64}

/-- The counter of identifiers does not wrap while rows are indexed one by one. -/
def EachUnwrapped (tenant : Tenant) : List Row → State → Prop
  | [], _ => True
  | row :: rest, state =>
      state.1.nextId ≤ (indexRow tenant row state).2.1.nextId ∧
        match indexRow tenant row state with
        | (.error _, _) => True
        | (.ok _, state) => EachUnwrapped tenant rest state

/-- Rows are indexed behind others as they are by themselves afterwards. -/
theorem indexEach_append {given : Except StoreError (List UInt64)}
    (first : indexEach tenant rows state = (.ok ids, after))
    (second : indexEach tenant others after = (given, last)) :
    indexEach tenant (rows ++ others) state = (given.map (ids ++ ·), last) := by
  induction rows generalizing state ids with
  | nil =>
      cases first
      cases given with
      | error cause => exact second
      | ok more => exact second
  | cons row rest ih =>
      rw [indexEach] at first
      split at first
      · cases first
      · next ran =>
          split at first
          · cases first
          · next rests =>
              cases first
              rw [List.cons_append, indexEach, ran]
              dsimp only
              rw [ih rests]
              cases given with
              | error cause => rfl
              | ok more => rfl

/-- Rows are not reached behind others of which one fails. -/
theorem indexEach_append_of_error {cause : StoreError}
    (first : indexEach tenant rows state = (.error cause, after)) :
    indexEach tenant (rows ++ others) state = (.error cause, after) := by
  induction rows generalizing state with
  | nil => cases first
  | cons row rest ih =>
      rw [indexEach] at first
      rw [List.cons_append, indexEach]
      generalize indexRow tenant row state = outcome at first ⊢
      obtain ⟨given, next⟩ := outcome
      cases given with
      | error failed => exact first
      | ok id =>
          dsimp only at first ⊢
          split at first
          · next rests =>
              cases first
              rw [ih rests]
          · cases first

theorem EachUnwrapped.front (steady : EachUnwrapped tenant (rows ++ others) state) :
    EachUnwrapped tenant rows state := by
  induction rows generalizing state with
  | nil => trivial
  | cons row rest ih =>
      obtain ⟨here, later⟩ := steady
      refine ⟨here, ?_⟩
      split
      · trivial
      · next ran =>
          rw [ran] at later
          exact ih later

theorem EachUnwrapped.back (steady : EachUnwrapped tenant (rows ++ others) state)
    (first : indexEach tenant rows state = (.ok ids, after)) :
    EachUnwrapped tenant others after := by
  induction rows generalizing state ids with
  | nil =>
      cases first
      exact steady
  | cons row rest ih =>
      obtain ⟨-, later⟩ := steady
      rw [indexEach] at first
      split at first
      · cases first
      · next ran =>
          rw [ran] at later
          split at first
          · cases first
          · next rests =>
              cases first
              exact ih later rests

end Each

/-! ## Whole batches -/

namespace Level

variable {width : UInt64} {tenant : Tenant} {rows done : List Row} {batch : Batch}
  {batched single : State}

/-- The counter wraps on both sides or on none. -/
theorem unwrapped_iff (level : Level width tenant done batch batched single) :
    Unwrapped tenant rows batch batched ↔ EachUnwrapped tenant (measured rows) single := by
  induction rows generalizing batch batched single done with
  | nil => exact Iff.rfl
  | cons row rest ih =>
      by_cases named : row.metric = ""
      · rw [Unwrapped, addToBatch_of_unmeasured named, measured_of_unmeasured named]
        exact (and_iff_right (UInt64.le_refl _)).trans (ih (level.skip named))
      · have counters : batched.1.nextId ≤ (addToBatch tenant row batch batched).2.1.nextId ↔
            single.1.nextId ≤ (indexRow tenant row single).2.1.nextId := by
          rw [level.counter_after named, level.counter]
        rw [Unwrapped, measured_of_measured named, EachUnwrapped, ← counters]
        refine and_congr_right fun here => ?_
        rcases level.step named here with ⟨cause, after, later, added, ran, -⟩ |
          ⟨id, next, after, later, added, ran, -, -, still⟩
        · rw [added, ran]
        · rw [added, ran]
          exact ih still

end Level

/-- Rows that are indexed in two batches come to the same as in one. If a row is refused, it is
refused in both ways, with the same error. -/
theorem indexRows_append {tenant : Tenant} {rows others : List Row} {state : State}
    (sound : state.1.Sound state.2.table) (unfailing : state.2.Unfailing)
    (steady : Unwrapped tenant (rows ++ others) ⟨0, [], []⟩ state) (order early late : KeyOrder) :
    (∃ cause whole first,
      indexRows tenant (rows ++ others) state order = (.error cause, whole) ∧
      indexRows tenant rows state early = (.error cause, first)) ∨
    (∃ cause whole first second,
      indexRows tenant (rows ++ others) state order = (.error cause, whole) ∧
      indexRows tenant rows state early = (.ok (measured rows).length, first) ∧
      indexRows tenant others first late = (.error cause, second)) ∨
    ∃ whole first second,
      indexRows tenant (rows ++ others) state order =
        (.ok (measured (rows ++ others)).length, whole) ∧
      indexRows tenant rows state early = (.ok (measured rows).length, first) ∧
      indexRows tenant others first late = (.ok (measured others).length, second) ∧
      whole.2.table = second.2.table ∧ whole.1.nextId = second.1.nextId ∧
      identifiedAll tenant (rows ++ others) ⟨0, [], []⟩ state =
        identifiedAll tenant rows ⟨0, [], []⟩ state ++
          identifiedAll tenant others ⟨0, [], []⟩ first := by
  have level : Level state.1.bucketWidth tenant [] ⟨0, [], []⟩ state state :=
    ⟨sound, sound, unfailing, unfailing, rfl, rfl, rfl, Completes.nothing _ _ _,
      fun item => by simp⟩
  have parts : measured (rows ++ others) = measured rows ++ measured others :=
    List.filter_append rows others
  have each := level.unwrapped_iff.mp steady
  rw [parts] at each
  -- both ways are compared with indexing the rows one by one
  have whole := level.indexRows steady order
  rw [parts] at whole
  rcases level.indexRows (level.unwrapped_iff.mpr each.front) early with
    ⟨cause, first, between, frontRows, ranFront, -⟩ |
    ⟨earlyIds, first, between, frontRows, ranFront, -, lengths, frontGiven, firstLevel⟩
  · rw [indexEach_append_of_error ranFront] at whole
    rcases whole with ⟨_, ended, _, both, ran, -⟩ | ⟨_, _, _, -, ran, -⟩
    · cases ran
      exact .inl ⟨cause, ended, first, both, frontRows⟩
    · cases ran
  · rcases firstLevel.indexRows (firstLevel.unwrapped_iff.mpr (each.back ranFront)) late with
      ⟨cause, second, last, backRows, ranBack, -⟩ |
      ⟨lateIds, second, last, backRows, ranBack, -, -, backGiven, secondLevel⟩
    · rw [indexEach_append ranFront ranBack] at whole
      rcases whole with ⟨_, ended, _, both, ran, -⟩ | ⟨_, _, _, -, ran, -⟩
      · cases ran
        exact .inr (.inl ⟨cause, ended, first, second, both, frontRows, backRows⟩)
      · cases ran
    · rw [indexEach_append ranFront ranBack] at whole
      rcases whole with ⟨_, _, _, -, ran, -⟩ | ⟨_, ended, _, both, ran, -, -, given, wholeLevel⟩
      · cases ran
      · cases ran
        refine .inr (.inr ⟨ended, first, second, ?_, frontRows, backRows,
          wholeLevel.table_eq.trans secondLevel.table_eq.symm,
          wholeLevel.counter.symm.trans secondLevel.counter, ?_⟩)
        · rw [both, parts]
        · rw [given, frontGiven, backGiven, List.map_append,
            List.zipWith_append (by rw [List.length_map, lengths])]

end Writer

end SeriesIndex
