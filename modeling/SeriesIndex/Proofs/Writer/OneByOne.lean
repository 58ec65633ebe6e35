import SeriesIndex.Proofs.Outcome
import SeriesIndex.Proofs.Writer.Course

/-!
# Indexing rows one by one

Where no read and no write fails, a batch comes to the same as its rows indexed one after the
other: the same items and the same identifiers, or the same error if the labels of a row cannot be
recorded. The two paths write at different times and remember different things; all along, the table
of the rows indexed one by one holds what the table of the batch and the batch itself hold together.
-/

namespace SeriesIndex

/-- No read and no write of the store fails from now on. -/
structure Store.Unfailing (store : Store) : Prop where
  read : ∀ index, store.reads ≤ index → store.medium.read index = none
  write : ∀ index, store.writes ≤ index → store.medium.write index = none

namespace Store

variable {store : Store}

theorem Unfailing.reads (unfailing : store.Unfailing) {reads : Nat} (later : store.reads ≤ reads) :
    { store with reads := reads }.Unfailing :=
  ⟨fun index late => unfailing.read index (Nat.le_trans later late), unfailing.write⟩

theorem Unfailing.add (unfailing : store.Unfailing) (items : List Bytes) :
    ∃ left, store.add items = (.ok (), left) ∧ left.Unfailing ∧
      left.table = store.table.insertAll items := by
  unfold Store.add
  dsimp only
  rw [unfailing.write _ (Nat.le_refl _)]
  exact ⟨_, rfl, ⟨unfailing.read, fun index later =>
    unfailing.write index (Nat.le_of_succ_le later)⟩, rfl⟩

end Store

namespace Writer

/-! ## Identifying where nothing fails -/

/-- What identifying a series comes to: the answer, the next identifier, and the table. A series
that is registered keeps its identifier, and any other is registered under the next one, unless its
labels cannot be recorded. -/
inductive Identifies (tenant : Tenant) (labels : List Label) (next : UInt64) (table : Table) :
    Except StoreError UInt64 → UInt64 → Table → Prop where
  | known {id : UInt64} (registered : table.Registers tenant labels id) :
      Identifies tenant labels next table (.ok id) next table
  | new {record : Bytes} (absent : ∀ id, ¬ table.Registers tenant labels id)
      (encoded : LabelRecord.encode labels = .ok record) :
      Identifies tenant labels next table (.ok next) (next + 1)
        (table.register tenant labels next record)
  | refused {cause : StoreError} (absent : ∀ id, ¬ table.Registers tenant labels id)
      (refused : LabelRecord.encode labels = .error cause) :
      Identifies tenant labels next table (.error cause) (next + 1) table

section Identifying

variable {writer : Writer} {store : Store} {tenant : Tenant} {labels : List Label}

theorem seriesId_calm (sound : writer.Sound store.table) (unfailing : store.Unfailing)
    (tenant : Tenant) (labels : List Label) :
    ∃ found after left, seriesId tenant labels (writer, store) = (.ok found, after, left) ∧
      after.Sound left.table ∧ left.Unfailing ∧ left.table = store.table ∧
      after.nextId = writer.nextId ∧
      (∀ id, found = some id → store.table.Registers tenant labels id) ∧
      (found = none → ∀ id, ¬ store.table.Registers tenant labels id) := by
  obtain ⟨found, known, reads, looked, recalls, later, registered, absent, failed⟩ :=
    seriesId_recalls sound.recalls tenant labels
  cases found with
  | error error => cases (unfailing.read _ (Nat.le_refl _)).symm.trans (failed error rfl)
  | ok found =>
      exact ⟨found, _, _, looked, { sound with known := recalls.known }, unfailing.reads later,
        rfl, rfl, fun id here => registered id (congrArg Except.ok here),
        fun none => absent (congrArg Except.ok none)⟩

/-- Registering a series succeeds, unless its labels cannot be recorded. -/
theorem register_calm (unfailing : store.Unfailing)
    (absent : ∀ id, ¬ store.table.Registers tenant labels id) :
    ∃ given after left, register tenant labels (writer, store) = (given, after, left) ∧
      left.Unfailing ∧
      Identifies tenant labels writer.nextId store.table given after.nextId left.table := by
  unfold register
  dsimp only
  cases encoded : LabelRecord.encode labels with
  | error cause => exact ⟨_, _, _, rfl, unfailing, .refused absent encoded⟩
  | ok record =>
      obtain ⟨left, written, leftUnfailing, table⟩ := unfailing.add
        [seriesKey tenant labels ++ Bytes.ofWord64 writer.nextId,
          Key.labels tenant writer.nextId ++ record]
      dsimp only
      rw [written]
      exact ⟨_, _, _, rfl, leftUnfailing, table ▸ .new absent encoded⟩

/-- Identifying a series comes to what its table tells. -/
theorem identify_identifies (sound : writer.Sound store.table) (unfailing : store.Unfailing)
    (tenant : Tenant) (labels : List Label) :
    ∃ given after left, identify tenant labels (writer, store) = (given, after, left) ∧
      left.Unfailing ∧
      Identifies tenant labels writer.nextId store.table given after.nextId left.table := by
  obtain ⟨found, once, left, looked, onceSound, leftUnfailing, same, counter, registered, -⟩ :=
    seriesId_calm sound unfailing tenant labels
  unfold identify
  rw [looked]
  cases found with
  | some id =>
      refine ⟨.ok id, once, left, rfl, leftUnfailing, ?_⟩
      rw [counter, same]
      exact .known (registered id rfl)
  | none =>
      dsimp only
      obtain ⟨found, twice, right, looked, -, rightUnfailing, again, recounted, registered,
        absent⟩ := seriesId_calm onceSound leftUnfailing tenant labels
      rw [looked]
      rw [same] at again registered absent
      cases found with
      | some id =>
          refine ⟨.ok id, twice, right, rfl, rightUnfailing, ?_⟩
          rw [recounted, counter, again]
          exact .known (registered id rfl)
      | none =>
          rw [← again] at absent
          have done := @register_calm twice right tenant labels rightUnfailing (absent rfl)
          rwa [recounted, counter, again] at done

/-- What is remembered stays so, unless the counter wraps. -/
theorem identify_calm (sound : writer.Sound store.table) (unfailing : store.Unfailing)
    (steady : writer.nextId ≤ (identify tenant labels (writer, store)).2.1.nextId) :
    ∃ given after left, identify tenant labels (writer, store) = (given, after, left) ∧
      after.Sound left.table ∧ after.bucketWidth = writer.bucketWidth ∧ left.Unfailing ∧
      Identifies tenant labels writer.nextId store.table given after.nextId left.table := by
  obtain ⟨given, after, left, identified, leftUnfailing, identifies⟩ :=
    identify_identifies sound unfailing tenant labels
  obtain ⟨_, _, _, again, afterSound, extends_, -⟩ := identify_keeps sound tenant labels steady
  cases identified.symm.trans again
  exact ⟨given, after, left, identified, afterSound, extends_.width, leftUnfailing, identifies⟩

namespace Identifies

variable {next id after : UInt64} {table other : Table} {cause : StoreError}

theorem registered (identifies : Identifies tenant labels next table (.ok id) after other) :
    other.Registers tenant labels id := by
  cases identifies with
  | known registered => exact registered
  | new absent encoded => exact Table.registers_register.mpr (.inr ⟨rfl, rfl, rfl⟩)

/-- A series that cannot be registered leaves nothing in the table. -/
theorem of_error (identifies : Identifies tenant labels next table (.error cause) after other) :
    LabelRecord.encode labels = .error cause ∧ other = table := by
  cases identifies with
  | refused absent refused => exact ⟨refused, rfl⟩

/-- Tables that differ by postings only tell the same, and go on differing by those. -/
theorem agree {given answer : Except StoreError UInt64} {later : UInt64}
    {left right left' right' : Table} {items : List Bytes} (registry : left.Registry)
    (owes : left.Owes items) (apart : ∀ item, item ∈ right.items ↔ item ∈ left.items ∨ item ∈ items)
    (first : Identifies tenant labels next left given after left')
    (second : Identifies tenant labels next right answer later right') :
    answer = given ∧ later = after ∧
      ∀ item, item ∈ right'.items ↔ item ∈ left'.items ∨ item ∈ items := by
  have same : ∀ id, right.Registers tenant labels id ↔ left.Registers tenant labels id :=
    fun id => owes.registers_iff apart
  cases first with
  | known registered =>
      cases second with
      | known again => exact ⟨congrArg _ (registry.once ((same _).mp again) registered), rfl, apart⟩
      | new absent encoded => exact absurd ((same _).mpr registered) (absent _)
      | refused absent refused => exact absurd ((same _).mpr registered) (absent _)
  | new absent encoded =>
      cases second with
      | known registered => exact absurd ((same _).mp registered) (absent _)
      | refused _ refused => cases encoded.symm.trans refused
      | new _ again =>
          obtain rfl := Except.ok.inj (encoded.symm.trans again)
          refine ⟨rfl, rfl, fun item => ?_⟩
          rw [Table.mem_register, Table.mem_register, apart, or_right_comm]
  | refused absent refused =>
      cases second with
      | known registered => exact absurd ((same _).mp registered) (absent _)
      | new _ encoded => cases refused.symm.trans encoded
      | refused _ again =>
          obtain rfl := Except.error.inj (refused.symm.trans again)
          exact ⟨rfl, rfl, apart⟩

end Identifies

end Identifying

/-! ## The two paths -/

section Paths

variable {writer : Writer} {store : Store} {tenant : Tenant} {row : Row} {done : List Row}
  {batch : Batch} {width : UInt64}

/-- The postings of a row under an identifier. -/
def rowPostings (width : UInt64) (tenant : Tenant) (row : Row) (id : UInt64) : List Bytes :=
  postings row.canonicalLabels ⟨tenant, Key.bucketStart row.time width, id⟩

/-- A row that is indexed by itself leaves its postings in the table, and nothing else that
identifying its series does not leave. -/
theorem indexRow_calm (sound : writer.Sound store.table) (unfailing : store.Unfailing)
    (widths : writer.bucketWidth = width) (measured : row.metric ≠ "")
    (steady : writer.nextId ≤ (indexRow tenant row (writer, store)).2.1.nextId) :
    ∃ given after left table, indexRow tenant row (writer, store) = (given, after, left) ∧
      after.Sound left.table ∧ after.bucketWidth = width ∧ left.Unfailing ∧
      Identifies tenant row.canonicalLabels writer.nextId store.table given after.nextId table ∧
      Meets (fun _ => left.table = table) (fun id => ∀ item, item ∈ left.table.items ↔
        item ∈ table.items ∨ item ∈ rowPostings width tenant row id) given := by
  obtain ⟨_, last, ended, ran, indexing, -⟩ := indexRow_keeps sound tenant row steady
  rw [indexRow_nextId measured] at steady
  obtain ⟨given, between, middle, identified, betweenSound, stays, middleUnfailing, identifies⟩ :=
    identify_calm sound unfailing steady
  have answered := ran
  rw [indexRow, if_neg (by simpa using measured), identified] at answered
  cases given with
  | error cause =>
      cases answered
      exact ⟨_, _, _, _, ran, betweenSound, stays.trans widths, middleUnfailing, identifies,
        rfl⟩
  | ok id =>
      obtain ⟨found, after, looked, -, -, counter, posted⟩ :=
        wasWritten_keeps betweenSound ⟨tenant, Key.bucketStart row.time width, id⟩
      rw [← counter] at identifies
      dsimp only at answered
      rw [stays, widths, looked] at answered
      cases found with
      | true =>
          cases answered
          refine ⟨_, _, _, _, ran, indexing.sound, indexing.width.trans widths, middleUnfailing,
            identifies, fun item => (or_iff_left_of_imp fun owed => ?_).symm⟩
          exact posted rfl _ identifies.registered item owed
      | false =>
          obtain ⟨left, written, leftUnfailing, table⟩ := middleUnfailing.add
            (rowPostings width tenant row id)
          dsimp only at answered
          rw [rowPostings] at written
          rw [written] at answered
          cases answered
          refine ⟨_, _, _, _, ran, indexing.sound, indexing.width.trans widths, leftUnfailing,
            identifies, fun item => ?_⟩
          rw [table, Table.mem_insertAll, or_comm]

/-- A row that is added to a batch leaves its postings in the table or in the batch. -/
theorem addToBatch_calm (sound : writer.Sound store.table) (unfailing : store.Unfailing)
    (widths : writer.bucketWidth = width)
    (completes : Completes store.table width tenant done batch.items batch.fresh)
    (measured : row.metric ≠ "")
    (steady : writer.nextId ≤ (addToBatch tenant row batch (writer, store)).2.1.nextId) :
    ∃ given answer after left, addToBatch tenant row batch (writer, store) = (answer, after, left) ∧
      after.Sound left.table ∧ after.bucketWidth = width ∧ left.Unfailing ∧
      Identifies tenant row.canonicalLabels writer.nextId store.table given after.nextId
        left.table ∧
      Meets (fun cause => answer = .error cause) (fun id => ∃ next, answer = .ok next ∧
        Completes left.table width tenant (done ++ [row]) next.items next.fresh ∧
        identified tenant row (writer, store) = [⟨tenant, row.canonicalLabels, id⟩] ∧
        next.indexed = batch.indexed + 1 ∧
        ∀ item, item ∈ left.table.items ∨ item ∈ next.items ↔
          (item ∈ left.table.items ∨ item ∈ batch.items) ∨
            item ∈ rowPostings width tenant row id) given := by
  obtain ⟨answer, after, left, ran, afterSound, extends_, completed⟩ :=
    addToBatch_keeps sound widths completes row steady
  rw [addToBatch_nextId measured] at steady
  obtain ⟨given, between, middle, named, betweenSound, stays, middleUnfailing, identifies⟩ :=
    identify_calm sound unfailing steady
  have answered := ran
  rw [addToBatch, if_neg (by simpa using measured), named] at answered
  cases given with
  | error cause =>
      cases answered
      exact ⟨_, _, _, _, ran, betweenSound, stays.trans widths, middleUnfailing, identifies, rfl⟩
  | ok id =>
      have given : identified tenant row (writer, store) = [⟨tenant, row.canonicalLabels, id⟩] := by
        rw [identified, if_neg (by simpa using measured), named]
      dsimp only at answered
      rw [stays, widths] at answered
      -- the row is complete in any case, whichever of its postings the batch has been given
      have ends : ∃ next, answer = .ok next ∧ left = middle ∧ after.nextId = between.nextId ∧
          next.indexed = batch.indexed + 1 ∧ (next.items = batch.items ∨
            next.items = batch.items ++ rowPostings width tenant row id) := by
        split at answered
        · cases answered
          exact ⟨_, rfl, rfl, rfl, rfl, .inl rfl⟩
        · obtain ⟨found, used, looked, -, -, counter, -⟩ :=
            wasWritten_keeps betweenSound ⟨tenant, Key.bucketStart row.time width, id⟩
          rw [looked] at answered
          cases found with
          | true =>
              cases answered
              exact ⟨_, rfl, rfl, counter, rfl, .inl rfl⟩
          | false =>
              cases answered
              exact ⟨_, rfl, rfl, counter, rfl, .inr rfl⟩
      obtain ⟨next, rfl, rfl, counter, indexed, items⟩ := ends
      have whole := completed next rfl
      obtain ⟨other, registered, posted⟩ := whole.indexed row (by simp) measured
      obtain rfl := afterSound.registry.once registered identifies.registered
      refine ⟨.ok other, _, after, left, ran, afterSound, extends_.width.trans widths,
        middleUnfailing, counter ▸ identifies, next, rfl, whole, given, indexed, fun item => ?_⟩
      rcases items with same | more
      · rw [same] at posted ⊢
        exact (or_iff_left_of_imp (posted item)).symm
      · rw [more, List.mem_append, or_assoc]

end Paths

/-! ## Side by side -/

/-- Indexes rows one after the other and gives the identifiers of their series. -/
def indexEach (tenant : Tenant) : List Row → State → Except StoreError (List UInt64) × State
  | [], state => (.ok [], state)
  | row :: rest, state =>
      match indexRow tenant row state with
      | (.error error, state) => (.error error, state)
      | (.ok id, state) =>
          match indexEach tenant rest state with
          | (.error error, state) => (.error error, state)
          | (.ok ids, state) => (.ok (id :: ids), state)

/-- The rows with a metric. -/
def measured (rows : List Row) : List Row := rows.filter fun row => !row.metric.isEmpty

section Measured

variable {row : Row}

theorem measured_of_unmeasured (unmeasured : row.metric = "") (rows : List Row) :
    measured (row :: rows) = measured rows := by
  simp [measured, unmeasured]

theorem measured_of_measured (named : row.metric ≠ "") (rows : List Row) :
    measured (row :: rows) = row :: measured rows := by
  simp [measured, named]

theorem mem_measured {rows : List Row} : row ∈ measured rows ↔ row ∈ rows ∧ row.metric ≠ "" := by
  simp [measured]

theorem length_measured_le (rows : List Row) : (measured rows).length ≤ rows.length :=
  List.length_filter_le _ rows

theorem addToBatch_of_unmeasured (unmeasured : row.metric = "") (tenant : Tenant) (batch : Batch)
    (state : State) : addToBatch tenant row batch state = (.ok batch, state) :=
  if_pos (by simpa using unmeasured)

end Measured

/-- The labels of one of the rows cannot be recorded. -/
def Refused (rows : List Row) (cause : StoreError) : Prop :=
  ∃ row ∈ measured rows, LabelRecord.encode row.canonicalLabels = .error cause

theorem Refused.mono {rows others : List Row} {cause : StoreError} (refused : Refused rows cause)
    (among : rows ⊆ others) : Refused others cause := by
  obtain ⟨row, listed, refused⟩ := refused
  obtain ⟨inside, named⟩ := mem_measured.mp listed
  exact ⟨row, mem_measured.mpr ⟨among inside, named⟩, refused⟩

theorem refused_of_unmeasured {row : Row} (unmeasured : row.metric = "") (rows : List Row) :
    Refused (row :: rows) = Refused rows := by
  funext cause
  rw [Refused, Refused, measured_of_unmeasured unmeasured]

/-- Rows are not refused if the labels of all of them are small. -/
theorem not_refused {rows : List Row} {cause : StoreError}
    (small : ∀ row ∈ measured rows, LabelRecord.Small row.canonicalLabels) :
    ¬ Refused rows cause := by
  rintro ⟨row, listed, refused⟩
  obtain ⟨record, encoded⟩ :=
    (LabelRecord.exists_encode_iff (List.cons_ne_nil _ _)).mpr (small row listed)
  cases encoded.symm.trans refused

/-- A batch has come as far as the rows by themselves: what is in its table or still in the batch is
in their table. -/
structure Level (width : UInt64) (tenant : Tenant) (done : List Row) (batch : Batch)
    (batched single : State) : Prop where
  sound : batched.1.Sound batched.2.table
  singleSound : single.1.Sound single.2.table
  unfailing : batched.2.Unfailing
  singleUnfailing : single.2.Unfailing
  bucketWidth : batched.1.bucketWidth = width
  singleWidth : single.1.bucketWidth = width
  counter : single.1.nextId = batched.1.nextId
  completes : Completes batched.2.table width tenant done batch.items batch.fresh
  items : ∀ item, item ∈ single.2.table.items ↔
    item ∈ batched.2.table.items ∨ item ∈ batch.items

namespace Level

variable {width : UInt64} {tenant : Tenant} {row : Row} {rows done : List Row} {batch : Batch}
  {batched single : State}

/-- A row without a metric takes neither on. -/
theorem skip (level : Level width tenant done batch batched single) (unmeasured : row.metric = "") :
    Level width tenant (done ++ [row]) batch batched single :=
  { level with completes := level.completes.skip fun measured => absurd unmeasured measured }

/-- The two tables register the same series. -/
theorem registers_iff (level : Level width tenant done batch batched single) {owner : Tenant}
    {labels : List Label} {id : UInt64} :
    single.2.table.Registers owner labels id ↔ batched.2.table.Registers owner labels id :=
  level.completes.owes.registers_iff level.items

/-- With nothing left in the batch, the tables are the same. -/
theorem table_eq (level : Level width tenant done ⟨0, [], []⟩ batched single) :
    batched.2.table = single.2.table :=
  Table.eq_of_mem_iff fun item => by simp [level.items]

/-- Both have the same next identifier after a row, also if the counter wraps. -/
theorem counter_after (level : Level width tenant done batch batched single)
    (measured : row.metric ≠ "") :
    (indexRow tenant row single).2.1.nextId = (addToBatch tenant row batch batched).2.1.nextId := by
  obtain ⟨id, between, middle, identified, -, first⟩ :=
    identify_identifies level.sound level.unfailing tenant row.canonicalLabels
  obtain ⟨own, last, ended, named, -, second⟩ :=
    identify_identifies level.singleSound level.singleUnfailing tenant row.canonicalLabels
  rw [level.counter] at second
  rw [indexRow_nextId measured, addToBatch_nextId measured, named, identified]
  exact (first.agree level.sound.registry level.completes.owes level.items second).2.1

/-- A row takes both on, to the same identifier, or both refuse it since its labels cannot be
recorded. -/
theorem step (level : Level width tenant done batch batched single) (measured : row.metric ≠ "")
    (steady : batched.1.nextId ≤ (addToBatch tenant row batch batched).2.1.nextId) :
    (∃ cause after later, addToBatch tenant row batch batched = (.error cause, after) ∧
      indexRow tenant row single = (.error cause, later) ∧
      LabelRecord.encode row.canonicalLabels = .error cause ∧
      Level width tenant done batch after later) ∨
    ∃ id next after later, addToBatch tenant row batch batched = (.ok next, after) ∧
      indexRow tenant row single = (.ok id, later) ∧
      identified tenant row batched = [⟨tenant, row.canonicalLabels, id⟩] ∧
      next.indexed = batch.indexed + 1 ∧
      Level width tenant (done ++ [row]) next after later := by
  have forward : single.1.nextId ≤ (indexRow tenant row single).2.1.nextId := by
    rw [level.counter_after measured, level.counter]
    exact steady
  obtain ⟨writer, store⟩ := batched
  obtain ⟨other, otherStore⟩ := single
  have owes := level.completes.owes
  obtain ⟨given, answer, after, left, added, afterSound, widths, leftUnfailing, first, answers⟩ :=
    addToBatch_calm level.sound level.unfailing level.bucketWidth level.completes measured steady
  obtain ⟨own, last, ended, table, ran, lastSound, lastWidth, endedUnfailing, second, posted⟩ :=
    indexRow_calm level.singleSound level.singleUnfailing level.singleWidth measured forward
  rw [level.counter] at second
  obtain ⟨rfl, counter, same⟩ := first.agree level.sound.registry owes level.items second
  cases own with
  | error cause =>
      obtain rfl : answer = .error cause := answers
      have unposted : ended.table = table := posted
      obtain ⟨refused, unchanged⟩ := first.of_error
      refine .inl ⟨cause, (after, left), (last, ended), added, ran, refused, afterSound, lastSound,
        leftUnfailing, endedUnfailing, widths, lastWidth, counter, ?_, ?_⟩
      · exact level.completes.mono fun item held => unchanged ▸ held
      · intro item
        rw [unposted, same]
  | ok id =>
      obtain ⟨next, rfl, completes, given, indexed, items⟩ := answers
      refine .inr ⟨id, next, (after, left), (last, ended), added, ran, given, indexed, afterSound,
        lastSound, leftUnfailing, endedUnfailing, widths, lastWidth, counter, completes, ?_⟩
      intro item
      rw [posted item, same, items]

/-- Rows take both on, or both refuse the first of them whose labels cannot be recorded. -/
theorem run (level : Level width tenant done batch batched single)
    (steady : Unwrapped tenant rows batch batched) :
    (∃ cause after later, addAllToBatch tenant rows batch batched = (.error cause, after) ∧
      indexEach tenant (Writer.measured rows) single = (.error cause, later) ∧
      Refused rows cause ∧ ∃ done batch, Level width tenant done batch after later) ∨
    ∃ ids last after later, addAllToBatch tenant rows batch batched = (.ok last, after) ∧
      indexEach tenant (Writer.measured rows) single = (.ok ids, later) ∧
      ids.length = (Writer.measured rows).length ∧
      identifiedAll tenant rows batch batched = List.zipWith (Registration.mk tenant)
        ((Writer.measured rows).map Row.canonicalLabels) ids ∧
      last.indexed = batch.indexed + (Writer.measured rows).length ∧
      Level width tenant (done ++ rows) last after later := by
  induction rows generalizing batch batched single done with
  | nil =>
      refine .inr ⟨[], batch, batched, single, rfl, rfl, rfl, rfl, rfl, ?_⟩
      rwa [List.append_nil]
  | cons row rest ih =>
      obtain ⟨here, later⟩ := steady
      by_cases named : row.metric = ""
      · have passed := addToBatch_of_unmeasured named tenant batch batched
        have kept := measured_of_unmeasured named rest
        rw [passed] at later
        rw [addAllToBatch, identifiedAll, passed, identified_of_unmeasured named, kept,
          refused_of_unmeasured named]
        have again := ih (level.skip named) later
        rwa [List.append_assoc] at again
      · have kept := measured_of_measured named rest
        rw [addAllToBatch, kept, indexEach]
        rcases level.step named here with ⟨cause, after, ended, added, ran, refused, still⟩ |
          ⟨id, next, after, afterward, added, ran, given, indexed, still⟩
        · have listed : row ∈ measured (row :: rest) := mem_measured.mpr ⟨.head _, named⟩
          rw [added, ran]
          exact .inl ⟨cause, after, ended, rfl, rfl, ⟨row, listed, refused⟩, done, batch, still⟩
        · rw [added] at later
          rw [added, ran]
          rcases ih still later with ⟨cause, last, ended, allAdded, allRan, refused, final⟩ |
            ⟨ids, last, ended, finished, allAdded, allRan, lengths, registrations, count, final⟩
          · dsimp only
            rw [allRan]
            exact .inl ⟨cause, last, ended, allAdded, rfl,
              refused.mono (List.subset_cons_self _ _), final⟩
          · rw [List.append_assoc] at final
            dsimp only
            rw [allRan]
            refine .inr ⟨id :: ids, last, ended, finished, allAdded, rfl, ?_, ?_, ?_, final⟩
            · rw [List.length_cons, List.length_cons, lengths]
            · rw [identifiedAll, given, added]
              dsimp only
              rw [registrations]
              rfl
            · rw [count, indexed, List.length_cons]
              omega

/-- A whole batch takes both on, or both refuse a row of it. -/
theorem indexRows (level : Level width tenant [] ⟨0, [], []⟩ batched single)
    (steady : Unwrapped tenant rows ⟨0, [], []⟩ batched) (order : KeyOrder) :
    (∃ cause ended later, Writer.indexRows tenant rows batched order = (.error cause, ended) ∧
      indexEach tenant (Writer.measured rows) single = (.error cause, later) ∧
      Refused rows cause ∧ ∃ done batch, Level width tenant done batch ended later) ∨
    ∃ ids ended later,
      Writer.indexRows tenant rows batched order = (.ok (Writer.measured rows).length, ended) ∧
      indexEach tenant (Writer.measured rows) single = (.ok ids, later) ∧
      (∀ row ∈ Writer.measured rows, LabelRecord.Small row.canonicalLabels) ∧
      ids.length = (Writer.measured rows).length ∧
      identifiedAll tenant rows ⟨0, [], []⟩ batched = List.zipWith (Registration.mk tenant)
        ((Writer.measured rows).map Row.canonicalLabels) ids ∧
      Level width tenant [] ⟨0, [], []⟩ ended later := by
  rw [Writer.indexRows]
  rcases level.run steady with ⟨cause, after, later, added, ran, refused, final⟩ |
    ⟨ids, last, ⟨after, left⟩, later, added, ran, lengths, registrations, count, final⟩
  · rw [added]
    exact .inl ⟨cause, after, later, rfl, ran, refused, final⟩
  · obtain ⟨written, wrote, unfailing, table⟩ := final.unfailing.add last.items
    have widths : after.bucketWidth = width := final.bucketWidth
    have completes : Completes left.table after.bucketWidth tenant rows last.items last.fresh :=
      widths ▸ final.completes
    have indexing : Indexing tenant rows (after, left)
        (after.remember (order.arrange last.fresh), written) :=
      completes.indexing (fun _ => (order.perm _).mem_iff.mp) final.sound (extends_of_table rfl rfl)
        table
    rw [added]
    dsimp only
    rw [wrote, count, Nat.zero_add]
    refine .inr ⟨ids, _, later, rfl, ran, ?_, lengths, registrations, indexing.sound,
      final.singleSound, unfailing, final.singleUnfailing, widths, final.singleWidth,
      final.counter, Completes.nothing _ _ _, fun item => ?_⟩
    · intro row listed
      obtain ⟨inside, named⟩ := mem_measured.mp listed
      obtain ⟨id, registered, -⟩ := final.completes.indexed row inside named
      exact final.sound.registry.small registered
    · rw [table, Table.mem_insertAll, final.items, or_comm]
      simp

end Level

/-! ## In a course -/

section Courses

variable {steps : List Step} {state : State} {writer batching single : Writer} {tenant : Tenant}
  {rows : List Row}

/-- The writer goes on like the one of a course, with recent maps of any size that hold any of the
series that have been identified and any of the postings that are there. -/
structure GoesOn (steps : List Step) (state : State) (writer : Writer) : Prop where
  nextId : writer.nextId = state.1.nextId
  bucketWidth : writer.bucketWidth = state.1.bucketWidth
  known : ∀ {tenant labels id}, (seriesKey tenant labels, id) ∈ writer.known.entries →
    ⟨tenant, labels, id⟩ ∈ registrations steps
  recent : ∀ {key}, (key, ()) ∈ writer.recent.entries → ∃ labels,
    ⟨key.tenant, labels, key.id⟩ ∈ registrations steps ∧
      ∀ item ∈ postings labels key, item ∈ state.2.table.items

/-- The writer of a course goes on like itself. -/
theorem Course.goesOn (course : Course steps state) : GoesOn steps state state.1 := by
  refine ⟨rfl, rfl, fun held => course.registers_iff.mp (course.sound.known held), fun held => ?_⟩
  obtain ⟨labels, registered, posted⟩ := course.sound.recent held
  exact ⟨labels, course.registers_iff.mp registered, posted⟩

theorem Course.sound_of_goesOn (course : Course steps state) (goesOn : GoesOn steps state writer) :
    writer.Sound state.2.table := by
  refine ⟨course.sound.registry, fun held => course.registers_iff.mpr (goesOn.known held),
    fun registered => goesOn.nextId ▸ course.sound.ahead registered, fun held => ?_⟩
  obtain ⟨labels, registered, posted⟩ := goesOn.recent held
  exact ⟨labels, course.registers_iff.mpr registered, posted⟩

/-- Where the medium does not fail and no counter wraps, indexing rows in a batch and one by one
comes to the same, whatever of the course the writers of the two remember, and in whatever order the
batch is remembered. The same series are registered under the same identifiers. Storage fails
neither way exactly if the labels of all rows with a metric are small enough to be recorded; then
the batch counts those rows, gives them the identifiers that they are given one by one, and leaves
the same table. Else it fails both ways, with the error of labels that are refused, and postings may
be there one by one that the batch has not come to write. -/
theorem indexRows_eq_indexEach (course : Course steps state) (unfailing : state.2.Unfailing)
    (first : GoesOn steps state batching) (second : GoesOn steps state single)
    (steady : Unwrapped tenant rows ⟨0, [], []⟩ (batching, state.2)) (order : KeyOrder) :
    ∃ given batched singled,
      indexRows tenant rows (batching, state.2) order =
        (given.map fun _ => (measured rows).length, batched) ∧
      indexEach tenant (measured rows) (single, state.2) = (given, singled) ∧
      batched.1.nextId = singled.1.nextId ∧
      (∀ owner labels id, batched.2.table.Registers owner labels id ↔
        singled.2.table.Registers owner labels id) ∧
      ((∃ ids, given = .ok ids) ↔ ∀ row ∈ measured rows, LabelRecord.Small row.canonicalLabels) ∧
      (∀ ids, given = .ok ids → ids.length = (measured rows).length ∧
        identifiedAll tenant rows ⟨0, [], []⟩ (batching, state.2) = List.zipWith
          (Registration.mk tenant) ((measured rows).map Row.canonicalLabels) ids ∧
        batched.2.table = singled.2.table) ∧
      ∀ cause, given = .error cause →
        Refused rows cause ∧ ∃ items, batched.2.table.Owes items ∧ ∀ item,
          item ∈ singled.2.table.items ↔ item ∈ batched.2.table.items ∨ item ∈ items := by
  have level : Level state.1.bucketWidth tenant [] ⟨0, [], []⟩ (batching, state.2)
      (single, state.2) :=
    ⟨course.sound_of_goesOn first, course.sound_of_goesOn second, unfailing, unfailing,
      first.bucketWidth, second.bucketWidth, second.nextId.trans first.nextId.symm,
      Completes.nothing _ _ _, fun item => by simp⟩
  rcases level.indexRows steady order with
    ⟨cause, batched, singled, together, each, refused, final⟩ |
    ⟨ids, batched, singled, together, each, small, lengths, registrations, final⟩
  · obtain ⟨done, batch, final⟩ := final
    refine ⟨.error cause, batched, singled, together, each, final.counter.symm,
      fun _ _ _ => final.registers_iff.symm, ?_, nofun, ?_⟩
    · exact ⟨nofun, fun small => absurd refused (not_refused small)⟩
    · rintro _ ⟨⟩
      exact ⟨refused, batch.items, final.completes.owes, final.items⟩
  · refine ⟨.ok ids, batched, singled, together, each, final.counter.symm,
      fun _ _ _ => final.registers_iff.symm, ⟨fun _ => small, fun _ => ⟨ids, rfl⟩⟩, ?_, nofun⟩
    rintro _ ⟨⟩
    exact ⟨lengths, registrations, final.table_eq⟩

/-- The new writer of the sample indexes rows of an old and of a new series in a batch, and a writer
that remembers nothing indexes them one by one. -/
theorem indexRows_eq_indexEach_sample :
    Course sampleSteps sampleTaken ∧ sampleTaken.2.Unfailing ∧
      ∃ batched ids singled,
        indexRows ⟨0, 0⟩ (⟨"n", [], 5, "1"⟩ :: sampleRows) sampleTaken = (.ok 3, batched) ∧
        indexEach ⟨0, 0⟩ (measured (⟨"n", [], 5, "1"⟩ :: sampleRows))
          (starting 7 3600000 0, sampleTaken.2) = (.ok ids, singled) ∧
        batched.2.table = singled.2.table := by
  have unfailing : sampleTaken.2.Unfailing := by
    have medium : sampleTaken.2.medium = sampleStore.medium := by with_unfolding_all rfl
    have writes : 2 ≤ sampleTaken.2.writes := by decide +kernel
    constructor
    · intro index _
      rw [medium]
      rfl
    · intro index later
      rw [medium]
      exact if_neg (by omega)
  have fresh : GoesOn sampleSteps sampleTaken (starting 7 3600000 0) :=
    ⟨rfl, rfl, fun held => absurd held List.not_mem_nil, fun held => absurd held List.not_mem_nil⟩
  have steady : Unwrapped ⟨0, 0⟩ (⟨"n", [], 5, "1"⟩ :: sampleRows) ⟨0, [], []⟩ sampleTaken := by
    decide +kernel
  have lengths : ∀ row ∈ measured (⟨"n", [], 5, "1"⟩ :: sampleRows),
      (Values.joined (LabelRecord.parts row.canonicalLabels)).length < 2 ^ 32 := by
    decide +kernel
  obtain ⟨given, batched, singled, together, each, -, -, recorded, answers, -⟩ :=
    indexRows_eq_indexEach sampleSteps_course unfailing sampleSteps_course.goesOn fresh steady
      .asSeen
  obtain ⟨ids, rfl⟩ :=
    recorded.mpr fun row listed => LabelRecord.small_of_length (lengths row listed)
  obtain ⟨-, -, tables⟩ := answers ids rfl
  exact ⟨sampleSteps_course, unfailing, batched, ids, singled, together, each, tables⟩

end Courses

end Writer

end SeriesIndex
