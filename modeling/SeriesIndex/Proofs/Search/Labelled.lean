import SeriesIndex.Proofs.LabelRecord
import SeriesIndex.Proofs.Search.Indexed
import SeriesIndex.Proofs.Writer.Course

/-!
# Labels of what is found

Writers put the series key, the label record and the postings of a series into a table at different
times, and any of the writes may fail. Still every posting is of a series that has been registered
and has its label; its record gives back the labels it was registered with, and by these it is
looked up under the same identifier. So nothing without labels is ever found.
-/

namespace SeriesIndex

/-! ## Reading labels -/

section Reading

variable {store : Store} {tenant : Tenant} {id : UInt64}

/-- The labels of a series are read back, and nothing is read where no series is, unless the read
fails. -/
theorem Store.seriesLabels_cases (registry : store.table.Registry)
    (fits : ∀ labels, store.table.Registers tenant labels id → LabelRecord.Fits labels) :
    (∃ error, store.medium.read store.reads = some error ∧
      (store.seriesLabels tenant id).1 = .error error) ∨
    (∃ labels, store.table.Registers tenant labels id ∧
      (store.seriesLabels tenant id).1 = .ok (some labels)) ∨
    (∀ labels, ¬ store.table.Registers tenant labels id) ∧
      (store.seriesLabels tenant id).1 = .ok none := by
  rw [seriesLabels]
  cases read : store.medium.read store.reads with
  | some error =>
      rw [firstWithPrefix_of_fault read]
      exact .inl ⟨error, rfl, rfl⟩
  | none =>
      rw [firstWithPrefix_of_read read]
      obtain ⟨labels, record, registered, encoded, found⟩ | ⟨absent, found⟩ :=
        registry.first?_labels tenant id
      · have decoded := LabelRecord.decode_encode encoded (fits labels registered)
        refine .inr (.inl ⟨labels, registered, ?_⟩)
        rw [found]
        dsimp only
        rw [List.drop_left, decoded]
        rfl
      · refine .inr (.inr ⟨absent, ?_⟩)
        rw [found]

end Reading

/-! ## Labels that series are registered with -/

namespace Writer

section Canonical

variable {steps : List Step} {state : State} {tenant : Tenant} {rows : List Row} {batch : Batch}
  {registration : Registration}

theorem canonical_of_identified {row : Row} (given : registration ∈ identified tenant row state) :
    Label.Canonical registration.labels := by
  obtain ⟨owner, labels, id⟩ := registration
  by_cases measured : row.metric = ""
  · rw [identified_of_unmeasured measured] at given
    exact absurd given List.not_mem_nil
  · obtain ⟨-, -, rfl⟩ := (mem_identified measured).mp given
    exact Row.canonicalLabels_canonical measured

theorem canonical_of_identifiedAll (given : registration ∈ identifiedAll tenant rows batch state) :
    Label.Canonical registration.labels := by
  induction rows generalizing batch state with
  | nil => exact absurd given List.not_mem_nil
  | cons row rest ih =>
      rw [identifiedAll] at given
      rcases List.mem_append.mp given with here | later
      · exact canonical_of_identified here
      · split at later
        · exact absurd later List.not_mem_nil
        · exact ih later

/-- Series are registered with canonical labels. -/
theorem canonical_of_registration (given : registration ∈ registrations steps) :
    Label.Canonical registration.labels := by
  obtain ⟨⟨call, before⟩, -, given⟩ := List.mem_flatMap.mp given
  cases call with
  | indexRow owner row => exact canonical_of_identified given
  | indexRows owner rows order => exact canonical_of_identifiedAll given
  | seriesId owner labels => exact absurd given List.not_mem_nil
  | restart firstId bucketWidth capacity => exact absurd given List.not_mem_nil

end Canonical

end Writer

/-! ## What is found -/

namespace Search

/-- Whatever is found occurs in a posting of the tenant. -/
theorem posted_of_query {σ : Type} [CostStore σ] {search : Search} {set : FilterSet}
    {window : Window} {asked : State σ} {found : IdentifierSet} {id : UInt64} (built : set.Built)
    (registry : asked.scans.store.table.Registry)
    (answered : (search.query set window asked).1 = .ok found) (inside : id ∈ found) :
    id ∈ asked.scans.store.table.posted set.tenant := by
  have postings : ∀ filter ∈ set.filters, filter.ReadsPostings asked.scans.store.table :=
    fun filter _ => registry.readsPostings filter
  cases valid : set.validate with
  | error error =>
      rw [query, valid] at answered
      cases answered
  | ok done =>
      by_cases ordered : window.first ≤ window.last
      · obtain ⟨seed, own, -, -, settles⟩ :=
          query_built search window asked built valid postings ordered
        obtain ⟨other, same, members⟩ | ⟨⟨error, failed⟩, -⟩ := settles
        · rw [answered] at same
          cases same
          have made := built.made seed own
          obtain ⟨content, bucket, ids, held, listed, -⟩ := matches_of_collected search window
            (postings seed own) made.sound ((members id).mp inside).1
          exact ⟨_, content, bucket, ids, made.tenant_eq ▸ held, listed⟩
        · rw [failed] at answered
          cases answered
      · rw [query, valid] at answered
        dsimp only at answered
        split at answered
        · cases answered
        · cases answered
        · rw [if_pos (UInt64.not_le.mp ordered)] at answered
          cases answered
          exact absurd inside (IdentifierSet.not_mem_empty id)

end Search

namespace Writer

open Search (Window)

section Courses

variable {steps : List Step} {state : State} {tenant : Tenant} {id : UInt64}

/-- A posting is of a series of its tenant that has been registered and has its label. -/
theorem Course.of_posting (course : Course steps state) {label content : Bytes} {bucket : UInt64}
    {ids : List UInt64}
    (held : Key.posting tenant label content bucket ids ∈ state.2.table.items) (inside : id ∈ ids) :
    ∃ labels, ⟨tenant, labels, id⟩ ∈ registrations steps ∧ ∃ own ∈ labels,
      label = Bytes.ofText own.name ∧ content = Bytes.ofText own.value := by
  obtain ⟨labels, registered, own⟩ := course.sound.registry.of_posting held inside
  exact ⟨labels, course.registers_iff.mp registered, own⟩

/-- Reading the labels of an identifier gives those that it was registered with, unless the read
fails. -/
theorem Course.seriesLabels_reads (course : Course steps state)
    (fits : ∀ registration ∈ registrations steps, LabelRecord.Fits registration.labels)
    (tenant : Tenant) (id : UInt64) :
    match (state.2.seriesLabels tenant id).1 with
    | .ok found => ∀ labels, found = some labels ↔ ⟨tenant, labels, id⟩ ∈ registrations steps
    | .error error => state.2.medium.read state.2.reads = some error := by
  have registry := course.sound.registry
  obtain ⟨error, failed, same⟩ | ⟨labels, registered, same⟩ | ⟨absent, same⟩ :=
    Store.seriesLabels_cases registry fun labels registered =>
      fits _ (course.registers_iff.mp registered)
  · rw [same]
    exact failed
  · rw [same]
    intro others
    rw [← course.registers_iff]
    constructor
    · rintro ⟨⟩
      exact registered
    · intro other
      rw [(registry.apart registered other).2]
  · rw [same]
    intro labels
    rw [← course.registers_iff]
    exact ⟨nofun, fun registered => absurd registered (absent labels)⟩

/-- At every point of a course, whichever reads and writes have failed: a posting tells of an
identifier that a series of its tenant has been registered under, with the label among its canonical
labels; a label record is there of each registered series; reading the labels of an identifier
gives exactly those that it was registered with, and none if it was not registered; by these labels
the series is looked up under the same identifier, unless the read fails. So every identifier that a
search finds has labels. -/
theorem course_labels (course : Course steps state)
    (fits : ∀ registration ∈ registrations steps, LabelRecord.Fits registration.labels) :
    (∀ tenant label content bucket ids,
      Key.posting tenant label content bucket ids ∈ state.2.table.items → ∀ id ∈ ids,
        ∃ labels, ⟨tenant, labels, id⟩ ∈ registrations steps ∧ ∃ own ∈ labels,
          label = Bytes.ofText own.name ∧ content = Bytes.ofText own.value) ∧
    (∀ tenant labels id, ⟨tenant, labels, id⟩ ∈ registrations steps →
      Label.Canonical labels ∧
      (∃ record, LabelRecord.encode labels = .ok record ∧
        Key.labels tenant id ++ record ∈ state.2.table.items) ∧
      match (seriesId tenant labels state).1 with
      | .ok found => found = some id
      | .error error => state.2.medium.read state.2.reads = some error) ∧
    (∀ tenant id,
      match (state.2.seriesLabels tenant id).1 with
      | .ok found => ∀ labels, found = some labels ↔ ⟨tenant, labels, id⟩ ∈ registrations steps
      | .error error => state.2.medium.read state.2.reads = some error) ∧
    ∀ (σ : Type) [CostStore σ] (search : Search) (set : FilterSet) (window : Window)
      (asked : Search.State σ), set.Built → asked.scans.store.table = state.2.table →
      ∀ found, (search.query set window asked).1 = .ok found → ∀ id ∈ found,
        ∃ labels, ⟨set.tenant, labels, id⟩ ∈ registrations steps := by
  have registry := course.sound.registry
  refine ⟨?_, ?_, course.seriesLabels_reads fits, ?_⟩
  · intro tenant label content bucket ids held id inside
    exact course.of_posting held inside
  · intro tenant labels id given
    refine ⟨canonical_of_registration given,
      registry.recorded (course.registers_iff.mpr given), ?_⟩
    have finds := course.seriesId_finds tenant labels
    split
    · next found looked =>
        rw [looked] at finds
        exact (finds id).mpr given
    · next error failed =>
        rw [failed] at finds
        exact finds
  · intro σ _ search set window asked built same found answered id inside
    obtain ⟨label, content, bucket, ids, held, listed⟩ :=
      Search.posted_of_query built (same ▸ registry) answered inside
    obtain ⟨labels, given, -⟩ := course.of_posting (same ▸ held) listed
    exact ⟨labels, given⟩

end Courses

/-! ## A sample -/

/-- The labels of the first row are read back by the identifier that the row was given when its
postings could not be written; the identifier that comes next has no labels yet. -/
theorem course_labels_sample :
    Course sampleSteps sampleTaken ∧
      (sampleTaken.2.seriesLabels ⟨0, 0⟩ 1).1 = .ok (some sampleRow.canonicalLabels) ∧
      (sampleTaken.2.seriesLabels ⟨0, 0⟩ 7).1 = .ok none := by
  have short : ∀ registration ∈ registrations sampleSteps,
      (Values.joined (LabelRecord.parts registration.labels)).length < 2 ^ 32 := by
    decide +kernel
  have fits : ∀ registration ∈ registrations sampleSteps, LabelRecord.Fits registration.labels :=
    fun registration given => LabelRecord.fits_of_length (short registration given)
  obtain ⟨-, -, labels, -⟩ := course_labels sampleSteps_course fits
  have readable : sampleTaken.2.medium.read sampleTaken.2.reads = none := by
    decide +kernel
  have reads : ∀ id, ∃ found, (sampleTaken.2.seriesLabels ⟨0, 0⟩ id).1 = .ok found ∧
      ∀ others, found = some others ↔ ⟨⟨0, 0⟩, others, id⟩ ∈ registrations sampleSteps := by
    intro id
    have outcome := labels ⟨0, 0⟩ id
    split at outcome
    · next found answer => exact ⟨found, answer, outcome⟩
    · rw [readable] at outcome
      cases outcome
  refine ⟨sampleSteps_course, ?_, ?_⟩
  · have given : ⟨⟨0, 0⟩, sampleRow.canonicalLabels, 1⟩ ∈ registrations sampleSteps := by
      decide +kernel
    obtain ⟨found, answer, members⟩ := reads 1
    rw [answer, (members sampleRow.canonicalLabels).mpr given]
  · have unused : ∀ registration ∈ registrations sampleSteps, registration.id ≠ 7 := by
      decide +kernel
    obtain ⟨found, answer, members⟩ := reads 7
    rw [answer]
    cases found with
    | none => rfl
    | some others => exact absurd rfl (unused _ ((members others).mp rfl))

end Writer

end SeriesIndex
