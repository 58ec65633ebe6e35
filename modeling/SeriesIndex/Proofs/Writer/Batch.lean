import SeriesIndex.Proofs.Writer.Postings

/-!
# Indexing batches

A batch registers the series of its rows one by one and collects their postings, without those
that were written lately or are in the batch already. What it holds completes its rows at every
point, so a single write at its end indexes them all.
-/

namespace SeriesIndex.Writer

variable {writer : Writer} {store : Store} {tenant : Tenant} {row : Row} {rows : List Row}
  {batch : Batch}

/-- The counter of identifiers does not wrap while rows are added to a batch. -/
def Unwrapped (tenant : Tenant) : List Row → Batch → State → Prop
  | [], _, _ => True
  | row :: rest, batch, state =>
      state.1.nextId ≤ (addToBatch tenant row batch state).2.1.nextId ∧
        match addToBatch tenant row batch state with
        | (.error _, _) => True
        | (.ok batch, state) => Unwrapped tenant rest batch state

instance Unwrapped.decidable (tenant : Tenant) (rows : List Row) (batch : Batch)
    (state : State) : Decidable (Unwrapped tenant rows batch state) :=
  match rows with
  | [] => .isTrue trivial
  | row :: rest =>
      match added : addToBatch tenant row batch state with
      | (.error _, after) =>
          decidable_of_iff (state.1.nextId ≤ after.1.nextId) (by simp [Unwrapped, added])
      | (.ok next, after) =>
          have := Unwrapped.decidable tenant rest next after
          decidable_of_iff
            (state.1.nextId ≤ after.1.nextId ∧ Unwrapped tenant rest next after)
            (by simp [Unwrapped, added])

theorem addToBatch_nextId (measured : row.metric ≠ "") (batch : Batch) (state : State) :
    (addToBatch tenant row batch state).2.1.nextId =
      (identify tenant row.canonicalLabels state).2.1.nextId := by
  unfold addToBatch
  rw [if_neg (by simpa using measured)]
  split
  · next identified => rw [identified]
  · next id writer store identified =>
      rw [identified]
      dsimp only [wasWritten]
      split
      · rfl
      · split
        all_goals
          next used =>
            have counter := congrArg nextId (Prod.mk.inj used).2.symm
            exact counter

/-- A batch with one more row still holds what completes its rows. -/
theorem addToBatch_keeps {width : UInt64} (sound : writer.Sound store.table)
    (widths : writer.bucketWidth = width)
    (completes : Completes store.table width tenant rows batch.items batch.fresh) (row : Row)
    (steady : writer.nextId ≤ (addToBatch tenant row batch (writer, store)).2.1.nextId) :
    ∃ answer after left, addToBatch tenant row batch (writer, store) = (answer, after, left) ∧
      after.Sound left.table ∧ Extends (writer, store) (after, left) ∧
      ∀ next, answer = .ok next →
        Completes left.table width tenant (rows ++ [row]) next.items next.fresh := by
  by_cases measured : row.metric = ""
  · rw [addToBatch, if_pos (by simpa using measured)]
    refine ⟨_, _, _, rfl, sound, extends_of_table rfl rfl, ?_⟩
    rintro _ ⟨⟩
    exact completes.skip fun measures => absurd measured measures
  rw [addToBatch_nextId measured] at steady
  rw [addToBatch, if_neg (by simpa using measured)]
  obtain ⟨given, between, middle, identified, betweenSound, first, gives⟩ :=
    identify_keeps sound tenant row.canonicalLabels steady
  rw [identified]
  cases given with
  | error error => exact ⟨_, _, _, rfl, betweenSound, first, nofun⟩
  | ok id =>
      have registered := gives id rfl
      have same : between.bucketWidth = width := first.width.trans widths
      have grown := completes.mono first.kept
      dsimp only
      rw [same]
      split
      · next listed =>
          refine ⟨_, _, _, rfl, betweenSound, first, ?_⟩
          rintro _ ⟨⟩
          refine grown.skip fun _ => ⟨id, registered, fun item owed => .inr ?_⟩
          -- the key stands for the same series, since its identifier does
          obtain ⟨labels, otherRegistered, posted⟩ :=
            grown.posted _ (List.contains_iff_mem.mp listed)
          obtain ⟨-, shared⟩ := betweenSound.registry.apart registered otherRegistered
          exact posted item (shared ▸ owed)
      · obtain ⟨found, after, looked, afterSound, stays, -, posted⟩ :=
          wasWritten_keeps betweenSound ⟨tenant, Key.bucketStart row.time width, id⟩
        have second : Extends (writer, store) (after, middle) :=
          first.trans (extends_of_table stays rfl)
        rw [looked]
        cases found with
        | true =>
            refine ⟨_, _, _, rfl, afterSound, second, ?_⟩
            rintro _ ⟨⟩
            exact grown.skip fun _ =>
              ⟨id, registered, fun item owed => .inl (posted rfl _ registered item owed)⟩
        | false =>
            refine ⟨_, _, _, rfl, afterSound, second, ?_⟩
            rintro _ ⟨⟩
            exact grown.add measured registered

/-- Added one by one, the rows are completed by what the batch holds in the end. -/
theorem addAllToBatch_keeps {width : UInt64} {done : List Row} (sound : writer.Sound store.table)
    (widths : writer.bucketWidth = width)
    (completes : Completes store.table width tenant done batch.items batch.fresh)
    (steady : Unwrapped tenant rows batch (writer, store)) :
    ∃ answer after left, addAllToBatch tenant rows batch (writer, store) = (answer, after, left) ∧
      after.Sound left.table ∧ Extends (writer, store) (after, left) ∧
      ∀ last, answer = .ok last →
        Completes left.table width tenant (done ++ rows) last.items last.fresh := by
  induction rows generalizing batch writer store done with
  | nil =>
      refine ⟨_, _, _, rfl, sound, extends_of_table rfl rfl, ?_⟩
      rintro _ ⟨⟩
      rwa [List.append_nil]
  | cons row rest ih =>
      obtain ⟨here, later⟩ := steady
      obtain ⟨answer, between, middle, added, betweenSound, first, completed⟩ :=
        addToBatch_keeps sound widths completes row here
      rw [addAllToBatch, added]
      rw [added] at later
      cases answer with
      | error error => exact ⟨_, _, _, rfl, betweenSound, first, nofun⟩
      | ok next =>
          obtain ⟨answer, after, left, rests, afterSound, second, completes⟩ :=
            ih betweenSound (first.width.trans widths) (completed next rfl) later
          rw [List.append_assoc] at completes
          exact ⟨answer, after, left, rests, afterSound, first.trans second, completes⟩

/-- Indexing rows succeeds and leaves all of them indexed that have a metric, or fails and writes no
postings. -/
theorem indexRows_keeps (sound : writer.Sound store.table) (tenant : Tenant) (rows : List Row)
    (order : KeyOrder) (steady : Unwrapped tenant rows ⟨0, [], []⟩ (writer, store)) :
    ∃ answer after left, indexRows tenant rows (writer, store) order = (answer, after, left) ∧
      Indexing tenant (covered answer rows) (writer, store) (after, left) := by
  obtain ⟨answer, between, middle, collected, betweenSound, first, completed⟩ :=
    addAllToBatch_keeps sound rfl (Completes.nothing store.table writer.bucketWidth tenant) steady
  rw [indexRows, collected]
  cases answer with
  | error error => exact ⟨_, _, _, rfl, first.indexing betweenSound tenant⟩
  | ok batch =>
      have completes := completed batch rfl
      dsimp only
      obtain ⟨error, left, failed, same⟩ | ⟨left, written, table⟩ := middle.add_cases batch.items
      · rw [failed]
        have second : Extends (writer, store) (between, left) :=
          first.trans (extends_of_table rfl same)
        exact ⟨_, _, _, rfl, second.indexing (same ▸ betweenSound) tenant⟩
      · rw [written]
        exact ⟨_, _, _, rfl,
          completes.indexing (fun _ => (order.perm _).mem_iff.mp) betweenSound first table⟩

end SeriesIndex.Writer
