import SeriesIndex.Proofs.Table

/-!
# Walks of a cursor

While a cursor walks over a table, items may be added anywhere and reads of pages may fail. From one
seek to the next it still yields items in ascending order, each of which is in the table, and by the
time it ends it has yielded every item from its key on that was there at the seek. If nothing is
added it yields what is ahead of it in order, whatever the size of a page.
-/

namespace SeriesIndex

namespace Cursor

/-! ## One step -/

/-- What a step of a cursor does: it leads onto the first item of its page or of a page just read,
is kept from it by an error, or finds that nothing is left. -/
inductive Moves (cursor : Cursor) (table : Table) : Bool × Cursor → Prop where
  | onto {item : Bytes} {rest : List Bytes} (held : cursor.page = item :: rest) :
      Moves cursor table (true, { cursor with page := rest, current := item })
  | read {item : Bytes} {rest : List Bytes} (empty : cursor.page = [])
      (more : cursor.mayHaveMore = true) (page : cursor.pageOf table = item :: rest) :
      Moves cursor table
        (true, { cursor.fill (item :: rest) with page := rest, current := item })
  | blocked (error : StoreError) :
      Moves cursor table (false, { cursor with failure := some error })
  | ended (empty : cursor.page = []) (nothing : cursor.ahead table = []) :
      Moves cursor table (false, { cursor with mayHaveMore := false })

theorem moves_nextUnless {cursor : Cursor} (room : 0 < cursor.pageSize) (table : Table)
    (outage : Option StoreError) : Moves cursor table (cursor.nextUnless table outage) := by
  obtain ⟨pageSize, page, start, inclusive, mayHaveMore, current, failure⟩ := cursor
  cases failure with
  | some error => exact .blocked error
  | none =>
      cases page with
      | cons item rest => exact .onto rfl
      | nil =>
          cases mayHaveMore with
          | false => exact .ended rfl rfl
          | true =>
              cases outage with
              | some error => exact .blocked error
              | none =>
                  let cursor : Cursor := ⟨pageSize, [], start, inclusive, true, current, none⟩
                  change Moves cursor table (cursor.fill (cursor.pageOf table)).step
                  cases page : cursor.pageOf table with
                  | cons item rest => exact .read rfl rfl page
                  | nil =>
                      have nothing : cursor.ahead table = [] := pageOf_eq_nil room page
                      have short : ((0 : Nat) == pageSize) = false := by
                        simpa using (Nat.ne_of_gt room).symm
                      have filled : cursor.fill [] = { cursor with mayHaveMore := false } := by
                        simp [fill, cursor, short]
                      rw [filled]
                      exact .ended rfl nothing

/-! ## Walks -/

/-- What happens to a table and to the cursor that is open on it. -/
inductive Event where
  | add (items : List Bytes)
  | seek (key : Bytes)
  /-- The cursor steps. If it has to read a page for that, `outage` is the error of the read. -/
  | next (outage : Option StoreError)
  /-- The caller takes the error that stopped the cursor. -/
  | takeFailure

/-- A table and a cursor that is open on it, with what has happened since the last seek. -/
structure Walk where
  table : Table
  cursor : Cursor
  key : Bytes
  /-- The table at the last seek. -/
  sought : Table
  /-- The items met since then. -/
  yielded : List Bytes

namespace Walk

/-- A cursor that has just been opened; that counts as a seek of the empty key. -/
def opened (pageSize : Nat) (table : Table) : Walk := ⟨table, .fresh pageSize, [], table, []⟩

def after (walk : Walk) : Event → Walk
  | .add items => { walk with table := walk.table.insertAll items }
  | .seek key => ⟨walk.table, walk.cursor.seek key, key, walk.table, []⟩
  | .next outage =>
      match walk.cursor.nextUnless walk.table outage with
      | (true, cursor) =>
          { walk with cursor := cursor, yielded := walk.yielded ++ [cursor.current] }
      | (false, cursor) => { walk with cursor := cursor }
  | .takeFailure => { walk with cursor := walk.cursor.takeFailure.2 }

def run (walk : Walk) (events : List Event) : Walk := events.foldl after walk

/-- The next step leads onto an item. -/
def Yields (walk : Walk) (outage : Option StoreError) (item : Bytes) : Prop :=
  ∃ next, walk.cursor.nextUnless walk.table outage = (true, next) ∧ next.current = item

/-- The next step leads nowhere, and not because of an error. -/
def Ends (walk : Walk) (outage : Option StoreError) : Prop :=
  ∃ next, walk.cursor.nextUnless walk.table outage = (false, next) ∧ next.failure = none

/-! ## What holds at every point -/

/-- The cursor reads the item with its next page, if the item is in the table by then. -/
def Beyond (cursor : Cursor) (item : Bytes) : Prop :=
  ¬ item < cursor.start ∧ (cursor.inclusive = false → item ≠ cursor.start)

/-- What has been yielded and what the page holds lies before all that is still to be read, and no
item of the table at the seek is passed over. -/
structure Sound (walk : Walk) : Prop where
  room : 0 < walk.cursor.pageSize
  ascending : (walk.yielded ++ walk.cursor.page).Pairwise (· < ·)
  held : ∀ item ∈ walk.yielded ++ walk.cursor.page, item ∈ walk.table.items ∧ ¬ item < walk.key
  before : ∀ item ∈ walk.yielded ++ walk.cursor.page, ∀ other, Beyond walk.cursor other →
    item < other
  beyond : ∀ item, Beyond walk.cursor item → ¬ item < walk.key
  kept : ∀ item ∈ walk.sought.items, item ∈ walk.table.items
  complete : ∀ item ∈ walk.sought.items, ¬ item < walk.key →
    item ∈ walk.yielded ++ walk.cursor.ahead walk.table

variable {walk : Walk} {outage : Option StoreError} {events : List Event}

theorem sound_sought (cursor : Cursor) (room : 0 < cursor.pageSize) (table : Table) (key : Bytes) :
    Sound ⟨table, cursor.seek key, key, table, []⟩ := by
  constructor
  · exact room
  · exact .nil
  · exact fun _ impossible => absurd impossible List.not_mem_nil
  · exact fun _ impossible => absurd impossible List.not_mem_nil
  · exact fun _ ahead => ahead.1
  · exact fun _ inside => inside
  · exact fun item inside atLeast => Table.mem_itemsFrom.mpr ⟨inside, atLeast⟩

theorem sound_opened {pageSize : Nat} (room : 0 < pageSize) (table : Table) :
    (opened pageSize table).Sound := sound_sought (.fresh pageSize) room table []

/-- Added items change nothing about what was met, and may be met if they lie beyond. -/
theorem Sound.add (sound : walk.Sound) (items : List Bytes) :
    { walk with table := walk.table.insertAll items }.Sound := by
  have grown : ∀ item ∈ walk.table.items, item ∈ (walk.table.insertAll items).items :=
    fun item inside => Table.mem_insertAll.mpr (.inr inside)
  refine { sound with held := ?_, kept := ?_, complete := ?_ }
  · intro item met
    obtain ⟨inside, atLeast⟩ := sound.held item met
    exact ⟨grown item inside, atLeast⟩
  · exact fun item inside => grown item (sound.kept item inside)
  · intro item inside atLeast
    have met := sound.complete item inside atLeast
    simp only [ahead, List.mem_append] at met ⊢
    refine met.imp_right (Or.imp_right fun later => ?_)
    split at later
    · next more =>
        rw [if_pos more]
        obtain ⟨there, ahead⟩ := Table.mem_itemsFrom_iff.mp later
        exact Table.mem_itemsFrom_iff.mpr ⟨grown item there, ahead⟩
    · exact absurd later List.not_mem_nil

/-- Whether there is an error to take does not matter for what was met and what is ahead. -/
theorem Sound.withFailure (sound : walk.Sound) (failure : Option StoreError) :
    { walk with cursor := { walk.cursor with failure := failure } }.Sound := { sound with }

/-- Once a page is held, what is still to be read lies behind all of it. -/
theorem beyond_fill {cursor : Cursor} {page : List Bytes} (ascending : page.Pairwise (· < ·))
    (inside : ∀ item ∈ page, Beyond cursor item) {other : Bytes}
    (ahead : Beyond (cursor.fill page) other) :
    Beyond cursor other ∧ ∀ item ∈ page, item < other := by
  cases last : page.getLast? with
  | none =>
      cases List.getLast?_eq_none_iff.mp last
      exact ⟨ahead, fun _ impossible => absurd impossible List.not_mem_nil⟩
  | some final =>
      -- the cursor goes on strictly behind the last item of the page
      obtain ⟨initial, rfl⟩ := List.getLast?_eq_some_iff.mp last
      have finalBeyond := inside final (List.mem_append_right _ (.head _))
      have behind : final < other := by
        simp only [Beyond, Cursor.fill, last, Option.getD_some] at ahead
        exact Classical.byContradiction fun notLess =>
          ahead.2 (by simp) (Ascending.eq_of_not_less ahead.1 notLess)
      refine ⟨⟨?_, ?_⟩, ?_⟩
      · exact fun less => finalBeyond.1 (List.lt_trans behind less)
      · exact fun _ same => finalBeyond.1 (same ▸ behind)
      · intro item new
        rcases List.mem_append.mp new with earlier | isLast
        · have less := (List.pairwise_append.mp ascending).2.2 item earlier final (.head _)
          exact List.lt_trans less behind
        · exact List.mem_singleton.mp isLast ▸ behind

/-- Reading a page moves what it holds from what is still to be read. -/
theorem Sound.fill (sound : walk.Sound) (empty : walk.cursor.page = [])
    (more : walk.cursor.mayHaveMore = true) :
    { walk with cursor := walk.cursor.fill (walk.cursor.pageOf walk.table) }.Sound := by
  have whole := ahead_fill walk.cursor walk.table
  have inside : ∀ item ∈ walk.cursor.pageOf walk.table,
      item ∈ walk.table.items ∧ Beyond walk.cursor item := fun item new =>
    Table.mem_itemsFrom_iff.mp (List.mem_of_mem_take new)
  have ascending : (walk.cursor.pageOf walk.table).Pairwise (· < ·) :=
    (walk.table.itemsFrom_ascending _ _).sublist (List.take_sublist _ _)
  have yielded : ∀ item ∈ walk.yielded, item ∈ walk.yielded ++ walk.cursor.page := fun item met =>
    List.mem_append_left _ met
  have complete : ∀ item ∈ walk.sought.items, ¬ item < walk.key → item ∈ walk.yielded ++
      (walk.cursor.fill (walk.cursor.pageOf walk.table)).ahead walk.table := by
    intro item held atLeast
    have met := sound.complete item held atLeast
    rwa [ahead, empty, if_pos more, List.nil_append, ← whole] at met
  generalize walk.cursor.pageOf walk.table = page at inside ascending complete ⊢
  have next : ∀ other, Beyond (walk.cursor.fill page) other →
      Beyond walk.cursor other ∧ ∀ item ∈ page, item < other := fun _ ahead =>
    beyond_fill ascending (fun item new => (inside item new).2) ahead
  constructor
  · exact sound.room
  · apply List.pairwise_append.mpr
    refine ⟨(List.pairwise_append.mp sound.ascending).1, ascending, ?_⟩
    exact fun item met other new => sound.before item (yielded item met) other (inside other new).2
  · intro item met
    rcases List.mem_append.mp met with old | new
    · exact sound.held item (yielded item old)
    · exact ⟨(inside item new).1, sound.beyond item (inside item new).2⟩
  · intro item met other ahead
    rcases List.mem_append.mp met with old | new
    · exact sound.before item (yielded item old) other (next other ahead).1
    · exact (next other ahead).2 item new
  · exact fun item ahead => sound.beyond item (next item ahead).1
  · exact sound.kept
  · exact complete

/-- Stepping onto the first item of the page moves it to the items met. -/
theorem Sound.step (sound : walk.Sound) {item : Bytes} {rest : List Bytes}
    (held : walk.cursor.page = item :: rest) :
    { walk with
      cursor := { walk.cursor with page := rest, current := item }
      yielded := walk.yielded ++ [item] }.Sound := by
  have same : walk.yielded ++ walk.cursor.page = walk.yielded ++ [item] ++ rest := by
    rw [held, List.append_assoc, List.singleton_append]
  have whole : walk.yielded ++ walk.cursor.ahead walk.table =
      walk.yielded ++ [item] ++
        { walk.cursor with page := rest, current := item }.ahead walk.table := by
    simp [ahead, held]
  constructor
  · exact sound.room
  · exact same ▸ sound.ascending
  · exact same ▸ sound.held
  · exact same ▸ sound.before
  · exact sound.beyond
  · exact sound.kept
  · exact whole ▸ sound.complete

/-- A cursor that has come to the end changes no more. -/
theorem Sound.ended (sound : walk.Sound) (nothing : walk.cursor.ahead walk.table = []) :
    { walk with cursor := { walk.cursor with mayHaveMore := false } }.Sound := by
  refine { sound with complete := fun item inside atLeast => ?_ }
  have met := sound.complete item inside atLeast
  rw [nothing, List.append_nil] at met
  exact List.mem_append_left _ met

theorem Sound.next (sound : walk.Sound) (outage : Option StoreError) :
    (walk.after (.next outage)).Sound := by
  have moves := moves_nextUnless sound.room walk.table outage
  rw [after]
  generalize walk.cursor.nextUnless walk.table outage = outcome at moves ⊢
  cases moves with
  | onto held => exact sound.step held
  | read empty more page =>
      have filled := sound.fill empty more
      rw [page] at filled
      exact filled.step rfl
  | blocked error => exact sound.withFailure (some error)
  | ended empty nothing => exact sound.ended nothing

/-- Whatever happens keeps the walk sound. -/
theorem Sound.after (sound : walk.Sound) (event : Event) : (walk.after event).Sound := by
  cases event with
  | add items => exact sound.add items
  | seek key => exact sound_sought walk.cursor sound.room walk.table key
  | next outage => exact sound.next outage
  | takeFailure => exact sound.withFailure none

theorem Sound.run (sound : walk.Sound) (events : List Event) : (walk.run events).Sound := by
  induction events generalizing walk with
  | nil => exact sound
  | cons event rest ih => exact ih (sound.after event)

/-! ## The end of a walk -/

/-- The cursor has met all that it will meet. -/
structure Spent (walk : Walk) : Prop where
  page : walk.cursor.page = []
  last : walk.cursor.mayHaveMore = false
  working : walk.cursor.failure = none

theorem Spent.ends (spent : walk.Spent) (outage : Option StoreError) : walk.Ends outage := by
  refine ⟨walk.cursor, ?_, spent.working⟩
  simp [nextUnless, spent.page, spent.last, spent.working]

theorem Spent.after (spent : walk.Spent) {event : Event} (going : ∀ key, event ≠ .seek key) :
    (walk.after event).Spent ∧ (walk.after event).yielded = walk.yielded := by
  cases event with
  | add items => exact ⟨⟨spent.page, spent.last, spent.working⟩, rfl⟩
  | seek key => exact absurd rfl (going key)
  | next outage =>
      have stays : walk.after (.next outage) = walk := by
        simp [Walk.after, nextUnless, spent.page, spent.last, spent.working]
      exact stays.symm ▸ ⟨spent, rfl⟩
  | takeFailure => exact ⟨⟨spent.page, spent.last, rfl⟩, rfl⟩

/-- Only a seek sets the cursor going again. -/
theorem Spent.run (spent : walk.Spent) {events : List Event}
    (going : ∀ event ∈ events, ∀ key, event ≠ .seek key) :
    (walk.run events).Spent ∧ (walk.run events).yielded = walk.yielded := by
  induction events generalizing walk with
  | nil => exact ⟨spent, rfl⟩
  | cons event rest ih =>
      obtain ⟨here, later⟩ := List.forall_mem_cons.mp going
      obtain ⟨still, same⟩ := spent.after here
      obtain ⟨last, whole⟩ := ih still later
      exact ⟨last, whole.trans same⟩

/-- Where a walk ends nothing is ahead, and that remains so. -/
theorem Ends.spent (ends : walk.Ends outage) (room : 0 < walk.cursor.pageSize) :
    walk.cursor.ahead walk.table = [] ∧ (walk.after (.next outage)).Spent ∧
      (walk.after (.next outage)).yielded = walk.yielded := by
  obtain ⟨next, stopped, working⟩ := ends
  have moves := moves_nextUnless room walk.table outage
  rw [after, stopped]
  rw [stopped] at moves
  cases moves with
  | blocked error => cases working
  | ended empty nothing => exact ⟨nothing, ⟨empty, rfl, working⟩, rfl⟩

/-- A cursor without an error ends exactly where nothing is ahead. -/
theorem ends_iff (ready : walk.cursor.Ready) :
    walk.Ends none ↔ walk.cursor.ahead walk.table = [] := by
  constructor
  · exact fun ends => (ends.spent ready.room).1
  · intro nothing
    obtain ⟨stops, working⟩ := ready.next_of_nil nothing
    exact ⟨_, Prod.ext stops rfl, working⟩

/-! ## Walks over a table that stays as it is -/

/-- As long as nothing is added, the items met and those ahead are all from the key on. -/
theorem Sound.whole (sound : walk.Sound) (same : walk.table = walk.sought) :
    walk.yielded ++ walk.cursor.ahead walk.table = walk.table.itemsFrom walk.key true := by
  have later : ∀ item ∈ walk.cursor.ahead walk.table, item ∈ walk.cursor.page ∨
      item ∈ walk.table.items ∧ Beyond walk.cursor item := by
    intro item inside
    refine (List.mem_append.mp inside).imp_right fun read => ?_
    split at read
    · exact Table.mem_itemsFrom_iff.mp read
    · exact absurd read List.not_mem_nil
  apply Table.ascending_ext
  · rw [ahead, ← List.append_assoc]
    apply List.pairwise_append.mpr
    refine ⟨sound.ascending, ?_, ?_⟩
    · split
      · exact walk.table.itemsFrom_ascending _ _
      · exact .nil
    · intro item met other read
      split at read
      · exact sound.before item met other (Table.mem_itemsFrom_iff.mp read).2
      · exact absurd read List.not_mem_nil
  · exact walk.table.itemsFrom_ascending _ _
  · intro item
    rw [Table.mem_itemsFrom]
    constructor
    · intro inside
      rcases List.mem_append.mp inside with met | inside
      · exact sound.held item (List.mem_append_left _ met)
      · rcases later item inside with held | ⟨there, ahead⟩
        · exact sound.held item (List.mem_append_right _ held)
        · exact ⟨there, sound.beyond item ahead⟩
    · rintro ⟨inside, atLeast⟩
      exact sound.complete item (same ▸ inside) atLeast

/-- Steps that meet no failure yield what is ahead, one item each. -/
theorem run_next (ready : walk.cursor.Ready) (count : Nat) :
    (walk.run (List.replicate count (.next none))).yielded =
        walk.yielded ++ (walk.cursor.ahead walk.table).take count ∧
      ((walk.run (List.replicate count (.next none))).Ends none ↔
        (walk.cursor.ahead walk.table).length ≤ count) := by
  induction count generalizing walk with
  | zero =>
      refine ⟨by simp [run], ?_⟩
      rw [List.replicate_zero, Nat.le_zero, List.length_eq_zero_iff]
      exact ends_iff ready
  | succ count ih =>
      change (run (walk.after (.next none)) _).yielded = _ ∧
        ((run (walk.after (.next none)) _).Ends none ↔ _)
      cases lying : walk.cursor.ahead walk.table with
      | nil =>
          -- the walk has ended, and the steps that are left change nothing
          obtain ⟨-, spent, same⟩ := ((ends_iff ready).mpr lying).spent ready.room
          have going : ∀ event ∈ List.replicate count (Event.next none), ∀ key,
              event ≠ .seek key := fun event inside key => by
            simp [List.eq_of_mem_replicate inside]
          obtain ⟨last, whole⟩ := spent.run going
          refine ⟨?_, iff_of_true (last.ends none) (Nat.zero_le _)⟩
          rw [whole, same, List.take_nil, List.append_nil]
      | cons item rest =>
          obtain ⟨next, moves, current, remaining, still⟩ := ready.next_of_cons lying
          have stepped : walk.after (.next none) =
              { walk with cursor := next, yielded := walk.yielded ++ [item] } := by
            change (match walk.cursor.next walk.table with
              | (true, cursor) => _
              | (false, cursor) => _) = _
            rw [moves, ← current]
          have later :
              { walk with cursor := next, yielded := walk.yielded ++ [item] }.cursor.Ready := still
          obtain ⟨yielded, ends⟩ := ih later
          rw [remaining] at yielded ends
          rw [stepped, yielded, ends]
          simp

/-! ## Faithful walks -/

/-- Since the last seek the walk has met items of the table in order, and misses none of those that
were there at the seek. -/
structure Faithful (walk : Walk) : Prop where
  ascending : walk.yielded.Pairwise (· < ·)
  fromKey : ∀ item ∈ walk.yielded, ¬ item < walk.key
  held : ∀ outage item, walk.Yields outage item → item ∈ walk.table.items
  complete : ∀ outage, walk.Ends outage →
    ∀ item ∈ walk.sought.items, ¬ item < walk.key → walk.yielded.count item = 1
  /-- Once the walk has ended it goes on only after a seek. -/
  stays : ∀ outage, walk.Ends outage → ∀ later, (∀ event ∈ later, ∀ key, event ≠ .seek key) →
    ∀ other, (walk.run (.next outage :: later)).Ends other
  undisturbed : walk.table = walk.sought →
    walk.yielded <+: walk.table.itemsFrom walk.key true ∧
      ∀ outage, walk.Ends outage → walk.yielded = walk.table.itemsFrom walk.key true

theorem Sound.faithful (sound : walk.Sound) : walk.Faithful := by
  have ascending := (List.pairwise_append.mp sound.ascending).1
  have ended : ∀ {outage}, walk.Ends outage →
      walk.yielded ++ walk.cursor.ahead walk.table = walk.yielded := fun ends => by
    rw [(ends.spent sound.room).1, List.append_nil]
  constructor
  · exact ascending
  · exact fun item met => (sound.held item (List.mem_append_left _ met)).2
  · rintro outage item ⟨next, stepped, rfl⟩
    have met : next.current ∈ (walk.after (.next outage)).yielded := by
      rw [Walk.after, stepped]
      exact List.mem_append_right _ (.head _)
    have same : (walk.after (.next outage)).table = walk.table := by rw [Walk.after, stepped]
    exact same ▸ ((sound.next outage).held _ (List.mem_append_left _ met)).1
  · intro outage ends item inside atLeast
    have met := sound.complete item inside atLeast
    rw [ended ends] at met
    have once : walk.yielded.Nodup := ascending.imp fun {item other} less => by
      rintro rfl
      exact List.lt_irrefl item less
    exact once.count.trans (if_pos met)
  · intro outage ends later going other
    exact ((ends.spent sound.room).2.1.run going).1.ends other
  · intro same
    have whole := sound.whole same
    refine ⟨⟨_, whole⟩, fun outage ends => ?_⟩
    rw [← whole, ended ends]

/-- A cursor walks faithfully whatever is added while it is open, whichever reads of pages fail and
however often it is placed anew. On a table that stays as it is and can be read, its steps after a
seek yield the items from the key on in order and then none, whatever the size of a page. -/
theorem walk_faithful {pageSize : Nat} (room : 0 < pageSize) (table : Table)
    (events : List Event) :
    ((opened pageSize table).run events).Faithful ∧
      ∀ walk, walk = (opened pageSize table).run events → walk.cursor.failure = none →
        ∀ key count,
          ((walk.after (.seek key)).run (List.replicate count (.next none))).yielded =
              (walk.table.itemsFrom key true).take count ∧
            (((walk.after (.seek key)).run (List.replicate count (.next none))).Ends none ↔
              (walk.table.itemsFrom key true).length ≤ count) := by
  have sound := (sound_opened room table).run events
  refine ⟨sound.faithful, ?_⟩
  rintro walk rfl working key count
  have ready : (((opened pageSize table).run events).after (.seek key)).cursor.Ready :=
    ⟨sound.room, working⟩
  exact run_next ready count

/-- A cursor with pages of two items. While it is at the first item from the key on, items are added
behind it, in the page that it holds and further on; then the next read fails once. -/
def sampleWalk : Walk :=
  (opened 2 (Table.empty.insertAll [[1], [3], [5]])).run
    [.seek [2], .next none, .add [[2], [4], [7]], .next none, .next (some (.io "busy")),
      .takeFailure, .next none]

theorem walk_faithful_sample :
    0 < 2 ∧ sampleWalk.Faithful ∧ sampleWalk.yielded = [[3], [5], [7]] ∧
      sampleWalk.Ends none := by
  refine ⟨by decide, (walk_faithful (by decide) _ _).1, by decide, ?_⟩
  exact ⟨_, rfl, rfl⟩

end Walk

end Cursor

end SeriesIndex
