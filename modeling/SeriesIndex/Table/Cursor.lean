import SeriesIndex.StoreError
import SeriesIndex.Table

/-!
# Cursors

A cursor walks over the items of a table in ascending order. It reads them in pages, so what is
added ahead of the page it holds is still met, and a short page ends the walk until the next
seek. Reading a page can fail; the cursor then stands still until the error has been taken.
-/

namespace SeriesIndex

structure Cursor where
  pageSize : Nat
  page : List Bytes
  start : Bytes
  inclusive : Bool
  mayHaveMore : Bool
  current : Bytes
  failure : Option StoreError

namespace Cursor

/-- A cursor before the first item. -/
def fresh (pageSize : Nat) : Cursor := ⟨pageSize, [], [], true, true, [], none⟩

/-- Stands before the first item not below the key. -/
def seek (cursor : Cursor) (key : Bytes) : Cursor :=
  { cursor with page := [], start := key, inclusive := true, mayHaveMore := true, current := [] }

/-- The items of the next page. -/
def pageOf (cursor : Cursor) (table : Table) : List Bytes :=
  (table.itemsFrom cursor.start cursor.inclusive).take cursor.pageSize

/-- Holds a page just read. -/
def fill (cursor : Cursor) (page : List Bytes) : Cursor :=
  { cursor with
    page := page
    mayHaveMore := page.length == cursor.pageSize
    start := page.getLast?.getD cursor.start
    inclusive := page.isEmpty && cursor.inclusive }

/-- Steps onto the first item of the page held, if there is one. -/
def step (cursor : Cursor) : Bool × Cursor :=
  match cursor.page with
  | [] => (false, cursor)
  | item :: rest => (true, { cursor with page := rest, current := item })

/-- Steps onto the next item, with a page read if none is held; `outage` is the error of that
read, if it fails. -/
def nextUnless (cursor : Cursor) (table : Table) (outage : Option StoreError) : Bool × Cursor :=
  if cursor.failure.isSome then (false, cursor)
  else
    match cursor.page with
    | _ :: _ => cursor.step
    | [] =>
        if cursor.mayHaveMore then
          match outage with
          | some error => (false, { cursor with failure := some error })
          | none => (cursor.fill (cursor.pageOf table)).step
        else (false, cursor)

/-- Steps onto the next item; false when there is none. -/
def next (cursor : Cursor) (table : Table) : Bool × Cursor := cursor.nextUnless table none

/-- Gives the error that stopped the cursor, and lets it go on. -/
def takeFailure (cursor : Cursor) : Option StoreError × Cursor :=
  (cursor.failure, { cursor with failure := none })

/-- The items that the cursor will meet if nothing is added and no read fails. -/
def ahead (cursor : Cursor) (table : Table) : List Bytes :=
  cursor.page ++
    if cursor.mayHaveMore then table.itemsFrom cursor.start cursor.inclusive else []

theorem step_of_page {cursor : Cursor} {item : Bytes} {rest : List Bytes}
    (held : cursor.page = item :: rest) :
    cursor.step = (true, { cursor with page := rest, current := item }) := by
  simp [step, held]

/-- After a page that was full, the walk goes on behind its last item. -/
theorem ahead_fill (cursor : Cursor) (table : Table) :
    (cursor.fill (cursor.pageOf table)).ahead table =
      table.itemsFrom cursor.start cursor.inclusive := by
  generalize whole : table.itemsFrom cursor.start cursor.inclusive = items
  have pageShape : cursor.pageOf table = items.take cursor.pageSize := by
    rw [pageOf, whole]
  rw [pageShape]
  unfold ahead fill
  dsimp only
  by_cases full : (items.take cursor.pageSize).length = cursor.pageSize
  · rw [if_pos (by simpa using full)]
    by_cases none : items.take cursor.pageSize = []
    · rw [none]
      simpa using whole
    · obtain ⟨last, lastIs⟩ := Option.ne_none_iff_exists'.mp
        (fun h => none (List.getLast?_eq_none_iff.mp h))
      have notEmpty : (items.take cursor.pageSize).isEmpty = false := by
        simpa using none
      rw [lastIs, notEmpty, Option.getD_some, Bool.false_and]
      have suffix : items <:+ table.items := whole ▸ List.dropWhile_suffix _
      obtain ⟨front, split⟩ := suffix
      have parts : (front ++ items.take cursor.pageSize) ++ items.drop cursor.pageSize =
          table.items := by
        rw [List.append_assoc, List.take_append_drop, split]
      rw [Table.itemsFrom_of_split parts lastIs, List.take_append_drop]
  · rw [if_neg (by simpa using full), List.append_nil]
    exact List.take_of_length_le (by rw [List.length_take] at full; omega)

/-- A step takes the first of the items ahead. -/
theorem ahead_next {cursor after : Cursor} {table : Table}
    (moved : cursor.next table = (true, after)) :
    cursor.ahead table = after.current :: after.ahead table := by
  unfold next nextUnless at moved
  split at moved
  · cases moved
  · cases held : cursor.page with
    | cons item rest =>
        rw [held] at moved
        dsimp only at moved
        rw [step_of_page held] at moved
        cases moved
        simp [ahead, held]
    | nil =>
        rw [held] at moved
        dsimp only at moved
        split at moved
        · next more =>
            have same := ahead_fill cursor table
            generalize cursor.fill (cursor.pageOf table) = filled at moved same
            have before : cursor.ahead table =
                table.itemsFrom cursor.start cursor.inclusive := by
              simp [ahead, held, more]
            rw [before, ← same]
            cases page : filled.page with
            | nil => rw [step, page] at moved; cases moved
            | cons item rest =>
                rw [step_of_page page] at moved
                cases moved
                simp [ahead, page]
        · cases moved

end Cursor

end SeriesIndex
