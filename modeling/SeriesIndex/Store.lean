import SeriesIndex.Backend
import SeriesIndex.Table.Cursor

/-!
# Stores

A store is a table on a medium. Every step of a cursor is one read of the medium and every
addition one write, numbered from the first; the medium says which of them fail. A write that
fails leaves the table as it was.
-/

namespace SeriesIndex

/-- The errors of the reads and writes that fail. -/
structure Medium where
  read : Nat → Option StoreError
  write : Nat → Option StoreError

/-- A medium on which nothing fails. -/
def Medium.sound : Medium := ⟨fun _ => none, fun _ => none⟩

structure Store where
  backend : Backend
  table : Table
  medium : Medium
  reads : Nat
  writes : Nat

namespace Store

def ofTable (backend : Backend) (table : Table) : Store := ⟨backend, table, .sound, 0, 0⟩

def cursor (store : Store) : Cursor := .fresh store.backend.pageSize

/-- One step of a cursor. -/
def next (store : Store) (cursor : Cursor) : Bool × Cursor × Store :=
  let after := { store with reads := store.reads + 1 }
  match store.medium.read store.reads with
  | some error => (false, { cursor with failure := some error }, after)
  | none =>
      let (more, cursor) := cursor.next store.table
      (more, cursor, after)

/-- Adds items that may be there already. -/
def add (store : Store) (items : List Bytes) : Except StoreError Unit × Store :=
  let after := { store with writes := store.writes + 1 }
  match store.medium.write store.writes with
  | some error => (.error error, after)
  | none => (.ok (), { after with table := store.table.insertAll items })

/-- The first item that starts with the given bytes. -/
def firstWithPrefix (store : Store) (start : Bytes) :
    Except StoreError (Option Bytes) × Store :=
  let (more, cursor, store) := store.next (store.cursor.seek start)
  if more then
    (.ok (if Bytes.startsWith cursor.current start then some cursor.current else none), store)
  else
    match cursor.failure with
    | some error => (.error error, store)
    | none => (.ok none, store)

end Store

end SeriesIndex
