import SeriesIndex.Bytes

/-!
# Buffer pools

A pool keeps buffers that are out of use for the next one who needs one. It keeps so many at
most, and none that has grown too large.
-/

namespace SeriesIndex

/-- Some bytes and the room reserved for them. -/
structure Buffer where
  content : Bytes
  capacity : Nat
deriving DecidableEq, Repr, Inhabited

namespace Buffer

def empty : Buffer := ⟨[], 0⟩

/-- Makes room for so many bytes. Room grows at least twofold, and to eight bytes. -/
def reserve (buffer : Buffer) (size : Nat) : Buffer :=
  if size ≤ buffer.capacity then buffer
  else { buffer with capacity := max (max size (2 * buffer.capacity)) 8 }

def write (buffer : Buffer) (bytes : Bytes) : Buffer :=
  let room := buffer.reserve (buffer.content.length + bytes.length)
  { room with content := buffer.content ++ bytes }

end Buffer

structure BufferPool where
  maxIdle : Nat
  idle : List Buffer
deriving DecidableEq, Repr

namespace BufferPool

/-- How many buffers a pool keeps unless told otherwise. -/
def defaultMaxIdle : Nat := 64

/-- A buffer with more room than this is not kept. -/
def maxKept : Nat := 64 * 1024

def empty (maxIdle : Nat) : BufferPool := ⟨maxIdle, []⟩

/-- Hands out the buffer put back last, or a new one. -/
def take (pool : BufferPool) : Buffer × BufferPool :=
  match pool.idle with
  | [] => (.empty, pool)
  | buffer :: rest => (buffer, { pool with idle := rest })

/-- Takes a buffer back, emptied. -/
def putBack (pool : BufferPool) (buffer : Buffer) : BufferPool :=
  if maxKept < buffer.capacity || pool.maxIdle ≤ pool.idle.length then pool
  else { pool with idle := { buffer with content := [] } :: pool.idle }

end BufferPool

end SeriesIndex
