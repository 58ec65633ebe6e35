import SeriesIndex.Key.Layout

/-!
# Posting readers

A reader of postings keeps the identifiers that it has read last, in one place for all the postings
that it reads. They are replaced when the next ones have been found to be whole words, and stay as
they are when a posting cannot be read.
-/

namespace SeriesIndex.Key

structure PostingReader where
  ids : List UInt64
deriving DecidableEq, Repr

namespace PostingReader

/-- A reader that has read nothing. -/
def fresh : PostingReader := ⟨[]⟩

/-- Forgets the identifiers read last. -/
def reset (reader : PostingReader) : PostingReader := { reader with ids := [] }

/-- Puts the words of a byte string behind the identifiers that are there. -/
def append (reader : PostingReader) (bytes : Bytes) : PostingReader :=
  { reader with ids := reader.ids ++ words bytes }

/-- Reads the identifiers at the end of a posting: at least one, in whole words. -/
def takeIds (reader : PostingReader) (bytes : Bytes) :
    Except Corruption (List UInt64) × PostingReader :=
  if bytes.isEmpty || bytes.length % 8 ≠ 0 then (.error (.identifierLength bytes.length), reader)
  else
    let reader := reader.reset.append bytes
    (.ok reader.ids, reader)

/-- Reads the bucket and the identifiers of a posting, which follow its value. -/
def takePosting (reader : PostingReader) (bytes : Bytes) :
    Except Corruption (UInt64 × List UInt64) × PostingReader :=
  match takeWord bytes with
  | .error cause => (.error cause, reader)
  | .ok bucket =>
      let (ids, reader) := reader.takeIds (bytes.drop 8)
      (ids.map (bucket, ·), reader)

end PostingReader

end SeriesIndex.Key
