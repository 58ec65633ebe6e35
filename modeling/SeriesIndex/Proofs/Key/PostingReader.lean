import SeriesIndex.Key.PostingReader
import SeriesIndex.Proofs.Key
import SeriesIndex.Proofs.Outcome

/-!
# Postings read back

What follows the value of a posting is its bucket and its identifiers, in words. Every byte string
that can be read so is written so, and a reader of postings reads it so, whatever it has read or
failed to read before.
-/

namespace SeriesIndex.Key

open Bytes

variable {bytes tail : Bytes} {bucket word : UInt64} {ids : List UInt64}

/-! ## Words -/

/-- A word is read off the strings that start with it. -/
theorem takeWord_ok_iff :
    takeWord bytes = .ok word ↔ bytes.take 8 = ofWord64 word := by
  unfold takeWord
  constructor
  · intro taken
    split at taken
    · cases taken
    · next enough =>
        cases taken
        exact (ofWord64_toWord64 (List.length_take_of_le (Nat.not_lt.mp enough))).symm
  · intro front
    have enough : 8 ≤ bytes.length := by
      have length := congrArg List.length front
      rw [List.length_take, ofWord64_length] at length
      omega
    rw [if_neg (Nat.not_lt.mpr enough), front, toWord64_ofWord64]

/-- A byte string of whole words is the words that it spells. -/
theorem flatMap_words (whole : bytes.length % 8 = 0) : (words bytes).flatMap ofWord64 = bytes := by
  induction bytes using words.induct with
  | case1 a b c d e f g h rest ih =>
      have shorter : rest.length % 8 = 0 := by
        simp only [List.length_cons] at whole
        omega
      have first : ofWord64 (toWord64 [a, b, c, d, e, f, g, h]) = [a, b, c, d, e, f, g, h] :=
        ofWord64_toWord64 rfl
      rw [words, List.flatMap_cons, first, ih shorter]
      rfl
  | case2 bytes short =>
      match bytes, whole with
      | [], _ => rfl
      | a :: b :: c :: d :: e :: f :: g :: h :: rest, _ =>
          exact absurd rfl (short a b c d e f g h rest)

/-- Identifiers are read off the strings that are made of them. -/
theorem takeIds_ok_iff : takeIds bytes = .ok ids ↔ ids ≠ [] ∧ bytes = ids.flatMap ofWord64 := by
  constructor
  · intro taken
    unfold takeIds at taken
    split at taken
    · cases taken
    · next filled =>
        cases taken
        simp only [Bool.or_eq_true, List.isEmpty_iff, decide_eq_true_eq, not_or, not_not] at filled
        obtain ⟨filled, whole⟩ := filled
        refine ⟨?_, (flatMap_words whole).symm⟩
        intro none
        have spelled := flatMap_words whole
        rw [none] at spelled
        exact filled spelled.symm
  · rintro ⟨some, rfl⟩
    exact takeIds_flatMap some

theorem takePosting_ok_iff :
    takePosting tail = .ok (bucket, ids) ↔
      ids ≠ [] ∧ tail = ofWord64 bucket ++ ids.flatMap ofWord64 := by
  constructor
  · intro taken
    obtain ⟨_, front, rest⟩ := bind_ok.mp taken
    obtain ⟨_, back, same⟩ := bind_ok.mp rest
    cases same
    obtain ⟨some, written⟩ := takeIds_ok_iff.mp back
    refine ⟨some, ?_⟩
    rw [← takeWord_ok_iff.mp front, ← written, List.take_append_drop]
  · rintro ⟨some, rfl⟩
    exact takePosting_append bucket some

/-! ## Readers -/

namespace PostingReader

/-- A reader reads the identifiers of a posting as they are, and then holds no others. -/
theorem takeIds_eq (reader : PostingReader) (bytes : Bytes) :
    reader.takeIds bytes =
      match Key.takeIds bytes with
      | .error cause => (.error cause, reader)
      | .ok ids => (.ok ids, ⟨ids⟩) := by
  unfold takeIds Key.takeIds
  split <;> rfl

theorem takePosting_eq (reader : PostingReader) (bytes : Bytes) :
    reader.takePosting bytes =
      match Key.takePosting bytes with
      | .error cause => (.error cause, reader)
      | .ok (bucket, ids) => (.ok (bucket, ids), ⟨ids⟩) := by
  unfold takePosting Key.takePosting
  cases takeWord bytes with
  | error cause => rfl
  | ok bucket =>
      dsimp only
      rw [takeIds_eq]
      cases Key.takeIds (bytes.drop 8) <;> rfl

/-- What a reader gives does not depend on what it holds. -/
theorem takePosting_fst (reader : PostingReader) (bytes : Bytes) :
    (reader.takePosting bytes).1 = Key.takePosting bytes := by
  rw [takePosting_eq]
  split
  · next failed => exact failed.symm
  · next read => exact read.symm

/-- Behind the key of its label a posting gives its value, and behind the value its bucket and its
identifiers in order, to every reader of postings, whatever it has read or refused before. And what
a reader reads at all is written byte for byte as it was. -/
theorem posting_readBack (reader : PostingReader) (tenant : Tenant) (label content : Bytes)
    (bucket : UInt64) (some : ids ≠ []) :
    startsWith (posting tenant label content bucket ids) (namePrefix tenant label) = true ∧
      (∃ tail,
        takeField valueEnd ((posting tenant label content bucket ids).drop
          (namePrefix tenant label).length) = .ok (content, tail) ∧
        reader.takePosting tail = (.ok (bucket, ids), ⟨ids⟩)) ∧
      ∀ tail time others, (reader.takePosting tail).1 = .ok (time, others) →
        ofWord64 time ++ others.flatMap ofWord64 = tail := by
  refine ⟨?_, ⟨ofWord64 bucket ++ ids.flatMap ofWord64, ?_, ?_⟩, ?_⟩
  · exact startsWith_iff.mpr (namePrefix_prefix_posting_iff.mpr ⟨rfl, rfl⟩)
  · rw [posting_eq, List.drop_left]
    exact takeField_escape closes_valueEnd content _
  · rw [takePosting_eq, takePosting_append bucket some]
  · intro tail time others read
    rw [takePosting_fst] at read
    exact (takePosting_ok_iff.mp read).2.symm

/-- A reader that has read a posting and then refused one. -/
def sampleReader : PostingReader :=
  ((fresh.takePosting (ofWord64 5 ++ ofWord64 6)).2.takePosting [0, 1, 2]).2

/-- The value, the bucket and the identifiers are made of the bytes that close and escape fields. -/
theorem posting_readBack_sample :
    ([1, 2] : List UInt64) ≠ [] ∧
      ∃ tail, takeField valueEnd ((posting ⟨1, 2⟩ [0x61] [0, 1, 2] 0x0102 [1, 2]).drop
          (namePrefix ⟨1, 2⟩ [0x61]).length) = .ok ([0, 1, 2], tail) ∧
        sampleReader.ids = [6] ∧ (sampleReader.takePosting tail).1 = .ok (0x0102, [1, 2]) := by
  have some : ([1, 2] : List UInt64) ≠ [] := List.cons_ne_nil _ _
  obtain ⟨-, ⟨tail, cut, read⟩, -⟩ :=
    posting_readBack sampleReader ⟨1, 2⟩ [0x61] [0, 1, 2] 0x0102 some
  exact ⟨some, tail, cut, by decide, congrArg Prod.fst read⟩

end PostingReader

end SeriesIndex.Key
