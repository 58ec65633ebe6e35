import SeriesIndex.LabelRecord
import SeriesIndex.Proofs.Utf8
import SeriesIndex.Proofs.Values

/-!
# Label records read back

A label record gives back the labels that it was made of, as long as the number of their parts and
the lengths of the parts can be written in four bytes and the block gives back its content.
-/

namespace SeriesIndex

open Bytes

namespace LabelRecord

theorem length_parts (labels : List Label) : (parts labels).length = 2 * labels.length := by
  induction labels with
  | nil => rfl
  | cons label rest ih =>
      have whole : parts (label :: rest) = label.toBytes.1 :: label.toBytes.2 :: parts rest := rfl
      rw [whole, List.length_cons, List.length_cons, ih, List.length_cons]
      omega

/-- The names and values in turn are put together to the labels again. -/
theorem pair_parts (labels : List Label) : pair (parts labels) = .ok labels := by
  induction labels with
  | nil => rfl
  | cons label rest ih =>
      have whole : parts (label :: rest) = ofText label.name :: ofText label.value :: parts rest :=
        rfl
      rw [whole, pair, Text.Utf8.decode_ofText, Text.Utf8.decode_ofText]
      dsimp only
      rw [ih]
      rfl

/-! ## Labels that can be recorded -/

/-- The number and the lengths of the parts can be written in four bytes. -/
structure Small (labels : List Label) : Prop where
  count : (parts labels).length < 2 ^ 32
  lengths : ∀ part ∈ parts labels, part.length < 2 ^ 32

/-- Labels that come to less than 2³² bytes are small. -/
theorem small_of_length {labels : List Label}
    (small : (Values.joined (parts labels)).length < 2 ^ 32) : Small labels := by
  obtain ⟨count, lengths⟩ := Values.length_joined (parts labels)
  exact ⟨by omega, fun part inside => Nat.lt_of_le_of_lt (lengths part inside) small⟩

/-- Labels have the record that one expects, if they are small. -/
theorem encode_ok_iff {labels : List Label} {record : Bytes} :
    encode labels = .ok record ↔ labels ≠ [] ∧ Small labels ∧
      record = Values.typeCode :: bigEndian 4 (parts labels).length ++
        Compression.Block.encode (Values.joined (parts labels)) := by
  have filled : parts labels ≠ [] ↔ labels ≠ [] := by
    rw [← List.length_pos_iff, ← List.length_pos_iff, length_parts]
    omega
  rw [encode]
  by_cases few : (parts labels).length < 2 ^ 32
  · rw [if_neg (by omega)]
    constructor
    · intro encoded
      split at encoded
      · cases encoded
      · next payload values =>
          cases encoded
          obtain ⟨some_, lengths, rfl⟩ := Values.encode_ok_iff.mp values
          exact ⟨filled.mp some_, ⟨few, lengths⟩, rfl⟩
    · rintro ⟨some_, small, rfl⟩
      rw [Values.encode_ok_iff.mpr ⟨filled.mpr some_, small.lengths, rfl⟩]
  · rw [if_pos (by omega)]
    exact ⟨nofun, fun ⟨_, small, _⟩ => absurd small.count few⟩

/-- If there are any labels, they can be recorded exactly if they are small. -/
theorem exists_encode_iff {labels : List Label} (filled : labels ≠ []) :
    (∃ record, encode labels = .ok record) ↔ Small labels :=
  ⟨fun ⟨_, encoded⟩ => (encode_ok_iff.mp encoded).2.1,
    fun small => ⟨_, encode_ok_iff.mpr ⟨filled, small, rfl⟩⟩⟩

/-! ## Records read back -/

/-- The number of parts in a record goes into four bytes, so that decoding them is reading them. -/
theorem read_count (a b c d : UInt8) (payload : Bytes) :
    Values.read (UInt64.ofNat (toNat [a, b, c, d])) payload =
      (Values.decode (toNat [a, b, c, d]) payload).mapError .told := by
  have small : toNat [a, b, c, d] < 256 ^ 4 := toNat_lt [a, b, c, d]
  exact Values.read_of_fourBytes (by omega) payload

/-- The number and the lengths of the parts can be written in four bytes, and the block gives back
its content. -/
structure Fits (labels : List Label) : Prop where
  count : (parts labels).length < 2 ^ 32
  lengths : ∀ part ∈ parts labels, part.length < 2 ^ 32
  block : Compression.Block.decode (Compression.Block.encode (Values.joined (parts labels))) =
    .ok (Values.joined (parts labels))

/-- The record of labels that fit reads as the labels. -/
theorem decode_encode {labels : List Label} {record : Bytes}
    (encoded : encode labels = .ok record) (fits : Fits labels) : decode record = .ok labels := by
  obtain ⟨filled, -, rfl⟩ := encode_ok_iff.mp encoded
  have content := Values.decode_joined fits.lengths fits.block
  have length : (bigEndian 4 (parts labels).length).length = 4 := bigEndian_length 4 _
  have bound : (parts labels).length < 256 ^ 4 := fits.count
  have read := toNat_bigEndian bound
  generalize bigEndian 4 (parts labels).length = bytes at length read ⊢
  match bytes, length with
  | [a, b, c, d], _ =>
      have even : (parts labels).length % 2 = 0 := by
        rw [length_parts]
        omega
      have known : Values.checkType Values.typeCode.toNat = .ok () := if_pos rfl
      rw [List.cons_append, List.cons_append, List.cons_append, List.cons_append,
        List.cons_append, List.nil_append, decode, known]
      dsimp only
      rw [read, if_neg (by simpa using even), content]
      dsimp only
      rw [pair_parts]
      rfl

/-- Labels that come to less than 2³² bytes fit. -/
theorem fits_of_length {labels : List Label}
    (small : (Values.joined (parts labels)).length < 2 ^ 32) : Fits labels :=
  ⟨(small_of_length small).count, (small_of_length small).lengths,
    Compression.Block.decode_encode small⟩

end LabelRecord

end SeriesIndex
