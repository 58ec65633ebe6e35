import SeriesIndex.Proofs.Bytes
import SeriesIndex.Proofs.Outcome
import SeriesIndex.Values

/-!
# Lists of values read back

Values that come to less than 2³² bytes are read back with their number, and with no other. With a
smaller one bytes are left over; with a larger one the bytes end before a length. Whatever is read
at all takes in every byte of the content of its block, once. Only for a number that no list has
room for does the reading break off, with nothing that tells of it.
-/

namespace SeriesIndex

open Bytes

/-! ## Blocks -/

namespace Compression.Block

theorem continued_replicate (full : Nat) {last : Nat} (small : last < 255) (rest : Bytes) :
    continued (List.replicate full 255 ++ [UInt8.ofNat last] ++ rest) =
      some (full * 255 + last, rest) := by
  induction full with
  | zero =>
      have byte : (UInt8.ofNat last).toNat = last := by
        rw [UInt8.toNat_ofNat', Nat.mod_eq_of_lt (by omega)]
      have notFull : UInt8.ofNat last ≠ 255 := by
        intro same
        have value := congrArg UInt8.toNat same
        rw [byte] at value
        exact absurd value (Nat.ne_of_lt small)
      simp only [List.replicate_zero, List.nil_append, List.singleton_append]
      rw [continued, if_neg notFull, byte, Nat.zero_mul, Nat.zero_add]
  | succ full ih =>
      simp only [List.replicate_succ, List.cons_append]
      rw [continued, if_pos rfl, ih]
      simp only [Option.map_some, Option.some.injEq, Prod.mk.injEq, and_true]
      omega

/-- The bytes that continue a length give it back. -/
theorem continued_continuation (length : Nat) (rest : Bytes) :
    continued (continuation length ++ rest) = some (length, rest) := by
  have parts := Nat.div_add_mod length 255
  rw [continuation, continued_replicate (length / 255) (Nat.mod_lt length (by decide)) rest]
  rw [Nat.mul_comm, parts]

/-- A sequence of literals alone is its content. -/
theorem sequences_literals {token : UInt8} {afterToken content : Bytes}
    (read : length? (token.toNat / 16) afterToken = some (content.length, content)) :
    sequences content.length #[] (token :: afterToken) = .ok content.toArray := by
  rw [sequences]
  split
  · next none =>
      rw [read] at none
      cases none
  · next count bytes some_ =>
      rw [read] at some_
      cases some_
      rw [if_neg (Nat.lt_irrefl _), if_neg (by simp)]
      dsimp only
      split
      · simp
      · next impossible => simp at impossible
      · next impossible => simp at impossible

theorem toNatLittle_reverse (bytes : Bytes) : toNatLittle bytes.reverse = toNat bytes := by
  rw [toNatLittle, List.foldr_reverse, Bytes.toNat]

/-- A block gives back its content. -/
theorem decode_encode {content : Bytes} (small : content.length < 2 ^ 32) :
    decode (encode content) = .ok content := by
  have sized : ∀ rest, decode ((bigEndian 4 content.length).reverse ++ rest) =
      (sequences content.length #[] rest).map Array.toList := by
    intro rest
    have length : ((bigEndian 4 content.length).reverse).length = 4 := by simp
    rw [decode, if_neg (by simp), List.take_left' length, List.drop_left' length,
      toNatLittle_reverse, toNat_bigEndian small]
  rw [encode]
  split
  · next few =>
      have token : (UInt8.ofNat (content.length * 16)).toNat = content.length * 16 := by
        rw [UInt8.toNat_ofNat', Nat.mod_eq_of_lt (by omega)]
      rw [List.append_assoc, sized, List.singleton_append, sequences_literals]
      · rfl
      · rw [token, Nat.mul_div_cancel _ (by decide), length?, if_neg (by omega)]
  · next many =>
      rw [List.append_assoc, List.append_assoc, sized, List.singleton_append, sequences_literals]
      · rfl
      · rw [length?, if_pos (by decide), continued_continuation, Option.map_some]
        simp only [Option.some.injEq, Prod.mk.injEq, and_true]
        omega

end Compression.Block

/-! ## Lists of values -/

namespace Values

section Reading

variable {values : List Bytes} {value bytes payload : Bytes} {count total index : Nat}

theorem joined_cons (value : Bytes) (rest : List Bytes) :
    joined (value :: rest) = bigEndian 4 value.length ++ (value ++ joined rest) := by
  simp [joined]

theorem length_joined (values : List Bytes) :
    4 * values.length ≤ (joined values).length ∧
      ∀ value ∈ values, value.length ≤ (joined values).length := by
  induction values with
  | nil => exact ⟨Nat.le_refl _, fun _ impossible => absurd impossible List.not_mem_nil⟩
  | cons value rest ih =>
      obtain ⟨count, lengths⟩ := ih
      have whole : (joined (value :: rest)).length =
          4 + value.length + (joined rest).length := by
        simp [joined, Nat.add_assoc]
      rw [whole, List.length_cons]
      refine ⟨by omega, ?_⟩
      intro other inside
      rcases List.mem_cons.mp inside with rfl | later
      · omega
      · have small := lengths other later
        omega

/-- A value that stands in front is taken off. -/
theorem split_cons (small : value.length < 2 ^ 32) (rest : Bytes) :
    split total index (count + 1) (bigEndian 4 value.length ++ (value ++ rest)) =
      (split total (index + 1) count rest).map (value :: ·) := by
  have length : (bigEndian 4 value.length).length = 4 := bigEndian_length 4 _
  rw [split, if_neg (by simp)]
  dsimp only
  rw [List.take_left' length, List.drop_left' length, toNat_bigEndian small, if_neg (by simp),
    List.drop_left, List.take_left]

/-- Values whose lengths fit in four bytes are told apart again. -/
theorem split_joined (small : ∀ value ∈ values, value.length < 2 ^ 32) (total index : Nat) :
    split total index values.length (joined values) = .ok values := by
  induction values generalizing index with
  | nil => rfl
  | cons value rest ih =>
      obtain ⟨here, later⟩ := List.forall_mem_cons.mp small
      rw [List.length_cons, joined_cons, split_cons here, ih later]
      rfl

/-- Behind fewer values than there are, the rest of them is left over. -/
theorem split_of_fewer (small : ∀ value ∈ values, value.length < 2 ^ 32)
    (fewer : count < values.length) (total index : Nat) :
    split total index count (joined values) =
      .error (.trailing (joined (values.drop count)).length total) := by
  induction values generalizing count index with
  | nil => exact absurd fewer (Nat.not_lt_zero count)
  | cons value rest ih =>
      obtain ⟨here, later⟩ := List.forall_mem_cons.mp small
      cases count with
      | zero =>
          have filled : joined (value :: rest) ≠ [] := by
            rw [joined_cons]
            simp [bigEndian]
          rw [List.drop_zero]
          cases shape : joined (value :: rest) with
          | nil => exact absurd shape filled
          | cons byte bytes => rfl
      | succ count =>
          rw [joined_cons, split_cons here, ih later (Nat.lt_of_succ_lt_succ fewer)]
          rfl

/-- Behind the last value there is no length of another. -/
theorem split_of_more (small : ∀ value ∈ values, value.length < 2 ^ 32)
    (more : values.length < count) (total index : Nat) :
    split total index count (joined values) =
      .error (.truncatedLength (index + values.length)) := by
  induction values generalizing count index with
  | nil =>
      cases count with
      | zero => exact absurd more (Nat.lt_irrefl 0)
      | succ count => rfl
  | cons value rest ih =>
      obtain ⟨here, later⟩ := List.forall_mem_cons.mp small
      cases count with
      | zero => exact absurd more (Nat.not_lt_zero _)
      | succ count =>
          rw [joined_cons, split_cons here, ih later (Nat.lt_of_succ_lt_succ more),
            List.length_cons, Nat.add_right_comm, Nat.add_assoc]
          rfl

/-- What is told apart is so many values, and they are all that there was. -/
theorem joined_of_split (told : split total index count bytes = .ok values) :
    values.length = count ∧ joined values = bytes := by
  induction count generalizing index bytes values with
  | zero =>
      cases bytes with
      | nil =>
          cases told
          exact ⟨rfl, rfl⟩
      | cons byte rest => cases told
  | succ count ih =>
      rw [split] at told
      split at told
      · cases told
      · next enough =>
          dsimp only at told
          split at told
          · cases told
          · next whole =>
              obtain ⟨rest, behind, rfl⟩ := map_ok.mp told
              obtain ⟨counted, spelled⟩ := ih behind
              have four : (bytes.take 4).length = 4 :=
                List.length_take_of_le (Nat.not_lt.mp enough)
              have front := bigEndian_toNat (bytes.take 4)
              rw [four] at front
              refine ⟨congrArg Nat.succ counted, ?_⟩
              rw [joined_cons, List.length_take_of_le (Nat.not_lt.mp whole), front, spelled,
                List.take_append_drop, List.take_append_drop]

/-! ## Blocks of values -/

theorem decode_of_block {content : Bytes}
    (block : Compression.Block.decode payload = .ok content) (count : Nat) :
    decode count payload = split count 0 count content := by
  rw [decode, block]

/-- A block of values gives them back with their number. -/
theorem decode_joined (small : ∀ value ∈ values, value.length < 2 ^ 32)
    (block : Compression.Block.decode payload = .ok (joined values)) :
    decode values.length payload = .ok values := by
  rw [decode_of_block block]
  exact split_joined small values.length 0

/-- With a number that is not theirs, a block of values gives none. -/
theorem decode_of_ne (small : ∀ value ∈ values, value.length < 2 ^ 32)
    (block : Compression.Block.decode payload = .ok (joined values))
    (other : count ≠ values.length) : ∃ fault, decode count payload = .error fault := by
  rw [decode_of_block block]
  rcases Nat.lt_or_gt_of_ne other with fewer | more
  · exact ⟨_, split_of_fewer small fewer count 0⟩
  · exact ⟨_, split_of_more small more count 0⟩

theorem joined_of_decode (decoded : decode count payload = .ok values) :
    values.length = count ∧ Compression.Block.decode payload = .ok (joined values) := by
  unfold decode at decoded
  split at decoded
  · cases decoded
  · next content block =>
      obtain ⟨counted, spelled⟩ := joined_of_split decoded
      exact ⟨counted, spelled ▸ block⟩

/-! ## Readings -/

variable {number : UInt64}

/-- A list has room for the values of a block. -/
theorem length_le_maxCount (small : (joined values).length < 2 ^ 32) :
    values.length ≤ maxCount := by
  have counted := (length_joined values).1
  have most : 2 ^ 30 ≤ maxCount := by decide
  omega

theorem read_of_room (room : number.toNat ≤ maxCount) :
    read number payload = (decode number.toNat payload).mapError .told :=
  if_neg fun ⟨beyond, _⟩ => absurd beyond (Nat.not_lt.mpr room)

/-- Any number of four bytes has room, so reading with it tells what decoding tells. -/
theorem read_of_fourBytes {count : Nat} (small : count < 2 ^ 32) (payload : Bytes) :
    read (UInt64.ofNat count) payload = (decode count payload).mapError .told := by
  have same : (UInt64.ofNat count).toNat = count := by
    rw [UInt64.toNat_ofNat', Nat.mod_eq_of_lt (by omega)]
  have most : 2 ^ 32 ≤ maxCount := by decide
  rw [read_of_room (by omega), same]

theorem read_of_noRoom {content : Bytes} (beyond : maxCount < number.toNat)
    (block : Compression.Block.decode payload = .ok content) :
    read number payload = .error .noRoom :=
  if_pos ⟨beyond, by rw [block]; rfl⟩

/-- What a reading gives is decoded. -/
theorem decode_of_read (given : read number payload = .ok values) :
    decode number.toNat payload = .ok values := by
  unfold read at given
  split at given
  · cases given
  · cases decoded : decode number.toNat payload with
    | error fault =>
        rw [decoded] at given
        cases given
    | ok others =>
        rw [decoded] at given
        cases given
        rfl

end Reading

/-- Values are encoded exactly if there are any and the length of each goes into four bytes. -/
theorem encode_ok_iff {values : List Bytes} {payload : Bytes} :
    encode values = .ok payload ↔ values ≠ [] ∧ (∀ value ∈ values, value.length < 2 ^ 32) ∧
      payload = Compression.Block.encode (joined values) := by
  rw [encode]
  by_cases empty : values = []
  · simp [empty]
  · rw [if_neg (by simpa using empty)]
    cases found : values.find? fun value => 2 ^ 32 ≤ value.length with
    | none =>
        have small : ∀ value ∈ values, value.length < 2 ^ 32 := fun value inside =>
          Nat.not_le.mp (by simpa using List.find?_eq_none.mp found value inside)
        constructor
        · rintro ⟨⟩
          exact ⟨empty, small, rfl⟩
        · rintro ⟨-, -, rfl⟩
          rfl
    | some value =>
        have inside := List.mem_of_find?_eq_some found
        have long : 2 ^ 32 ≤ value.length := by simpa using List.find?_some found
        exact ⟨nofun, fun ⟨_, small, _⟩ => absurd (small value inside) (Nat.not_lt.mpr long)⟩

/-- Values have a block. Whatever block holds them, reading it with their number gives them back,
and reading it with another number fails, with an error exactly as long as some list has room for so
many values. Any block that is read at all holds as many values as the number says, one after
another and nothing else. -/
theorem read_told_iff {values : List Bytes} (filled : values ≠ [])
    (small : (joined values).length < 2 ^ 32) :
    (∃ payload, encode values = .ok payload ∧
        Compression.Block.decode payload = .ok (joined values)) ∧
      (∀ payload, Compression.Block.decode payload = .ok (joined values) →
        ∀ number : UInt64,
          (number.toNat = values.length → read number payload = .ok values) ∧
          (number.toNat ≠ values.length →
            ((∃ fault, read number payload = .error (.told fault)) ↔
              number.toNat ≤ maxCount))) ∧
      ∀ payload number result, read number payload = .ok result →
        result.length = number.toNat ∧
          Compression.Block.decode payload = .ok (joined result) := by
  have each : ∀ value ∈ values, value.length < 2 ^ 32 :=
    fun value inside => Nat.lt_of_le_of_lt ((length_joined values).2 value inside) small
  refine ⟨⟨_, encode_ok_iff.mpr ⟨filled, each, rfl⟩, Compression.Block.decode_encode small⟩, ?_, ?_⟩
  · intro payload block number
    refine ⟨?_, fun other => ⟨?_, ?_⟩⟩
    · intro own
      have room : number.toNat ≤ maxCount := own ▸ length_le_maxCount small
      rw [read_of_room room, own, decode_joined each block]
      rfl
    · rintro ⟨fault, told⟩
      apply Nat.not_lt.mp
      intro beyond
      rw [read_of_noRoom beyond block] at told
      cases told
    · intro room
      obtain ⟨fault, refused⟩ := decode_of_ne each block other
      exact ⟨fault, by rw [read_of_room room, refused]; rfl⟩
  · intro payload number result given
    exact joined_of_decode (decode_of_read given)

/-- An empty value, and one that looks like the length of another. -/
def sampleValues : List Bytes := [[], [0, 0, 0, 1], [0x61]]

def sampleBlock : Bytes := Compression.Block.encode (joined sampleValues)

theorem read_told_iff_sample :
    sampleValues ≠ [] ∧ (joined sampleValues).length < 2 ^ 32 ∧
      read 3 sampleBlock = .ok sampleValues ∧
      (∃ fault, read 2 sampleBlock = .error (.told fault)) ∧
      (∃ fault, read 4 sampleBlock = .error (.told fault)) := by
  have filled : sampleValues ≠ [] := List.cons_ne_nil _ _
  have small : (joined sampleValues).length < 2 ^ 32 := by decide
  obtain ⟨-, reads, -⟩ := read_told_iff filled small
  have counts := reads sampleBlock (Compression.Block.decode_encode small)
  exact ⟨filled, small, (counts 3).1 rfl, ((counts 2).2 (by decide)).mpr (by decide),
    ((counts 4).2 (by decide)).mpr (by decide)⟩

/-- Reading one value as 2⁶² values breaks off: not every wrong number is told of. -/
theorem read_breaks_off :
    ¬ ∀ values payload (number : UInt64), encode values = .ok payload →
      (joined values).length < 2 ^ 32 → number.toNat ≠ values.length →
      ∃ fault, read number payload = .error (.told fault) := by
  intro told
  obtain ⟨fault, refused⟩ := told [[0x61]] _ 0x4000000000000000 rfl (by decide) (by decide)
  have block : Compression.Block.decode (Compression.Block.encode (joined [[0x61]])) =
      .ok (joined [[0x61]]) := Compression.Block.decode_encode (by decide)
  rw [read_of_noRoom (by decide) block] at refused
  cases refused

end Values

end SeriesIndex
