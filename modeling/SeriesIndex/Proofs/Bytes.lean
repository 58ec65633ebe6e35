import Mathlib.Algebra.Group.Nat.Defs
import SeriesIndex.Bytes

/-!
# Byte strings in order

Fixed-width numbers are compared as their byte strings are, so a number can stand in a key and the
keys between two others are those with a number between two others. Texts are told apart by their
bytes.
-/

namespace SeriesIndex.Bytes

theorem startsWith_iff {whole start : Bytes} : startsWith whole start = true ↔ start <+: whole :=
  List.isPrefixOf_iff_prefix

theorem ofText_injective {left right : String} (same : ofText left = ofText right) :
    left = right := by
  have arrays : left.toByteArray.data = right.toByteArray.data := Array.toList_inj.mp same
  exact String.toByteArray_inj.mp (ByteArray.ext arrays)

theorem ofText_eq_nil_iff {text : String} : ofText text = [] ↔ text = "" :=
  ⟨fun empty => ofText_injective (empty.trans (by decide)), fun empty => empty ▸ (by decide)⟩

/-! ## Comparing behind a common length -/

/-- Two strings are compared by their starts of equal length, then by what follows. -/
theorem append_lt_append_iff {left right : Bytes} (same : left.length = right.length)
    (more others : Bytes) :
    left ++ more < right ++ others ↔ left < right ∨ left = right ∧ more < others := by
  induction left generalizing right with
  | nil =>
      cases right with
      | nil => simp
      | cons byte rest => simp at same
  | cons first left ih =>
      cases right with
      | nil => simp at same
      | cons second right =>
          have shorter : left.length = right.length := by simpa using same
          simp only [List.cons_append, List.cons_lt_cons_iff, List.cons.injEq, ih shorter]
          constructor
          · rintro (below | ⟨rfl, below | ⟨rfl, below⟩⟩)
            · exact .inl (.inl below)
            · exact .inl (.inr ⟨rfl, below⟩)
            · exact .inr ⟨⟨rfl, rfl⟩, below⟩
          · rintro ((below | ⟨rfl, below⟩) | ⟨⟨rfl, rfl⟩, below⟩)
            · exact .inl below
            · exact .inr ⟨rfl, .inl below⟩
            · exact .inr ⟨rfl, .inr ⟨rfl, below⟩⟩

theorem append_lt_append_left_iff (start left right : Bytes) :
    start ++ left < start ++ right ↔ left < right := by
  rw [append_lt_append_iff rfl]
  constructor
  · rintro (below | ⟨_, below⟩)
    · exact absurd below (List.lt_irrefl start)
    · exact below
  · exact fun below => .inr ⟨rfl, below⟩

theorem not_append_lt (start more : Bytes) : ¬ start ++ more < start := by
  intro below
  have behind : start ++ more < start ++ [] := by rwa [List.append_nil]
  exact List.not_lt_nil more ((append_lt_append_left_iff start more []).mp behind)

/-- What lies between two strings with a common start has that start as well. -/
theorem prefix_of_between {start low high item : Bytes} (above : ¬ item < start ++ low)
    (below : ¬ start ++ high < item) : start <+: item := by
  induction start generalizing item with
  | nil => exact List.nil_prefix
  | cons byte start ih =>
      cases item with
      | nil => exact absurd (List.nil_lt_cons byte (start ++ low)) above
      | cons first item =>
          simp only [List.cons_append, List.cons_lt_cons_iff, not_or, not_and] at above below
          have same : first = byte := UInt8.le_antisymm (UInt8.not_lt.mp below.1)
            (UInt8.not_lt.mp above.1)
          subst same
          exact (List.prefix_cons_inj first).mpr (ih (above.2 rfl) (below.2 rfl))

/-! ## Numbers -/

@[simp]
theorem bigEndian_length (width value : Nat) : (bigEndian width value).length = width := by
  induction width generalizing value with
  | zero => rfl
  | succ width ih => simp [bigEndian, ih]

@[simp]
theorem ofWord32_length (word : UInt32) : (ofWord32 word).length = 4 := bigEndian_length 4 _

@[simp]
theorem ofWord64_length (word : UInt64) : (ofWord64 word).length = 8 := bigEndian_length 8 _

/-- The first digit of a number is its quotient by the weight of that digit. -/
theorem digit_lt {width value : Nat} (bound : value < 256 ^ (width + 1)) :
    value / 256 ^ width < 256 :=
  Nat.div_lt_of_lt_mul (by rwa [Nat.pow_succ] at bound)

theorem foldl_bigEndian {width value : Nat} (bound : value < 256 ^ width) (before : Nat) :
    (bigEndian width value).foldl (fun value byte => value * 256 + byte.toNat) before =
      before * 256 ^ width + value := by
  induction width generalizing value before with
  | zero =>
      have zero : value = 0 := by simpa using bound
      simp [bigEndian, zero]
  | succ width ih =>
      have digit := digit_lt bound
      have rest : value % 256 ^ width < 256 ^ width :=
        Nat.mod_lt value (Nat.pow_pos (by decide))
      have split := Nat.div_add_mod value (256 ^ width)
      simp only [bigEndian, List.foldl_cons, Nat.pow_eq, UInt8.toNat_ofNat']
      rw [ih rest, Nat.mod_eq_of_lt digit, Nat.pow_succ, Nat.add_mul, Nat.mul_assoc,
        Nat.mul_comm 256, Nat.mul_comm (value / 256 ^ width), Nat.add_assoc, split]

theorem toNat_bigEndian {width value : Nat} (bound : value < 256 ^ width) :
    toNat (bigEndian width value) = value := by
  rw [toNat, foldl_bigEndian bound, Nat.zero_mul, Nat.zero_add]

theorem foldl_toNat (before : Nat) (bytes : Bytes) :
    bytes.foldl (fun value byte => value * 256 + byte.toNat) before =
      before * 256 ^ bytes.length + toNat bytes := by
  induction bytes generalizing before with
  | nil => simp [toNat]
  | cons byte rest ih =>
      rw [toNat, List.foldl_cons, List.foldl_cons, ih, ih, List.length_cons, Nat.pow_succ',
        Nat.zero_mul, Nat.zero_add, Nat.add_mul, Nat.mul_assoc, Nat.add_assoc]

theorem toNat_cons (byte : UInt8) (rest : Bytes) :
    toNat (byte :: rest) = byte.toNat * 256 ^ rest.length + toNat rest := by
  rw [toNat, List.foldl_cons, foldl_toNat, Nat.zero_mul, Nat.zero_add]

theorem toNat_lt (bytes : Bytes) : toNat bytes < 256 ^ bytes.length := by
  induction bytes with
  | nil => decide
  | cons byte rest ih =>
      have digit : byte.toNat + 1 ≤ 256 := byte.toNat_lt
      calc toNat (byte :: rest)
        _ = byte.toNat * 256 ^ rest.length + toNat rest := toNat_cons byte rest
        _ < byte.toNat * 256 ^ rest.length + 256 ^ rest.length := Nat.add_lt_add_left ih _
        _ = (byte.toNat + 1) * 256 ^ rest.length := (Nat.succ_mul _ _).symm
        _ ≤ 256 * 256 ^ rest.length := Nat.mul_le_mul_right _ digit
        _ = 256 ^ (byte :: rest).length := Nat.pow_succ'.symm

/-- A byte string is the number that it spells, in its own width. -/
theorem bigEndian_toNat (bytes : Bytes) : bigEndian bytes.length (toNat bytes) = bytes := by
  induction bytes with
  | nil => rfl
  | cons byte rest ih =>
      have positive : 0 < 256 ^ rest.length := Nat.pow_pos (by decide)
      have small := toNat_lt rest
      rw [List.length_cons, bigEndian, Nat.pow_eq, toNat_cons, Nat.mul_comm byte.toNat,
        Nat.mul_add_div positive, Nat.div_eq_of_lt small, Nat.add_zero, Nat.mul_add_mod,
        Nat.mod_eq_of_lt small, ih, UInt8.ofNat_toNat]

theorem bigEndian_injective (width : Nat) {left right : Nat} (leftBound : left < 256 ^ width)
    (rightBound : right < 256 ^ width) (same : bigEndian width left = bigEndian width right) :
    left = right := by
  rw [← toNat_bigEndian leftBound, same, toNat_bigEndian rightBound]

/-- Numbers of one width are in the order of their byte strings. -/
theorem bigEndian_lt_iff {width left right : Nat} (leftBound : left < 256 ^ width)
    (rightBound : right < 256 ^ width) :
    bigEndian width left < bigEndian width right ↔ left < right := by
  induction width generalizing left right with
  | zero =>
      simp only [Nat.pow_zero, Nat.lt_one_iff] at leftBound rightBound
      subst leftBound rightBound
      exact ⟨fun below => absurd below (List.lt_irrefl _), fun below => absurd below (by decide)⟩
  | succ width ih =>
      have positive : 0 < 256 ^ width := Nat.pow_pos (by decide)
      have leftDigit := digit_lt leftBound
      have rightDigit := digit_lt rightBound
      have leftSplit := Nat.div_add_mod left (256 ^ width)
      have rightSplit := Nat.div_add_mod right (256 ^ width)
      have leftRest := Nat.mod_lt left positive
      have rightRest := Nat.mod_lt right positive
      have firstLess : UInt8.ofNat (left / 256 ^ width) < UInt8.ofNat (right / 256 ^ width) ↔
          left / 256 ^ width < right / 256 ^ width := by
        rw [UInt8.lt_iff_toNat_lt, UInt8.toNat_ofNat', UInt8.toNat_ofNat',
          Nat.mod_eq_of_lt leftDigit, Nat.mod_eq_of_lt rightDigit]
      have firstSame : UInt8.ofNat (left / 256 ^ width) = UInt8.ofNat (right / 256 ^ width) ↔
          left / 256 ^ width = right / 256 ^ width := by
        rw [← UInt8.toNat_inj, UInt8.toNat_ofNat', UInt8.toNat_ofNat',
          Nat.mod_eq_of_lt leftDigit, Nat.mod_eq_of_lt rightDigit]
      simp only [bigEndian, List.cons_lt_cons_iff, Nat.pow_eq, firstLess, firstSame,
        ih leftRest rightRest]
      constructor
      · rintro (less | ⟨same, less⟩)
        · exact Nat.lt_of_not_le fun reverse =>
            absurd (Nat.div_le_div_right reverse) (Nat.not_le.mpr less)
        · rw [same] at leftSplit
          omega
      · intro less
        rcases Nat.lt_or_ge (left / 256 ^ width) (right / 256 ^ width) with below | atLeast
        · exact .inl below
        · have same : left / 256 ^ width = right / 256 ^ width :=
            Nat.le_antisymm (Nat.div_le_div_right (Nat.le_of_lt less)) atLeast
          rw [same] at leftSplit
          exact .inr ⟨same, by omega⟩

theorem word64_bound (word : UInt64) : word.toNat < 256 ^ 8 := word.toNat_lt

@[simp]
theorem toWord64_ofWord64 (word : UInt64) : toWord64 (ofWord64 word) = word := by
  rw [toWord64, ofWord64, toNat_bigEndian (word64_bound word), UInt64.ofNat_toNat]

theorem ofWord64_toWord64 {bytes : Bytes} (eight : bytes.length = 8) :
    ofWord64 (toWord64 bytes) = bytes := by
  have small := toNat_lt bytes
  rw [eight] at small
  rw [ofWord64, toWord64, UInt64.toNat_ofNat_of_lt' small, ← eight, bigEndian_toNat]

theorem ofWord64_injective {left right : UInt64} (same : ofWord64 left = ofWord64 right) :
    left = right := by
  rw [← toWord64_ofWord64 left, same, toWord64_ofWord64]

theorem ofWord32_injective {left right : UInt32} (same : ofWord32 left = ofWord32 right) :
    left = right :=
  UInt32.toNat_inj.mp (bigEndian_injective 4 left.toNat_lt right.toNat_lt same)

theorem ofWord64_lt_iff {left right : UInt64} : ofWord64 left < ofWord64 right ↔ left < right :=
  (bigEndian_lt_iff (word64_bound left) (word64_bound right)).trans UInt64.lt_iff_toNat_lt.symm

end SeriesIndex.Bytes
