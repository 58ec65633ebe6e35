import SeriesIndex.Text.Utf8

/-!
# Reading encoded characters

A character is read off the front of a byte string only where its encoding stands there. The forms
that are refused are those for which the number put together from the bytes is encoded otherwise, or
is no character. Where the encoding of a character stands it is read, so the bytes of every text
decode to the text.
-/

namespace SeriesIndex.Text.Utf8

theorem val_ofNat {code : Nat} (valid : code.isValidChar) :
    (Char.ofNat code).val.toNat = code := by
  rw [Char.ofNat, dif_pos valid]
  rfl

theorem isContinuation_bounds {byte : UInt8} (continues : isContinuation byte = true) :
    0x80 ≤ byte.toNat ∧ byte.toNat ≤ 0xBF := by
  simpa [isContinuation, UInt8.le_iff_toNat_le] using continues

/-- The second byte of a longer character is a continuation, and bounded further after those first
bytes with which a number could be too small, a surrogate or too large. -/
theorem mayFollow_bounds {first second : UInt8} (follows : mayFollow first second = true) :
    (0x80 ≤ second.toNat ∧ second.toNat ≤ 0xBF) ∧
      (first.toNat = 0xE0 → 0xA0 ≤ second.toNat) ∧ (first.toNat = 0xED → second.toNat ≤ 0x9F) ∧
      (first.toNat = 0xF0 → 0x90 ≤ second.toNat) ∧ (first.toNat = 0xF4 → second.toNat ≤ 0x8F) := by
  simp only [mayFollow, isContinuation, ← UInt8.toNat_inj, UInt8.reduceToNat] at follows
  repeat' split at follows
  all_goals
    simp only [Bool.and_eq_true, decide_eq_true_eq, UInt8.le_iff_toNat_le, UInt8.reduceToNat]
      at follows
    omega

section Encoding

variable {first second third fourth : UInt8}

theorem encode_one (high : first < 0x80) :
    String.utf8EncodeChar (Char.ofNat first.toNat) = [first] := by
  have bound : first.toNat < 0x80 := UInt8.lt_iff_toNat_lt.mp high
  have valid : first.toNat.isValidChar := .inl (by omega)
  simp only [String.utf8EncodeChar, val_ofNat valid]
  rw [if_pos (by omega), UInt8.ofNat_toNat]

theorem encode_two (low : ¬ first < 0xC2) (high : first < 0xE0)
    (continues : isContinuation second = true) :
    String.utf8EncodeChar (Char.ofNat (first.toNat % 32 * 64 + payload second)) =
      [first, second] := by
  have bounds := isContinuation_bounds continues
  simp only [UInt8.lt_iff_toNat_lt, UInt8.reduceToNat] at low high
  simp only [payload]
  have valid : (first.toNat % 32 * 64 + second.toNat % 64).isValidChar := .inl (by omega)
  simp only [String.utf8EncodeChar, val_ofNat valid]
  rw [if_neg (by omega), if_pos (by omega)]
  simp only [List.cons.injEq, and_true, ← UInt8.toNat_inj, UInt8.toNat_ofNat']
  omega

theorem encode_three (low : ¬ first < 0xE0) (high : first < 0xF0)
    (follows : mayFollow first second = true) (continues : isContinuation third = true) :
    String.utf8EncodeChar (Char.ofNat ((first.toNat % 16 * 64 + payload second) * 64 +
      payload third)) = [first, second, third] := by
  have bounds := isContinuation_bounds continues
  obtain ⟨within, overlong, surrogate, -, -⟩ := mayFollow_bounds follows
  simp only [UInt8.lt_iff_toNat_lt, UInt8.reduceToNat] at low high
  simp only [payload]
  have valid : ((first.toNat % 16 * 64 + second.toNat % 64) * 64 +
      third.toNat % 64).isValidChar := by
    rw [Nat.isValidChar]
    omega
  simp only [String.utf8EncodeChar, val_ofNat valid]
  rw [if_neg (by omega), if_neg (by omega), if_pos (by omega)]
  simp only [List.cons.injEq, and_true, ← UInt8.toNat_inj, UInt8.toNat_ofNat']
  omega

theorem encode_four (low : ¬ first < 0xF0) (high : first < 0xF5)
    (follows : mayFollow first second = true) (continues : isContinuation third = true)
    (ends : isContinuation fourth = true) :
    String.utf8EncodeChar (Char.ofNat (((first.toNat % 8 * 64 + payload second) * 64 +
      payload third) * 64 + payload fourth)) = [first, second, third, fourth] := by
  have thirdBounds := isContinuation_bounds continues
  have fourthBounds := isContinuation_bounds ends
  obtain ⟨within, -, -, overlong, beyond⟩ := mayFollow_bounds follows
  simp only [UInt8.lt_iff_toNat_lt, UInt8.reduceToNat] at low high
  simp only [payload]
  have valid : (((first.toNat % 8 * 64 + second.toNat % 64) * 64 + third.toNat % 64) * 64 +
      fourth.toNat % 64).isValidChar := by
    rw [Nat.isValidChar]
    omega
  simp only [String.utf8EncodeChar, val_ofNat valid]
  rw [if_neg (by omega), if_neg (by omega), if_neg (by omega)]
  simp only [List.cons.injEq, and_true, ← UInt8.toNat_inj, UInt8.toNat_ofNat']
  omega

end Encoding

/-- What is read as a character is its encoding. -/
theorem head_char {bytes : Bytes} {char : Char} {width : Nat}
    (read : head bytes = .char char width) : bytes.take width = String.utf8EncodeChar char := by
  unfold head at read
  repeat' split at read
  all_goals cases read
  · next high => exact (encode_one high).symm
  · next low high _ _ _ continues => exact (encode_two low high continues).symm
  · next low high _ _ follows _ _ _ continues =>
      exact (encode_three low high follows continues).symm
  · next low high _ _ follows _ _ continues _ _ _ ends =>
      exact (encode_four low high follows continues ends).symm

theorem char?_take {bytes : Bytes} {char : Char} {width : Nat}
    (read : char? bytes = some (char, width)) :
    bytes.take width = String.utf8EncodeChar char := by
  rw [char?] at read
  split at read
  · next whole =>
      cases read
      exact head_char whole
  · cases read

/-! ## Reading what was encoded -/

theorem isContinuation_of_bounds {byte : UInt8} (low : 0x80 ≤ byte.toNat)
    (high : byte.toNat ≤ 0xBF) : isContinuation byte = true := by
  simpa [isContinuation, UInt8.le_iff_toNat_le] using And.intro low high

theorem mayFollow_of_bounds {first second : UInt8} (low : 0x80 ≤ second.toNat)
    (high : second.toNat ≤ 0xBF) (overlong : first.toNat = 0xE0 → 0xA0 ≤ second.toNat)
    (surrogate : first.toNat = 0xED → second.toNat ≤ 0x9F)
    (short : first.toNat = 0xF0 → 0x90 ≤ second.toNat)
    (beyond : first.toNat = 0xF4 → second.toNat ≤ 0x8F) : mayFollow first second = true := by
  simp only [mayFollow, isContinuation, ← UInt8.toNat_inj, UInt8.reduceToNat]
  repeat' split
  all_goals
    simp only [Bool.and_eq_true, decide_eq_true_eq, UInt8.le_iff_toNat_le, UInt8.reduceToNat]
    omega

section Heads

variable {first second third fourth : UInt8} {rest : Bytes}

theorem head_one (high : first.toNat < 0x80) :
    head (first :: rest) = .char (Char.ofNat first.toNat) 1 := by
  simp only [head, UInt8.lt_iff_toNat_lt, UInt8.reduceToNat]
  rw [if_pos high]

theorem head_two (low : 0xC2 ≤ first.toNat) (high : first.toNat < 0xE0)
    (continues : isContinuation second = true) :
    head (first :: second :: rest) =
      .char (Char.ofNat (first.toNat % 32 * 64 + payload second)) 2 := by
  simp only [head, UInt8.lt_iff_toNat_lt, UInt8.reduceToNat]
  rw [if_neg (by omega), if_neg (by omega), if_pos high, if_pos continues]

theorem head_three (low : 0xE0 ≤ first.toNat) (high : first.toNat < 0xF0)
    (follows : mayFollow first second = true) (continues : isContinuation third = true) :
    head (first :: second :: third :: rest) =
      .char (Char.ofNat ((first.toNat % 16 * 64 + payload second) * 64 + payload third)) 3 := by
  simp only [head, UInt8.lt_iff_toNat_lt, UInt8.reduceToNat]
  rw [if_neg (by omega), if_neg (by omega), if_neg (by omega), if_pos high, if_pos follows,
    if_pos continues]

theorem head_four (low : 0xF0 ≤ first.toNat) (high : first.toNat < 0xF5)
    (follows : mayFollow first second = true) (continues : isContinuation third = true)
    (ends : isContinuation fourth = true) :
    head (first :: second :: third :: fourth :: rest) =
      .char (Char.ofNat (((first.toNat % 8 * 64 + payload second) * 64 + payload third) * 64 +
        payload fourth)) 4 := by
  simp only [head, UInt8.lt_iff_toNat_lt, UInt8.reduceToNat]
  rw [if_neg (by omega), if_neg (by omega), if_neg (by omega), if_neg (by omega), if_pos high,
    if_pos follows, if_pos continues, if_pos ends]

end Heads

/-- The encoding of a character reads as the character, whatever follows. -/
theorem head_encoded (char : Char) (rest : Bytes) :
    head (String.utf8EncodeChar char ++ rest) =
      .char char (String.utf8EncodeChar char).length := by
  have valid : char.val.toNat < 0xD800 ∨ 0xDFFF < char.val.toNat ∧ char.val.toNat < 0x110000 :=
    char.valid
  have whole : Char.ofNat char.val.toNat = char := Char.ofNat_toNat char
  unfold String.utf8EncodeChar
  dsimp only
  generalize char.val.toNat = code at valid whole ⊢
  have byte : ∀ part : Nat, part < 256 → (UInt8.ofNat part).toNat = part := fun _ small =>
    UInt8.toNat_ofNat_of_lt' small
  -- one case for each width of the encoding
  by_cases one : code ≤ 0x7F
  · have first := byte code (by omega)
    rw [if_pos one]
    refine (head_one (by omega)).trans ?_
    rw [first, whole]
    rfl
  by_cases two : code ≤ 0x7FF
  · have first := byte (code / 64 % 32 + 192) (by omega)
    have second := byte (code % 64 + 128) (by omega)
    rw [if_neg one, if_pos two]
    refine (head_two (by omega) (by omega)
      (isContinuation_of_bounds (by omega) (by omega))).trans ?_
    have spelled : (code / 64 % 32 + 192) % 32 * 64 + (code % 64 + 128) % 64 = code := by
      omega
    rw [payload, first, second, spelled, whole]
    rfl
  by_cases three : code ≤ 0xFFFF
  · have first := byte (code / 4096 % 16 + 224) (by omega)
    have second := byte (code / 64 % 64 + 128) (by omega)
    have third := byte (code % 64 + 128) (by omega)
    rw [if_neg one, if_neg two, if_pos three]
    refine (head_three (by omega) (by omega)
      (mayFollow_of_bounds (by omega) (by omega) (by omega) (by omega) (by omega) (by omega))
      (isContinuation_of_bounds (by omega) (by omega))).trans ?_
    have spelled : ((code / 4096 % 16 + 224) % 16 * 64 + (code / 64 % 64 + 128) % 64) * 64 +
        (code % 64 + 128) % 64 = code := by
      omega
    rw [payload, payload, first, second, third, spelled, whole]
    rfl
  · have first := byte (code / 262144 % 8 + 240) (by omega)
    have second := byte (code / 4096 % 64 + 128) (by omega)
    have third := byte (code / 64 % 64 + 128) (by omega)
    have fourth := byte (code % 64 + 128) (by omega)
    rw [if_neg one, if_neg two, if_neg three]
    refine (head_four (by omega) (by omega)
      (mayFollow_of_bounds (by omega) (by omega) (by omega) (by omega) (by omega) (by omega))
      (isContinuation_of_bounds (by omega) (by omega))
      (isContinuation_of_bounds (by omega) (by omega))).trans ?_
    have spelled : (((code / 262144 % 8 + 240) % 8 * 64 + (code / 4096 % 64 + 128) % 64) * 64 +
        (code / 64 % 64 + 128) % 64) * 64 + (code % 64 + 128) % 64 = code := by
      omega
    rw [payload, payload, payload, first, second, third, fourth, spelled, whole]
    rfl

theorem chars_encoded (text : List Char) (index : Nat) :
    chars index (text.flatMap String.utf8EncodeChar) = .ok text := by
  induction text generalizing index with
  | nil =>
      rw [List.flatMap_nil, chars]
  | cons char text ih =>
      have read := head_encoded char (text.flatMap String.utf8EncodeChar)
      have filled : (String.utf8EncodeChar char).length ≠ 0 := by
        rw [String.length_utf8EncodeChar]
        exact Nat.ne_of_gt (Char.utf8Size_pos char)
      rw [List.flatMap_cons]
      generalize String.utf8EncodeChar char = encoded at read filled ⊢
      cases encoded with
      | nil => exact absurd rfl filled
      | cons first more =>
          rw [List.cons_append] at read ⊢
          rw [chars, read]
          dsimp only
          rw [List.length_cons, Nat.add_sub_cancel, List.drop_left, ih]
          rfl

theorem ofText_eq_encoded (text : String) :
    Bytes.ofText text = text.toList.flatMap String.utf8EncodeChar := by
  rw [Bytes.ofText, ← String.utf8Encode_toList, List.utf8Encode, List.toList_data_toByteArray]

/-- The bytes of a text decode to the text. -/
theorem decode_ofText (text : String) : decode (Bytes.ofText text) = .ok text := by
  rw [decode, ofText_eq_encoded, chars_encoded]
  exact congrArg Except.ok String.ofList_toList

theorem char?_encoded (char : Char) (rest : Bytes) :
    char? (String.utf8EncodeChar char ++ rest) =
      some (char, (String.utf8EncodeChar char).length) := by
  rw [char?, head_encoded]

/-- Texts with the same bytes have the same characters. -/
theorem encoded_injective {left right : List Char}
    (same : left.flatMap String.utf8EncodeChar = right.flatMap String.utf8EncodeChar) :
    left = right := by
  have read := chars_encoded left 0
  rw [same, chars_encoded right 0] at read
  exact (Except.ok.inj read).symm

end SeriesIndex.Text.Utf8
