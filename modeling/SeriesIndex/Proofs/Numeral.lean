import SeriesIndex.Text.Numeral

/-!
# Reading decimal numerals

A run of digits is read as the number that it is the numeral of, if that is not above the bound. So
numbers are read back from their decimal form.
-/

namespace SeriesIndex.Text.Numeral

variable {bound value : Nat} {digits : List Char}

/-- Digits that follow a number never make it smaller. -/
theorem le_ofDigitChars : value ≤ Nat.ofDigitChars 10 digits value := by
  induction digits generalizing value with
  | nil => simp
  | cons char rest ih =>
      rw [Nat.ofDigitChars_cons]
      exact Nat.le_trans (by omega) ih

/-- A digit follows the number already read. -/
theorem ofDigitChars_next (char : Char) (rest : List Char) (value : Nat) :
    Nat.ofDigitChars 10 (char :: rest) value =
      Nat.ofDigitChars 10 rest (value * 10 + (char.toNat - 48)) := by
  rw [Nat.ofDigitChars_cons, Nat.mul_comm]
  rfl

theorem readDigits_eq (decimal : ∀ char ∈ digits, char.isDigit = true)
    (fits : Nat.ofDigitChars 10 digits value ≤ bound) :
    readDigits bound value digits = .ok (Nat.ofDigitChars 10 digits value) := by
  induction digits generalizing value with
  | nil => simp [readDigits]
  | cons char rest ih =>
      obtain ⟨here, later⟩ := List.forall_mem_cons.mp decimal
      rw [ofDigitChars_next] at fits ⊢
      rw [readDigits, digit?, if_pos here]
      dsimp only
      rw [if_pos (Nat.le_trans le_ofDigitChars fits)]
      exact ih later fits

/-- No sign stands in front of a run of digits. -/
theorem read_eq_readDigits (filled : digits ≠ []) (decimal : ∀ char ∈ digits, char.isDigit = true) :
    read bound digits = readDigits bound 0 digits := by
  have unsigned : digits.head? ≠ some '+' := by
    intro sign
    exact absurd (decimal '+' (List.mem_of_mem_head? sign)) (by decide)
  unfold read
  split
  · exact absurd rfl filled
  · exact absurd rfl unsigned
  · exact absurd rfl unsigned
  · rfl

theorem read_eq (filled : digits ≠ []) (decimal : ∀ char ∈ digits, char.isDigit = true)
    (fits : Nat.ofDigitChars 10 digits 0 ≤ bound) :
    read bound digits = .ok (Nat.ofDigitChars 10 digits 0) := by
  rw [read_eq_readDigits filled decimal, readDigits_eq decimal fits]

/-! ## What is read -/

theorem decimal_of_readDigits {number : Nat} (taken : readDigits bound value digits = .ok number) :
    ∀ char ∈ digits, char.isDigit = true := by
  induction digits generalizing value with
  | nil => nofun
  | cons char rest ih =>
      rw [readDigits, digit?] at taken
      by_cases decimal : char.isDigit = true
      · rw [if_pos decimal] at taken
        dsimp only at taken
        split at taken
        · exact List.forall_mem_cons.mpr ⟨decimal, ih taken⟩
        · cases taken
      · rw [if_neg decimal] at taken
        cases taken

/-- No number above the bound is read. -/
theorem ofDigitChars_of_readDigits {number : Nat} (small : value ≤ bound)
    (taken : readDigits bound value digits = .ok number) :
    Nat.ofDigitChars 10 digits value = number ∧ number ≤ bound := by
  induction digits generalizing value with
  | nil =>
      cases taken
      exact ⟨rfl, small⟩
  | cons char rest ih =>
      have here := decimal_of_readDigits taken char (.head _)
      rw [readDigits, digit?, if_pos here] at taken
      dsimp only at taken
      split at taken
      · next fits =>
          rw [ofDigitChars_next]
          exact ih fits taken
      · cases taken

theorem word64?_eq_some {word : UInt64} :
    word64? digits = some word ↔ ∃ number, read maxWord64 digits = .ok number ∧
      UInt64.ofNat number = word := by
  rw [word64?, Option.map_eq_some_iff]
  cases read maxWord64 digits with
  | error fault => simp [Except.toOption]
  | ok number => simp [Except.toOption]

/-- A run of digits is read as a word exactly if it is the numeral of that word, with any zeros in
front of it. -/
theorem word64?_eq_some_iff (filled : digits ≠ []) (decimal : ∀ char ∈ digits, char.isDigit = true)
    {word : UInt64} : word64? digits = some word ↔ Nat.ofDigitChars 10 digits 0 = word.toNat := by
  rw [word64?_eq_some]
  constructor
  · rintro ⟨number, taken, rfl⟩
    rw [read_eq_readDigits filled decimal] at taken
    obtain ⟨spelled, fits⟩ := ofDigitChars_of_readDigits (Nat.zero_le _) taken
    rw [spelled, UInt64.toNat_ofNat_of_lt' (Nat.lt_succ_of_le fits)]
  · intro spelled
    have fits : Nat.ofDigitChars 10 digits 0 ≤ maxWord64 :=
      spelled ▸ Nat.le_of_lt_succ word.toNat_lt
    exact ⟨_, read_eq filled decimal fits, spelled ▸ UInt64.ofNat_toNat⟩

/-- A word is read back from its decimal form. -/
theorem word64?_toDigits (word : UInt64) :
    word64? (Nat.toDigits 10 word.toNat) = some word := by
  have decimal : ∀ char ∈ Nat.toDigits 10 word.toNat, char.isDigit = true := fun _ inside =>
    Nat.isDigit_of_mem_toDigits (by decide) (by decide) inside
  exact (word64?_eq_some_iff Nat.toDigits_ne_nil decimal).mpr Nat.ofDigitChars_ten_toDigits

/-- A numeral has a character, and none but digits and plus signs. -/
theorem plain_of_word64? {word : UInt64} (taken : word64? digits = some word) :
    digits ≠ [] ∧ ∀ char ∈ digits, char = '+' ∨ char.isDigit = true := by
  obtain ⟨number, number, -⟩ := word64?_eq_some.mp taken
  unfold read at number
  split at number
  · cases number
  · cases number
  · exact ⟨List.cons_ne_nil _ _, List.forall_mem_cons.mpr
      ⟨.inl rfl, fun char inside => .inr (decimal_of_readDigits number char inside)⟩⟩
  · next filled _ _ =>
      exact ⟨filled, fun char inside => .inr (decimal_of_readDigits number char inside)⟩

end SeriesIndex.Text.Numeral
