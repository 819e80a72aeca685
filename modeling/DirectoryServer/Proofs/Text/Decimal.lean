import DirectoryServer.Text.Decimal
import DirectoryServer.Proofs.Text.Utf8

set_option autoImplicit false

namespace DirectoryServer.Text

theorem digit_digit_char (d : Nat) (small : d < 10) : digit? (Nat.digitChar d) = some d := by
  have table : ∀ d < 10, digit? (Nat.digitChar d) = some d := by decide
  exact table d small

theorem read_digits_append (limit : Nat) (overflow : DecimalError) (acc middle : Nat)
    (front back : List Char) (read : readDigits limit overflow acc front = .ok middle) :
    readDigits limit overflow acc (front ++ back) = readDigits limit overflow middle back := by
  induction front generalizing acc with
  | nil =>
      cases read
      rfl
  | cons c front ih =>
      rw [readDigits] at read
      rw [List.cons_append, readDigits]
      cases digit : digit? c with
      | none =>
          rw [digit] at read
          cases read
      | some d =>
          rw [digit] at read
          dsimp only at read ⊢
          by_cases large : limit < acc * 10 + d
          · rw [if_pos large] at read
            cases read
          · rw [if_neg large] at read ⊢
            exact ih _ read

-- The induction takes the last digit off.
theorem read_digits_print (limit : Nat) (overflow : DecimalError) (n : Nat) (fits : n ≤ limit) :
    readDigits limit overflow 0 (natDigits n) = .ok n := by
  induction n using Nat.strongRecOn with
  | ind n ih =>
      have last : ∀ acc, acc * 10 + n % 10 = n →
          readDigits limit overflow acc [Nat.digitChar (n % 10)] = .ok n := by
        intro acc whole
        rw [readDigits, digit_digit_char _ (Nat.mod_lt n (by decide))]
        dsimp only
        rw [whole, if_neg (Nat.not_lt_of_le fits)]
        rfl
      rw [natDigits]
      by_cases small : n < 10
      · rw [Nat.toDigits_of_lt_base small]
        have one := last 0 (by omega)
        rwa [Nat.mod_eq_of_lt small] at one
      · rw [Nat.toDigits_of_base_le (by decide) (Nat.le_of_not_lt small)]
        have front := ih (n / 10) (by omega) (by omega)
        rw [natDigits] at front
        rw [read_digits_append limit overflow 0 (n / 10) _ _ front]
        exact last (n / 10) (by omega)

theorem nat_digits_cons (n : Nat) : ∃ c rest, natDigits n = c :: rest ∧ c ≠ '-' ∧ c ≠ '+' := by
  cases digits : natDigits n with
  | nil => exact absurd digits Nat.toDigits_ne_nil
  | cons c rest =>
      have digit : c.isDigit = true :=
        Nat.isDigit_of_mem_toDigits (by decide) (by decide) (digits ▸ List.mem_cons_self)
      refine ⟨c, rest, rfl, ?_, ?_⟩ <;> rintro rfl <;> cases digit

theorem read_magnitude_print (limit : Nat) (overflow : DecimalError) (n : Nat) (fits : n ≤ limit) :
    readMagnitude limit overflow (natDigits n) = .ok n := by
  obtain ⟨c, rest, digits, _⟩ := nat_digits_cons n
  have read := read_digits_print limit overflow n fits
  rw [digits] at read ⊢
  exact read

theorem read_nat_digits (n : Nat) (fits : n ≤ maxInt64) :
    readInt64Chars (natDigits n) = .ok (positive n) := by
  obtain ⟨c, rest, digits, minus, plus⟩ := nat_digits_cons n
  have read := read_magnitude_print maxInt64 .tooLarge n fits
  rw [digits] at read ⊢
  unfold readInt64Chars
  split
  · rename_i empty
    cases empty
  · rename_i same
    exact absurd (List.cons.inj same).1 minus
  · rename_i same
    exact absurd (List.cons.inj same).1 plus
  · rw [read]
    rfl

theorem positive_toInt (n : Nat) (fits : n ≤ maxInt64) : (positive n).toInt = n := by
  unfold maxInt64 at fits
  exact Int64.toInt_ofInt_of_le (n := Int.ofNat n) (by simp only [Int.ofNat_eq_natCast]; omega)
    (by simp only [Int.ofNat_eq_natCast]; omega)

theorem read_int64_digits (value : Int64) : readInt64Chars (int64Digits value) = .ok value := by
  have least := value.le_toInt
  have most := value.toInt_lt
  unfold int64Digits
  by_cases negative : value.toInt < 0
  · rw [if_pos negative, readInt64Chars,
      read_magnitude_print _ _ _ (by unfold maxInt64; omega)]
    have same : -Int.ofNat value.toInt.natAbs = value.toInt := by
      rw [Int.ofNat_eq_natCast]
      omega
    exact congrArg Except.ok ((congrArg Int64.ofInt same).trans (Int64.ofInt_toInt value))
  · rw [if_neg negative, read_nat_digits _ (by unfold maxInt64; omega)]
    have same : Int.ofNat value.toInt.natAbs = value.toInt := by
      rw [Int.ofNat_eq_natCast]
      omega
    exact congrArg Except.ok ((congrArg Int64.ofInt same).trans (Int64.ofInt_toInt value))

theorem int64_digits_chars (value : Int64) : ∀ c ∈ int64Digits value, c = '-' ∨ c.isDigit = true := by
  intro c member
  unfold int64Digits at member
  by_cases negative : value.toInt < 0
  · rw [if_pos negative, List.mem_cons] at member
    rcases member with minus | member
    · exact .inl minus
    · exact .inr (Nat.isDigit_of_mem_toDigits (by decide) (by decide) member)
  · rw [if_neg negative] at member
    exact .inr (Nat.isDigit_of_mem_toDigits (by decide) (by decide) member)

theorem nat_digits_small (n : Nat) (small : n < 10) : (natDigits n).length = 1 := by
  rw [natDigits, Nat.toDigits_of_lt_base small]
  rfl

theorem nat_digits_next (acc d : Nat) (digit : d < 10) :
    (natDigits (acc * 10 + d)).length ≤ (natDigits acc).length + 1 := by
  by_cases small : acc * 10 + d < 10
  · rw [nat_digits_small _ small]
    exact Nat.le_add_left 1 _
  · rw [natDigits, Nat.toDigits_of_base_le (by decide) (Nat.le_of_not_lt small), List.length_append,
      show (acc * 10 + d) / 10 = acc by omega]
    exact Nat.le_refl _

theorem digit_small (c : Char) (d : Nat) (digit : digit? c = some d) : d < 10 := by
  rw [digit?] at digit
  split at digit
  · rename_i range
    cases digit
    have most : c.toNat ≤ '9'.toNat := range.2
    have nine : '9'.toNat = 57 := rfl
    omega
  · cases digit

theorem read_digits_length (limit : Nat) (overflow : DecimalError) (acc n : Nat) (text : List Char)
    (read : readDigits limit overflow acc text = .ok n) :
    (natDigits n).length ≤ (natDigits acc).length + text.length := by
  induction text generalizing acc with
  | nil =>
      cases read
      exact Nat.le_refl _
  | cons c rest ih =>
      rw [readDigits] at read
      cases digit : digit? c with
      | none =>
          rw [digit] at read
          cases read
      | some d =>
          rw [digit] at read
          dsimp only at read
          split at read
          · cases read
          · have next := nat_digits_next acc d (digit_small c d digit)
            have later := ih _ read
            rw [List.length_cons]
            omega

theorem read_digits_within (limit : Nat) (overflow : DecimalError) (acc n : Nat) (text : List Char)
    (read : readDigits limit overflow acc text = .ok n) (inside : acc ≤ limit) : n ≤ limit := by
  induction text generalizing acc with
  | nil =>
      cases read
      exact inside
  | cons c rest ih =>
      rw [readDigits] at read
      split at read
      · cases read
      · split at read
        · cases read
        · exact ih _ read (by omega)

theorem read_magnitude_length (limit : Nat) (overflow : DecimalError) (n : Nat) (text : List Char)
    (read : readMagnitude limit overflow text = .ok n) :
    n ≤ limit ∧ (natDigits n).length ≤ text.length := by
  cases text with
  | nil => cases read
  | cons c rest =>
      rw [readMagnitude.eq_2 _ _ _ (by simp)] at read
      refine ⟨read_digits_within _ _ _ _ _ read (Nat.zero_le _), ?_⟩
      rw [readDigits] at read
      cases digit : digit? c with
      | none =>
          rw [digit] at read
          cases read
      | some d =>
          rw [digit] at read
          dsimp only at read
          split at read
          · cases read
          · have later := read_digits_length _ _ _ _ _ read
            rw [Nat.zero_mul, Nat.zero_add, nat_digits_small d (digit_small c d digit)] at later
            rw [List.length_cons]
            omega

theorem int64_digits_positive (n : Nat) (fits : n ≤ maxInt64) : int64Digits (positive n) = natDigits n := by
  have value := positive_toInt n fits
  rw [int64Digits, value, if_neg (Int.not_lt_of_ge (Int.natCast_nonneg n))]
  rfl

theorem int64_digits_negative (n : Nat) (fits : n ≤ maxInt64 + 1) :
    (int64Digits (negative n)).length ≤ (natDigits n).length + 1 := by
  unfold maxInt64 at fits
  have value : (negative n).toInt = -(n : Int) := by
    rw [negative, Int64.toInt_ofInt_of_le (by simp only [Int.ofNat_eq_natCast]; omega)
      (by simp only [Int.ofNat_eq_natCast]; omega)]
    rfl
  rw [int64Digits, value]
  split
  · exact Nat.le_of_eq (by rw [List.length_cons, Int.natAbs_neg, Int.natAbs_natCast])
  · rw [Int.natAbs_neg, Int.natAbs_natCast]
    exact Nat.le_succ _

theorem int64_digits_shortest (text : List Char) (value : Int64) (read : readInt64Chars text = .ok value) :
    (int64Digits value).length ≤ text.length := by
  unfold readInt64Chars at read
  split at read
  · cases read
  · obtain ⟨n, magnitude, rfl⟩ := (map_ok_iff _ _ _).mp read
    obtain ⟨fits, short⟩ := read_magnitude_length _ _ _ _ magnitude
    have minus := int64_digits_negative n fits
    rw [List.length_cons]
    omega
  · obtain ⟨n, magnitude, rfl⟩ := (map_ok_iff _ _ _).mp read
    obtain ⟨fits, short⟩ := read_magnitude_length _ _ _ _ magnitude
    rw [int64_digits_positive n fits, List.length_cons]
    exact Nat.le_succ_of_le short
  · obtain ⟨n, magnitude, rfl⟩ := (map_ok_iff _ _ _).mp read
    obtain ⟨fits, short⟩ := read_magnitude_length _ _ _ _ magnitude
    rwa [int64_digits_positive n fits]

end DirectoryServer.Text
