/-!
# Decimal numerals

Reading and writing whole numbers in base ten, and the range of a signed 64-bit word, which is the
range of every number that enters from outside. Digits are the ASCII digits only. The main
statement, `value_digits`, says that the digits of a number read back as that number.
-/

namespace ContentWorkflow.Numeral

/-- The value of a digit character, meaningful on `'0'` to `'9'` only. -/
def digitValue (digit : Char) : Nat :=
  digit.toNat - '0'.toNat

/-- The character of a digit below ten. -/
def digitChar (digit : Nat) : Char :=
  Char.ofNat ('0'.toNat + digit)

/-- The number written by the digits, most significant first. -/
def value (digits : List Char) : Nat :=
  digits.foldl (fun total digit => 10 * total + digitValue digit) 0

/-- The digits of the number without leading zeros, most significant first. -/
def digits (number : Nat) : List Char :=
  if number < 10 then [digitChar number]
  else digits (number / 10) ++ [digitChar (number % 10)]

/-- The digits of the magnitude after a minus sign where the number is negative. -/
def signedDigits (number : Int) : List Char :=
  if number < 0 then '-' :: digits number.natAbs else digits number.natAbs

/-- The number fits a signed 64-bit word. -/
def FitsWord (number : Int) : Prop :=
  -9223372036854775808 ≤ number ∧ number ≤ 9223372036854775807

instance (number : Int) : Decidable (FitsWord number) :=
  inferInstanceAs (Decidable (_ ∧ _))

/-- The magnitude fits an unsigned 64-bit word. -/
def FitsUnsignedWord (number : Nat) : Prop :=
  number < UInt64.size

instance (number : Nat) : Decidable (FitsUnsignedWord number) :=
  inferInstanceAs (Decidable (_ < _))

/-- A non-empty run of digits as a number. -/
def ofDigits? (text : List Char) : Option Nat :=
  if text.isEmpty || !text.all Char.isDigit then none else some (value text)

/-- Digits after at most one sign. -/
def ofSigned? : List Char → Option Int
  | '-' :: rest => (ofDigits? rest).map fun magnitude => -(magnitude : Int)
  | '+' :: rest => (ofDigits? rest).map Int.ofNat
  | text => (ofDigits? text).map Int.ofNat

/-- A signed 64-bit word: digits after at most one sign, within the range of the word. -/
def word? (text : String) : Option Int :=
  (ofSigned? text.toList).filter fun number => decide (FitsWord number)

/-- An unsigned 64-bit word: digits after at most a plus sign, within the range of the word. -/
def unsignedWord? (text : String) : Option Nat :=
  let magnitude :=
    match text.toList with
    | '+' :: rest => ofDigits? rest
    | rest => ofDigits? rest
  magnitude.filter fun number => decide (FitsUnsignedWord number)

/-! ## Reading back -/

theorem digit_value_digit_char : ∀ digit < 10, digitValue (digitChar digit) = digit := by
  decide

theorem is_digit_digit_char : ∀ digit < 10, (digitChar digit).isDigit = true := by
  decide

theorem value_append (front : List Char) (last : Char) :
    value (front ++ [last]) = 10 * value front + digitValue last := by
  simp [value, List.foldl_append]

theorem value_digits (number : Nat) : value (digits number) = number := by
  induction number using digits.induct with
  | case1 number small =>
      rw [digits, if_pos small]
      simp [value, digit_value_digit_char number small]
  | case2 number large ih =>
      rw [digits, if_neg large, value_append, ih, digit_value_digit_char _ (by omega)]
      omega

theorem is_digit_of_mem_digits (number : Nat) : ∀ digit ∈ digits number, digit.isDigit = true := by
  induction number using digits.induct with
  | case1 number small =>
      rw [digits, if_pos small]
      simp [is_digit_digit_char number small]
  | case2 number large ih =>
      rw [digits, if_neg large]
      intro digit hmem
      rcases List.mem_append.1 hmem with h | h
      · exact ih digit h
      · rw [List.mem_singleton.1 h]
        exact is_digit_digit_char _ (by omega)

theorem digits_ne_nil (number : Nat) : digits number ≠ [] := by
  rw [digits]
  split <;> simp

/-- Only zero is written with a leading zero, and then as the single digit. -/
theorem head_digits_eq_zero {number : Nat} (h : (digits number).head? = some '0') :
    number = 0 := by
  induction number using digits.induct with
  | case1 number small =>
      rw [digits, if_pos small] at h
      revert h
      revert number
      decide
  | case2 number large ih =>
      rw [digits, if_neg large] at h
      have hhead : (digits (number / 10)).head? = some '0' := by
        cases hd : digits (number / 10) with
        | nil => exact absurd hd (digits_ne_nil _)
        | cons first rest => simpa [hd] using h
      have := ih hhead
      omega

end ContentWorkflow.Numeral
