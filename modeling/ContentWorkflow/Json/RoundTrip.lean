import ContentWorkflow.Json.Reader

/-!
# What is printed reads back

The main statement, `parse_render`, says that the text of every value is read as that value: every
string (quotes, control characters and characters outside the ASCII range included), every number
literal, every nesting. It rests on one lemma a token: `read_text_print_text`,
`read_number_print_number`, and `read_value_print` for the values built from them.
-/

namespace ContentWorkflow.Json

/-! ## Strings -/

/-- A hexadecimal digit is read as the number it was written for. -/
theorem hex_value_hex_digit : ∀ digit < 16, hexValue? (hexDigit digit) = some digit := by
  decide

/-- The letter of a short escape is read as the character it was written for. -/
theorem short_escape_of_short_letter {char letter : Char} (h : shortLetter? char = some letter) :
    shortEscape? letter = some char ∧ letter ≠ 'u' := by
  unfold shortLetter? at h
  split at h <;> simp_all <;> subst h <;> decide

/-- A character without a short escape is neither a quote nor a backslash. -/
theorem ne_of_short_letter_eq_none {char : Char} (h : shortLetter? char = none) :
    char ≠ '"' ∧ char ≠ '\\' := by
  refine ⟨?_, ?_⟩ <;> rintro rfl <;> simp [shortLetter?] at h

/-- An escaped character is read as the one unit it stands for. -/
theorem read_units_escape (char : Char) (rest : List Char) :
    readUnits (escape char ++ rest) =
      (readUnits rest).map fun (units, rest) => (char.toNat :: units, rest) := by
  unfold escape
  cases hletter : shortLetter? char with
  | some letter =>
      obtain ⟨hmeans, hplain⟩ := short_escape_of_short_letter hletter
      show readUnits ('\\' :: letter :: rest) = _
      rw [readUnits.eq_def]
      split
      · simp_all
      · simp_all
      · next meant tail _ heq =>
          obtain ⟨rfl, rfl⟩ := List.cons.inj (List.cons.inj heq).2
          simp only [hmeans]
          cases readUnits rest <;> rfl
      · next head tail _ _ hno heq =>
          obtain ⟨rfl, rfl⟩ := List.cons.inj heq
          exact absurd rfl (hno letter rest rfl)
      · simp_all
  | none =>
      obtain ⟨hquote, hslash⟩ := ne_of_short_letter_eq_none hletter
      by_cases hlow : char.toNat < 0x20
      · have hhigh := hex_value_hex_digit (char.toNat / 16) (by omega)
        have hrest := hex_value_hex_digit (char.toNat % 16) (by omega)
        have hzero : hexValue? '0' = some 0 := by decide
        have hunit : char.toNat / 16 * 16 + char.toNat % 16 = char.toNat := by omega
        cases hunits : readUnits rest <;>
          simp [hlow, readUnits, hexQuad?, hhigh, hrest, hzero, hunit, hunits]
      · simp only [hlow, if_false, List.singleton_append]
        rw [readUnits.eq_def]
        split
        · simp_all
        · simp_all
        · simp_all
        · next head tail _ _ heq =>
            obtain ⟨rfl, rfl⟩ := List.cons.inj heq
            simp only [hlow]
            cases readUnits rest <;> rfl
        · simp_all

/-- The escaped characters of a string are read up to the quote that closes it. -/
theorem read_units_flat_map_escape (chars rest : List Char) :
    readUnits (chars.flatMap escape ++ '"' :: rest) = some (chars.map Char.toNat, rest) := by
  induction chars with
  | nil => simp [readUnits]
  | cons first chars ih =>
      rw [List.flatMap_cons, List.append_assoc, read_units_escape, ih]
      rfl

/-- The unit of a character is no half of a surrogate pair. -/
theorem not_pair_to_nat (char : Char) :
    opensPair char.toNat = false ∧ closesPair char.toNat = false := by
  have hvalid : char.toNat < 0xd800 ∨ 0xdfff < char.toNat ∧ char.toNat < 0x110000 := char.valid
  refine ⟨?_, ?_⟩
  · rw [opensPair, Bool.and_eq_false_iff, decide_eq_false_iff_not, decide_eq_false_iff_not]
    omega
  · rw [closesPair, Bool.and_eq_false_iff, decide_eq_false_iff_not, decide_eq_false_iff_not]
    omega

/-- The units of characters stand for those characters. -/
theorem chars_of_units_map_to_nat (chars : List Char) :
    charsOfUnits (chars.map Char.toNat) = some chars := by
  induction chars with
  | nil => rfl
  | cons first chars ih =>
      obtain ⟨hopens, hcloses⟩ := not_pair_to_nat first
      cases chars with
      | nil => simp [charsOfUnits, hopens, hcloses]
      | cons second chars =>
          simp only [List.map_cons] at ih
          simp [charsOfUnits, hopens, hcloses, ih]

/-- A printed string opens with a quote and is read back after it. -/
theorem read_text_print_text (text : Option String) (rest : List Char) :
    (printText text ++ rest).head? = some '"' ∧
      readText ((printText text ++ rest).drop 1) = some (text, rest) := by
  cases text with
  | none =>
      refine ⟨rfl, ?_⟩
      have hunit : hexQuad? 'd' '8' '0' '0' = some 0xd800 := by decide
      have hunits : readUnits ('\\' :: 'u' :: 'd' :: '8' :: '0' :: '0' :: '"' :: rest) =
          some ([0xd800], rest) := by
        simp [readUnits, hunit]
      show (readUnits ('\\' :: 'u' :: 'd' :: '8' :: '0' :: '0' :: '"' :: rest)).map _ = _
      rw [hunits]
      rfl
  | some text =>
      refine ⟨rfl, ?_⟩
      simp [readText, printText, read_units_flat_map_escape, chars_of_units_map_to_nat]

/-! ## Numbers -/

/-- The text is over or goes on with the end of an element, so no token before it goes on. -/
def EndsToken (rest : List Char) : Prop :=
  ∀ char, rest.head? = some char → char = ',' ∨ char = ']' ∨ char = '}'

/-- The end of the text ends a token. -/
theorem ends_token_nil : EndsToken [] := by
  intro char h
  simp at h

/-- A comma or a closing bracket ends a token. -/
theorem ends_token_cons {char : Char} (rest : List Char)
    (h : char = ',' ∨ char = ']' ∨ char = '}') : EndsToken (char :: rest) := by
  intro other hother
  obtain rfl : char = other := by simpa using hother
  exact h

/-- A run of digits is read whole where the text after it does not open with a digit. -/
theorem read_digits_digits (number : Nat) {rest : List Char}
    (h : ∀ char, rest.head? = some char → char.isDigit = false) :
    readDigits (Numeral.digits number ++ rest) = some (Numeral.digits number, rest) := by
  have hall := Numeral.is_digit_of_mem_digits number
  have hrest : rest.takeWhile Char.isDigit = [] ∧ rest.dropWhile Char.isDigit = rest := by
    cases rest with
    | nil => exact ⟨rfl, rfl⟩
    | cons char rest =>
        have hchar := h char rfl
        simp [hchar]
  have htake : (Numeral.digits number ++ rest).takeWhile Char.isDigit = Numeral.digits number := by
    rw [List.takeWhile_append_of_pos hall, hrest.1, List.append_nil]
  have hdrop : (Numeral.digits number ++ rest).dropWhile Char.isDigit = rest := by
    rw [List.dropWhile_append_of_pos hall, hrest.2]
  unfold readDigits
  rw [htake, hdrop]
  split
  · next hnil => exact absurd hnil (Numeral.digits_ne_nil number)
  · rfl

/-- No digit follows the end of a token. -/
theorem EndsToken.is_digit_eq_false {rest : List Char} (h : EndsToken rest) (char : Char)
    (hchar : rest.head? = some char) : char.isDigit = false := by
  rcases h char hchar with rfl | rfl | rfl <;> decide

/-- The whole part of a number is read up to the character after its digits: they open with a zero
only where the number is zero. -/
theorem read_whole_digits (number : Nat) {rest : List Char}
    (h : ∀ char, rest.head? = some char → char.isDigit = false) :
    readWhole (Numeral.digits number ++ rest) = some (Numeral.digits number, rest) := by
  by_cases hzero : number = 0
  · subst hzero
    have hdigits : Numeral.digits 0 = ['0'] := by rw [Numeral.digits]; rfl
    rw [hdigits]
    rfl
  · unfold readWhole
    split
    · next tail heq =>
        have hhead : (Numeral.digits number).head? = some '0' := by
          cases hdigits : Numeral.digits number with
          | nil => exact absurd hdigits (Numeral.digits_ne_nil number)
          | cons first digits =>
              rw [hdigits] at heq
              obtain ⟨rfl, _⟩ := List.cons.inj heq
              rfl
        exact absurd (Numeral.head_digits_eq_zero hhead) hzero
    · exact read_digits_digits number h

/-- A token that is over has no fraction. -/
theorem EndsToken.read_fraction_eq {rest : List Char} (h : EndsToken rest) :
    readFraction rest = some (none, rest) := by
  cases rest with
  | nil => rfl
  | cons char rest => rcases h char rfl with rfl | rfl | rfl <;> rfl

/-- A token that is over has no exponent. -/
theorem EndsToken.read_exponent_eq {rest : List Char} (h : EndsToken rest) :
    readExponent rest = some (none, rest) := by
  cases rest with
  | nil => rfl
  | cons char rest => rcases h char rfl with rfl | rfl | rfl <;> rfl

/-- The first digit of a number, and the digits after it. -/
theorem exists_digits_eq_cons (number : Nat) :
    ∃ first rest, Numeral.digits number = first :: rest ∧ first.isDigit = true := by
  cases hdigits : Numeral.digits number with
  | nil => exact absurd hdigits (Numeral.digits_ne_nil number)
  | cons first rest =>
      exact ⟨first, rest, rfl, Numeral.is_digit_of_mem_digits number first (by simp [hdigits])⟩

/-- An exponent is read back with its sign. -/
theorem read_exponent_signed_digits (exponent : Int) {rest : List Char} (h : EndsToken rest) :
    readExponent ('e' :: (Numeral.signedDigits exponent ++ rest)) = some (some exponent, rest) := by
  have hread := read_digits_digits exponent.natAbs h.is_digit_eq_false
  by_cases hnegative : exponent < 0
  · simp only [readExponent, Numeral.signedDigits, hnegative, if_true, List.cons_append,
      true_or, hread, Option.map_some, Numeral.value_digits]
    congr
    omega
  · obtain ⟨first, digits, hdigits, hfirst⟩ := exists_digits_eq_cons exponent.natAbs
    simp only [readExponent, Numeral.signedDigits, hnegative, if_false, true_or, if_true]
    rw [hdigits] at hread ⊢
    split
    · next heq =>
        obtain ⟨rfl, _⟩ := List.cons.inj heq
        exact absurd hfirst (by decide)
    · next heq =>
        obtain ⟨rfl, _⟩ := List.cons.inj heq
        exact absurd hfirst (by decide)
    · rw [hread, ← hdigits, Option.map_some, Numeral.value_digits]
      congr
      omega

/-- The digits of a whole number are read as that number. -/
theorem read_magnitude_whole (negative : Bool) (number : Nat) {rest : List Char}
    (h : EndsToken rest) :
    readMagnitude negative (Numeral.digits number ++ rest) =
      some (literalOf negative (Numeral.digits number) none none, rest) := by
  simp [readMagnitude, read_whole_digits number h.is_digit_eq_false, h.read_fraction_eq,
    h.read_exponent_eq]

/-- The digits of a decimal and its exponent are read as that decimal. -/
theorem read_magnitude_decimal (negative : Bool) (mantissa : Nat) (exponent : Int)
    {rest : List Char} (h : EndsToken rest) :
    readMagnitude negative
        (Numeral.digits mantissa ++ 'e' :: (Numeral.signedDigits exponent ++ rest)) =
      some (.decimal negative mantissa exponent, rest) := by
  have hwhole :
      readWhole (Numeral.digits mantissa ++ 'e' :: (Numeral.signedDigits exponent ++ rest)) =
        some (Numeral.digits mantissa, 'e' :: (Numeral.signedDigits exponent ++ rest)) :=
    read_whole_digits mantissa (by intro char hchar; simp at hchar; subst hchar; decide)
  have hfraction : readFraction ('e' :: (Numeral.signedDigits exponent ++ rest)) =
      some (none, 'e' :: (Numeral.signedDigits exponent ++ rest)) := rfl
  simp [readMagnitude, hwhole, hfraction, read_exponent_signed_digits exponent h, literalOf,
    Numeral.value_digits]

/-- A number that opens with a digit is read without a sign. -/
theorem read_number_of_digits (number : Nat) (rest : List Char) :
    readNumber (Numeral.digits number ++ rest) =
      readMagnitude false (Numeral.digits number ++ rest) := by
  obtain ⟨first, digits, hdigits, hfirst⟩ := exists_digits_eq_cons number
  rw [hdigits]
  unfold readNumber
  split
  · next heq =>
      obtain ⟨rfl, _⟩ := List.cons.inj heq
      exact absurd hfirst (by decide)
  · rfl

/-- Every number literal is read back. -/
theorem read_number_print_number (literal : Numeral.Literal) {rest : List Char}
    (h : EndsToken rest) : readNumber (printNumber literal ++ rest) = some (literal, rest) := by
  cases literal with
  | whole integer =>
      by_cases hnegative : integer < 0
      · have hzero : integer.natAbs ≠ 0 := by omega
        have hback : -(integer.natAbs : Int) = integer := by omega
        simp only [printNumber, Numeral.signedDigits, hnegative, if_true, List.cons_append,
          readNumber, read_magnitude_whole true integer.natAbs h, literalOf, Numeral.value_digits,
          hzero, if_false, hback]
      · have hback : (integer.natAbs : Int) = integer := by omega
        simp only [printNumber, Numeral.signedDigits, hnegative, if_false, read_number_of_digits,
          read_magnitude_whole false integer.natAbs h, literalOf, Numeral.value_digits,
          Bool.false_eq_true, hback]
  | decimal negative mantissa exponent =>
      cases negative with
      | true =>
          simp only [printNumber, if_true, List.append_assoc, List.cons_append, List.nil_append,
            readNumber, read_magnitude_decimal true mantissa exponent h]
      | false =>
          simp only [printNumber, Bool.false_eq_true, if_false, List.nil_append, List.append_assoc,
            List.cons_append, read_number_of_digits,
            read_magnitude_decimal false mantissa exponent h]

/-! ## Values -/

/-- A printed number opens with a minus sign or a digit. -/
theorem head_print_number (literal : Numeral.Literal) :
    ∃ first rest, printNumber literal = first :: rest ∧ (first = '-' ∨ first.isDigit = true) := by
  cases literal with
  | whole integer =>
      by_cases hnegative : integer < 0
      · exact ⟨'-', Numeral.digits integer.natAbs,
          by simp [printNumber, Numeral.signedDigits, hnegative], Or.inl rfl⟩
      · obtain ⟨first, digits, hdigits, hfirst⟩ := exists_digits_eq_cons integer.natAbs
        exact ⟨first, digits, by simp [printNumber, Numeral.signedDigits, hnegative, hdigits],
          Or.inr hfirst⟩
  | decimal negative mantissa exponent =>
      cases negative with
      | true => exact ⟨'-', Numeral.digits mantissa ++ 'e' :: Numeral.signedDigits exponent,
          by simp [printNumber], Or.inl rfl⟩
      | false =>
          obtain ⟨first, digits, hdigits, hfirst⟩ := exists_digits_eq_cons mantissa
          exact ⟨first, digits ++ 'e' :: Numeral.signedDigits exponent,
            by simp [printNumber, hdigits], Or.inr hfirst⟩

/-- A character that opens a number is no blank and opens no other value. -/
theorem opens_number_ne {first : Char} (h : first = '-' ∨ first.isDigit = true) :
    isBlank first = false ∧ first ≠ 'n' ∧ first ≠ 't' ∧ first ≠ 'f' ∧ first ≠ '"' ∧
      first ≠ '[' ∧ first ≠ '{' := by
  rcases h with rfl | h
  · decide
  · refine ⟨?_, ?_, ?_, ?_, ?_, ?_, ?_⟩
    · rw [isBlank]
      simp only [Bool.or_eq_false_iff, decide_eq_false_iff_not]
      refine ⟨⟨⟨?_, ?_⟩, ?_⟩, ?_⟩ <;> rintro rfl <;> exact absurd h (by decide)
    all_goals rintro rfl; exact absurd h (by decide)

/-- Every number literal is read back as a value. -/
theorem read_value_print_number (literal : Numeral.Literal) (bound : Nat) {rest : List Char}
    (h : EndsToken rest) :
    readValue (bound + 1) (printNumber literal ++ rest) = some (.number literal, rest) := by
  have hread := read_number_print_number literal h
  obtain ⟨first, digits, hprint, hfirst⟩ := head_print_number literal
  obtain ⟨hblank, hn, ht, hf, hquote, hbracket, hbrace⟩ := opens_number_ne hfirst
  rw [hprint] at hread ⊢
  have hskip : skipBlanks (first :: digits ++ rest) = first :: digits ++ rest := by
    simp [skipBlanks, hblank]
  rw [readValue, hskip]
  split
  · next heq => exact absurd (List.cons.inj heq).1 hn
  · next heq => exact absurd (List.cons.inj heq).1 ht
  · next heq => exact absurd (List.cons.inj heq).1 hf
  · next heq => exact absurd (List.cons.inj heq).1 hquote
  · next heq => exact absurd (List.cons.inj heq).1 hbracket
  · next heq => exact absurd (List.cons.inj heq).1 hbrace
  · rw [hread]
    rfl

/-- An opening bracket is followed by the closing one or by elements. -/
theorem read_value_bracket (bound : Nat) (text : List Char) :
    readValue (bound + 1) ('[' :: text) =
      match skipBlanks text with
      | ']' :: rest => some (.array [], rest)
      | _ => (readElements bound text).map fun (elements, rest) => (.array elements, rest) :=
  rfl

/-- An opening brace is followed by the closing one or by fields. -/
theorem read_value_brace (bound : Nat) (text : List Char) :
    readValue (bound + 1) ('{' :: text) =
      match skipBlanks text with
      | '}' :: rest => some (.object [], rest)
      | _ => (readFields bound text).map fun (fields, rest) => (.object fields, rest) :=
  rfl

/-- A printed value never opens with a blank or a closing bracket. -/
theorem head_print (json : Json) :
    ∃ first rest, print json = first :: rest ∧ isBlank first = false ∧ first ≠ ']' := by
  cases json with
  | null => exact ⟨'n', _, rfl, by decide⟩
  | bool flag => cases flag with
    | true => exact ⟨'t', _, rfl, by decide⟩
    | false => exact ⟨'f', _, rfl, by decide⟩
  | number literal =>
      obtain ⟨first, rest, hprint, hfirst⟩ := head_print_number literal
      refine ⟨first, rest, by rw [print, hprint], (opens_number_ne hfirst).1, ?_⟩
      rintro rfl
      rcases hfirst with h | h <;> exact absurd h (by decide)
  | string text => cases text with
    | none => exact ⟨'"', _, rfl, by decide⟩
    | some text => exact ⟨'"', _, rfl, by decide⟩
  | array elements => cases elements with
    | nil => exact ⟨'[', _, rfl, by decide⟩
    | cons first rest => exact ⟨'[', _, rfl, by decide⟩
  | object fields => cases fields with
    | nil => exact ⟨'{', _, rfl, by decide⟩
    | cons first rest => exact ⟨'{', _, by rw [print], by decide⟩

/-- The text of a name opens with a quote, after which the name is read back. -/
theorem exists_print_text_eq_cons (text : Option String) (rest : List Char) :
    ∃ body, printText text ++ rest = '"' :: body ∧ readText body = some (text, rest) := by
  obtain ⟨hhead, hread⟩ := read_text_print_text text rest
  cases htext : printText text ++ rest with
  | nil => simp [htext] at hhead
  | cons first body =>
      rw [htext] at hhead hread
      obtain rfl : first = '"' := by simpa using hhead
      exact ⟨body, rfl, hread⟩

/-- Within the bound every printed value is read back. -/
def ReadsValues (bound : Nat) : Prop :=
  ∀ (json : Json) (rest : List Char), 2 * (print json).length + 1 ≤ bound → EndsToken rest →
    readValue bound (print json ++ rest) = some (json, rest)

/-- Within the bound the printed elements of every array are read back. -/
def ReadsElements (bound : Nat) : Prop :=
  ∀ (first : Json) (elements : List Json) (rest : List Char),
    2 * ((print first).length + (printElements elements).length) ≤ bound →
    readElements bound (print first ++ printElements elements ++ rest) =
      some (first :: elements, rest)

/-- Within the bound the printed fields of every object are read back. -/
def ReadsFields (bound : Nat) : Prop :=
  ∀ (name : Option String) (value : Json) (fields : List (Option String × Json))
    (rest : List Char), 2 * ((print value).length + (printFields fields).length) + 1 ≤ bound →
    readFields bound (printText name ++ ':' :: (print value ++ printFields fields) ++ rest) =
      some ((name, value) :: fields, rest)

/-- Values are read back within a bound if what they hold is read back within the bound below. -/
theorem reads_values_succ {bound : Nat} (helements : ReadsElements bound)
    (hfields : ReadsFields bound) : ReadsValues (bound + 1) := by
  intro json rest hbound h
  cases json with
  | null => rfl
  | bool flag => cases flag <;> rfl
  | number literal =>
      rw [print]
      exact read_value_print_number literal bound h
  | string text =>
      obtain ⟨body, hprint, hread⟩ := exists_print_text_eq_cons text rest
      rw [print, hprint]
      show (readText body).map _ = _
      rw [hread]
      rfl
  | array elements =>
      cases elements with
      | nil => rfl
      | cons first elements =>
          simp only [print, List.length_cons, List.length_append] at hbound
          have hread := helements first elements rest (by omega)
          obtain ⟨char, tail, hprint, hblank, hclose⟩ := head_print first
          have hskip : skipBlanks (print first ++ printElements elements ++ rest) =
              char :: (tail ++ printElements elements ++ rest) := by
            simp [hprint, skipBlanks, hblank]
          rw [print, List.cons_append, read_value_bracket, hread, hskip]
          split
          · next heq => exact absurd (List.cons.inj heq).1 hclose
          · rfl
  | object fields =>
      cases fields with
      | nil => rfl
      | cons field fields =>
          obtain ⟨name, value⟩ := field
          simp only [print, List.length_cons, List.length_append] at hbound
          have hread := hfields name value fields rest (by omega)
          obtain ⟨body, hbody, _⟩ := exists_print_text_eq_cons name
            (':' :: (print value ++ printFields fields) ++ rest)
          rw [print, List.cons_append, read_value_brace, hread, List.append_assoc, hbody]
          rfl

/-- The elements of an array are read back if each value and those after it are. -/
theorem reads_elements_succ {bound : Nat} (hvalues : ReadsValues bound)
    (helements : ReadsElements bound) : ReadsElements (bound + 1) := by
  intro first elements rest hbound
  cases elements with
  | nil =>
      simp only [printElements, List.length_singleton] at hbound
      have hfirst := hvalues first (']' :: rest) (by omega) (ends_token_cons rest (by decide))
      rw [readElements, printElements, List.append_assoc, List.singleton_append, hfirst]
      rfl
  | cons second elements =>
      simp only [printElements, List.length_cons, List.length_append] at hbound
      have hfirst := hvalues first (',' :: (print second ++ printElements elements ++ rest))
        (by omega) (ends_token_cons _ (by decide))
      have hrest := helements second elements rest (by omega)
      rw [readElements, printElements, List.append_assoc, List.cons_append, hfirst]
      show (readElements bound _).bind _ = _
      rw [hrest]
      rfl

/-- The fields of an object are read back if each value and the fields after it are. -/
theorem reads_fields_succ {bound : Nat} (hvalues : ReadsValues bound)
    (hfields : ReadsFields bound) : ReadsFields (bound + 1) := by
  intro name value fields rest hbound
  obtain ⟨body, hbody, hname⟩ := exists_print_text_eq_cons name
    (':' :: (print value ++ printFields fields) ++ rest)
  rw [List.append_assoc, hbody]
  show (readText body).bind _ = _
  rw [hname]
  cases fields with
  | nil =>
      simp only [printFields, List.length_singleton] at hbound
      have hvalue := hvalues value ('}' :: rest) (by omega) (ends_token_cons rest (by decide))
      show (readValue bound (print value ++ ['}'] ++ rest)).bind _ = _
      rw [List.append_assoc, List.singleton_append, hvalue]
      rfl
  | cons field fields =>
      obtain ⟨next, later⟩ := field
      simp only [printFields, List.length_cons, List.length_append] at hbound
      have hvalue := hvalues value
        (',' :: (printText next ++ ':' :: (print later ++ printFields fields) ++ rest)) (by omega)
        (ends_token_cons _ (by decide))
      have hrest := hfields next later fields rest (by omega)
      show (readValue bound
        (print value ++ printFields ((next, later) :: fields) ++ rest)).bind _ = _
      rw [printFields, List.append_assoc, List.cons_append, hvalue]
      show (readFields bound _).bind _ = _
      rw [hrest]
      rfl

/-- Every bound reads what it has room for. -/
theorem reads_print (bound : Nat) :
    ReadsValues bound ∧ ReadsElements bound ∧ ReadsFields bound := by
  induction bound with
  | zero =>
      refine ⟨?_, ?_, ?_⟩
      · intro json rest hbound
        omega
      · intro first elements rest hbound
        obtain ⟨char, tail, hprint, _⟩ := head_print first
        simp only [hprint, List.length_cons] at hbound
        omega
      · intro name value fields rest hbound
        omega
  | succ bound ih =>
      obtain ⟨hvalues, helements, hfields⟩ := ih
      exact ⟨reads_values_succ helements hfields, reads_elements_succ hvalues helements,
        reads_fields_succ hvalues hfields⟩

/-- Every value is read back within a bound of twice the length of its text. -/
theorem read_value_print (json : Json) {bound : Nat} {rest : List Char}
    (hbound : 2 * (print json).length + 1 ≤ bound) (h : EndsToken rest) :
    readValue bound (print json ++ rest) = some (json, rest) :=
  (reads_print bound).1 json rest hbound h

/-- Every value is read back from its text. -/
theorem parse_render (json : Json) : parse (render json) = some json := by
  have hroom : 2 * (print json).length + 1 ≤ 2 * (print json).length + 2 := by omega
  have hread := read_value_print json hroom ends_token_nil
  rw [List.append_nil] at hread
  simp [parse, render, parseChars, hread, skipBlanks]

end ContentWorkflow.Json
