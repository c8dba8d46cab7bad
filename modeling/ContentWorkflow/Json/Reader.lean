import ContentWorkflow.Json.Printer

/-!
# Reading JSON

`parse` accepts a text that is one value with blanks around its tokens. The grammar is the strict
one: no leading zeros, no trailing commas, no raw control characters inside a string. A string
literal with an unpaired surrogate escape is read as a literal without text.

Nested values are read with a bound on the number of tokens, which the length of the text provides.
-/

namespace ContentWorkflow.Json

/-- The blanks that may stand between tokens. -/
def isBlank (char : Char) : Bool :=
  char = ' ' || char = '\n' || char = '\t' || char = '\r'

/-- The text after its leading blanks. -/
def skipBlanks (text : List Char) : List Char :=
  text.dropWhile isBlank

/-! ## Strings -/

/-- The value of a hexadecimal digit of either case. -/
def hexValue? (char : Char) : Option Nat :=
  if '0' ≤ char ∧ char ≤ '9' then some (char.toNat - '0'.toNat)
  else if 'a' ≤ char ∧ char ≤ 'f' then some (char.toNat - 'a'.toNat + 10)
  else if 'A' ≤ char ∧ char ≤ 'F' then some (char.toNat - 'A'.toNat + 10)
  else none

/-- The number of four hexadecimal digits. -/
def hexQuad? (first second third fourth : Char) : Option Nat := do
  let a ← hexValue? first
  let b ← hexValue? second
  let c ← hexValue? third
  let d ← hexValue? fourth
  return ((a * 16 + b) * 16 + c) * 16 + d

/-- What the letter of a short escape stands for. -/
def shortEscape? (letter : Char) : Option Char :=
  match letter with
  | '"' => some '"'
  | '\\' => some '\\'
  | '/' => some '/'
  | 'b' => some '\x08'
  | 'f' => some '\x0c'
  | 'n' => some '\n'
  | 'r' => some '\r'
  | 't' => some '\t'
  | _ => none

/-- The code units of a string literal after its opening quote, and the text after its closing
quote. A character stands for itself as one unit, a hexadecimal escape for the unit it names. -/
def readUnits : List Char → Option (List Nat × List Char)
  | '"' :: rest => some ([], rest)
  | '\\' :: 'u' :: a :: b :: c :: d :: rest => do
      let unit ← hexQuad? a b c d
      let (units, rest) ← readUnits rest
      return (unit :: units, rest)
  | '\\' :: char :: rest => do
      let meant ← shortEscape? char
      let (units, rest) ← readUnits rest
      return (meant.toNat :: units, rest)
  | char :: rest =>
      if char.toNat < 0x20 then none
      else do
        let (units, rest) ← readUnits rest
        return (char.toNat :: units, rest)
  | [] => none

/-- The unit opens a surrogate pair. -/
def opensPair (unit : Nat) : Bool :=
  0xd800 ≤ unit && unit < 0xdc00

/-- The unit closes a surrogate pair. -/
def closesPair (unit : Nat) : Bool :=
  0xdc00 ≤ unit && unit < 0xe000

/-- The characters that code units name, absent where a surrogate stands unpaired. -/
def charsOfUnits : List Nat → Option (List Char)
  | [] => some []
  | [unit] => if opensPair unit || closesPair unit then none else some [Char.ofNat unit]
  | unit :: next :: rest =>
      if opensPair unit then
        if closesPair next then
          (charsOfUnits rest).map
            (Char.ofNat (0x10000 + (unit - 0xd800) * 0x400 + (next - 0xdc00)) :: ·)
        else none
      else if closesPair unit then none
      else (charsOfUnits (next :: rest)).map (Char.ofNat unit :: ·)

/-- A string literal after its opening quote. -/
def readText (text : List Char) : Option (Option String × List Char) :=
  (readUnits text).map fun (units, rest) => ((charsOfUnits units).map String.ofList, rest)

/-! ## Numbers -/

/-- A run of digits and the text after it. A run may not be empty. -/
def readDigits (text : List Char) : Option (List Char × List Char) :=
  match text.takeWhile Char.isDigit with
  | [] => none
  | run => some (run, text.dropWhile Char.isDigit)

/-- The whole part of a number: a single zero, or a run of digits that does not open with one. -/
def readWhole : List Char → Option (List Char × List Char)
  | '0' :: rest => some (['0'], rest)
  | text => readDigits text

/-- The digits after a point, none where no point stands. -/
def readFraction : List Char → Option (Option (List Char) × List Char)
  | '.' :: rest => (readDigits rest).map fun (run, rest) => (some run, rest)
  | text => some (none, text)

/-- The exponent of a number, none where no exponent stands. -/
def readExponent : List Char → Option (Option Int × List Char)
  | mark :: rest =>
      if mark = 'e' ∨ mark = 'E' then
        match rest with
        | '-' :: rest =>
            (readDigits rest).map fun (run, rest) => (some (-(Numeral.value run : Int)), rest)
        | '+' :: rest => (readDigits rest).map fun (run, rest) => (some (Numeral.value run), rest)
        | rest => (readDigits rest).map fun (run, rest) => (some (Numeral.value run), rest)
      else some (none, mark :: rest)
  | [] => some (none, [])

/-- The literal of the parts of a number. Digits after the point lower the exponent. -/
def literalOf (negative : Bool) (whole : List Char) (fraction : Option (List Char))
    (exponent : Option Int) : Numeral.Literal :=
  match fraction, exponent with
  | none, none =>
      let magnitude := Numeral.value whole
      if negative then
        if magnitude = 0 then .decimal true 0 0 else .whole (-(magnitude : Int))
      else .whole magnitude
  | fraction, exponent =>
      let places := fraction.getD []
      .decimal negative (Numeral.value (whole ++ places)) (exponent.getD 0 - places.length)

/-- A number after its sign. -/
def readMagnitude (negative : Bool) (text : List Char) :
    Option (Numeral.Literal × List Char) := do
  let (whole, rest) ← readWhole text
  let (fraction, rest) ← readFraction rest
  let (exponent, rest) ← readExponent rest
  return (literalOf negative whole fraction exponent, rest)

/-- A number literal and the text after it. -/
def readNumber : List Char → Option (Numeral.Literal × List Char)
  | '-' :: rest => readMagnitude true rest
  | text => readMagnitude false text

/-! ## Values -/

mutual

/-- A value at the start of the text, and the text after it. -/
def readValue : Nat → List Char → Option (Json × List Char)
  | 0, _ => none
  | bound + 1, text =>
      match skipBlanks text with
      | 'n' :: 'u' :: 'l' :: 'l' :: rest => some (.null, rest)
      | 't' :: 'r' :: 'u' :: 'e' :: rest => some (.bool true, rest)
      | 'f' :: 'a' :: 'l' :: 's' :: 'e' :: rest => some (.bool false, rest)
      | '"' :: rest => (readText rest).map fun (text, rest) => (.string text, rest)
      | '[' :: rest =>
          match skipBlanks rest with
          | ']' :: rest => some (.array [], rest)
          | _ => (readElements bound rest).map fun (elements, rest) => (.array elements, rest)
      | '{' :: rest =>
          match skipBlanks rest with
          | '}' :: rest => some (.object [], rest)
          | _ => (readFields bound rest).map fun (fields, rest) => (.object fields, rest)
      | rest => (readNumber rest).map fun (literal, rest) => (.number literal, rest)

/-- The elements up to the closing bracket, at least one, and the text after it. -/
def readElements : Nat → List Char → Option (List Json × List Char)
  | 0, _ => none
  | bound + 1, text => do
      let (element, rest) ← readValue bound text
      match skipBlanks rest with
      | ']' :: rest => some ([element], rest)
      | ',' :: rest =>
          let (elements, rest) ← readElements bound rest
          some (element :: elements, rest)
      | _ => none

/-- The fields up to the closing brace, at least one, and the text after it. -/
def readFields : Nat → List Char → Option (List (Option String × Json) × List Char)
  | 0, _ => none
  | bound + 1, text =>
      match skipBlanks text with
      | '"' :: rest => do
          let (name, rest) ← readText rest
          match skipBlanks rest with
          | ':' :: rest =>
              let (value, rest) ← readValue bound rest
              match skipBlanks rest with
              | '}' :: rest => some ([(name, value)], rest)
              | ',' :: rest =>
                  let (fields, rest) ← readFields bound rest
                  some ((name, value) :: fields, rest)
              | _ => none
          | _ => none
      | _ => none

end

/-- The value a text is, with nothing but blanks around it. -/
def parseChars (text : List Char) : Option Json :=
  match readValue (2 * text.length + 2) text with
  | some (json, rest) => if (skipBlanks rest).isEmpty then some json else none
  | none => none

/-- The value a text is, with nothing but blanks around it. -/
def parse (text : String) : Option Json :=
  parseChars text.toList

end ContentWorkflow.Json
