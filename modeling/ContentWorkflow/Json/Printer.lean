import ContentWorkflow.Json.Value
import ContentWorkflow.Text.Numeral

/-!
# Printing JSON

Two forms of the same value: `render` on one line without any blanks, and `renderIndented` with one
element a line, indented by two blanks a level. A string is written with the short escapes where the
format has one, with `\u00xx` for the other control characters, and as it stands otherwise.
-/

namespace ContentWorkflow.Json

/-- The lower-case hexadecimal digit of a number below sixteen. -/
def hexDigit (digit : Nat) : Char :=
  if digit < 10 then Char.ofNat ('0'.toNat + digit) else Char.ofNat ('a'.toNat + (digit - 10))

/-- The letter of the short escape of a character, where the format has one. -/
def shortLetter? (char : Char) : Option Char :=
  match char with
  | '"' => some '"'
  | '\\' => some '\\'
  | '\x08' => some 'b'
  | '\t' => some 't'
  | '\n' => some 'n'
  | '\x0c' => some 'f'
  | '\r' => some 'r'
  | _ => none

/-- A character as it stands inside a string literal. -/
def escape (char : Char) : List Char :=
  match shortLetter? char with
  | some letter => ['\\', letter]
  | none =>
      if char.toNat < 0x20 then
        ['\\', 'u', '0', '0', hexDigit (char.toNat / 16), hexDigit (char.toNat % 16)]
      else [char]

/-- A string literal. A literal without text is written as the unpaired surrogate it holds. -/
def printText : Option String → List Char
  | some text => '"' :: (text.toList.flatMap escape ++ ['"'])
  | none => ['"', '\\', 'u', 'd', '8', '0', '0', '"']

/-- A number literal. -/
def printNumber : Numeral.Literal → List Char
  | .whole integer => Numeral.signedDigits integer
  | .decimal negative mantissa exponent =>
      (if negative then ['-'] else []) ++
        (Numeral.digits mantissa ++ 'e' :: Numeral.signedDigits exponent)

mutual

/-- The value on one line. -/
def print : Json → List Char
  | .null => ['n', 'u', 'l', 'l']
  | .bool true => ['t', 'r', 'u', 'e']
  | .bool false => ['f', 'a', 'l', 's', 'e']
  | .number literal => printNumber literal
  | .string text => printText text
  | .array [] => ['[', ']']
  | .array (first :: rest) => '[' :: (print first ++ printElements rest)
  | .object [] => ['{', '}']
  | .object ((name, value) :: rest) =>
      '{' :: (printText name ++ ':' :: (print value ++ printFields rest))

/-- The elements after the first, and the closing bracket. -/
def printElements : List Json → List Char
  | [] => [']']
  | next :: rest => ',' :: (print next ++ printElements rest)

/-- The fields after the first, and the closing brace. -/
def printFields : List (Option String × Json) → List Char
  | [] => ['}']
  | (name, value) :: rest => ',' :: (printText name ++ ':' :: (print value ++ printFields rest))

end

/-- The value on one line. -/
def render (json : Json) : String :=
  String.ofList (print json)

/-- A line break followed by the blanks of the level. -/
def lineBreak (level : Nat) : List Char :=
  '\n' :: List.replicate (2 * level) ' '

mutual

/-- The value with one element a line, where its own line stands at the level. -/
def printIndented (level : Nat) : Json → List Char
  | .array [] => ['[', ']']
  | .array (first :: rest) =>
      '[' :: (lineBreak (level + 1) ++ printIndented (level + 1) first ++
        printElementsIndented level rest)
  | .object [] => ['{', '}']
  | .object ((name, value) :: rest) =>
      '{' :: (lineBreak (level + 1) ++ printText name ++ ':' :: ' ' ::
        printIndented (level + 1) value ++ printFieldsIndented level rest)
  | scalar => print scalar

/-- The elements after the first of an array that stands at the level. -/
def printElementsIndented (level : Nat) : List Json → List Char
  | [] => lineBreak level ++ [']']
  | next :: rest =>
      ',' :: (lineBreak (level + 1) ++ printIndented (level + 1) next ++
        printElementsIndented level rest)

/-- The fields after the first of an object that stands at the level. -/
def printFieldsIndented (level : Nat) : List (Option String × Json) → List Char
  | [] => lineBreak level ++ ['}']
  | (name, value) :: rest =>
      ',' :: (lineBreak (level + 1) ++ printText name ++ ':' :: ' ' ::
        printIndented (level + 1) value ++ printFieldsIndented level rest)

end

/-- The value with one element a line, indented by two blanks a level. -/
def renderIndented (json : Json) : String :=
  String.ofList (printIndented 0 json)

end ContentWorkflow.Json
