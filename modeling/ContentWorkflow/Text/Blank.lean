/-!
# Blanks and lines

The characters with the Unicode property `White_Space`, and the pieces of a text that are found by
them: a text without the blanks at its ends, and the lines of a text. `is_blank_of_is_whitespace`
says that every blank of the ASCII range is among them.
-/

namespace ContentWorkflow.Text

/-- The character has the property `White_Space`. -/
def isBlank (char : Char) : Bool :=
  let code := char.toNat
  (9 ≤ code && code ≤ 13) || code = 0x20 || code = 0x85 || code = 0xa0 || code = 0x1680 ||
    (0x2000 ≤ code && code ≤ 0x200a) || code = 0x2028 || code = 0x2029 || code = 0x202f ||
    code = 0x205f || code = 0x3000

/-- The text without the blanks at its start. -/
def trimStart (text : List Char) : List Char :=
  text.dropWhile isBlank

/-- The text without the blanks at its end. -/
def trimEnd (text : List Char) : List Char :=
  (text.reverse.dropWhile isBlank).reverse

/-- The text without the blanks at either end. -/
def trim (text : List Char) : List Char :=
  trimEnd (trimStart text)

/-- The lines of a text. A line ends before a line feed or with the text. -/
def lines : List Char → List (List Char)
  | [] => [[]]
  | '\n' :: rest => [] :: lines rest
  | char :: rest =>
      match lines rest with
      | [] => [[char]]
      | first :: others => (char :: first) :: others

/-- The line without the carriage return at its end. -/
def withoutReturn (line : List Char) : List Char :=
  if line.getLast? = some '\r' then line.dropLast else line

/-- The lines that line feeds end, and what stands behind the last line feed, which is a line only
where it is something. A carriage return before a line feed belongs to the line feed. -/
def ended : List (List Char) → List (List Char)
  | [] => []
  | [last] => if last.isEmpty then [] else [last]
  | line :: rest => withoutReturn line :: ended rest

/-- The lines of a text that may end them with a carriage return and a line feed. -/
def brokenLines (text : List Char) : List (List Char) :=
  ended (lines text)

/-- The ASCII blanks are blanks. -/
theorem is_blank_of_is_whitespace {char : Char} (h : char.isWhitespace = true) :
    isBlank char = true := by
  simp only [Char.isWhitespace, Bool.or_eq_true, decide_eq_true_eq] at h
  rcases h with ((rfl | rfl) | rfl) | rfl <;> decide

end ContentWorkflow.Text
