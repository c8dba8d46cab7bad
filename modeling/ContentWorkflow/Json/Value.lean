/-!
# JSON values

A value as its text gives it: fields keep their order and may repeat, whole numbers are told apart
from the other number literals, and a string literal may name no text at all, because an escape in
it names half of a surrogate pair.
-/

namespace ContentWorkflow

/-- A number literal. A literal without point and exponent is a whole number, except `-0`. -/
inductive Numeral.Literal where
  | whole (integer : Int)
  | decimal (negative : Bool) (mantissa : Nat) (exponent : Int)
  deriving DecidableEq

/-- A JSON value. The text of a string literal is absent where it holds an unpaired surrogate. -/
inductive Json where
  | null
  | bool (flag : Bool)
  | number (literal : Numeral.Literal)
  | string (text : Option String)
  | array (elements : List Json)
  | object (fields : List (Option String × Json))

namespace Json

/-- A string. -/
def ofString (text : String) : Json :=
  .string (some text)

/-- A whole number. -/
def ofInt (integer : Int) : Json :=
  .number (.whole integer)

/-- A count. -/
def ofNat (count : Nat) : Json :=
  .number (.whole count)

/-- The value, or null where there is none. -/
def ofOption {α : Type} (encode : α → Json) : Option α → Json
  | none => .null
  | some value => encode value

/-- An object with the named fields in the order given. -/
def ofFields (fields : List (String × Json)) : Json :=
  .object (fields.map fun field => (some field.1, field.2))

end Json

end ContentWorkflow
