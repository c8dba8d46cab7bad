import ContentWorkflow.Text.Numeral
import ContentWorkflow.Json.Value

/-!
# Definite JSON values

A value that is read before it is known what it is for has to be kept whole. That takes more than
the grammar asks for: every string must have a text, every number must be within the range of a
double-precision number, and arrays and objects may not stand too deep in each other.
-/

namespace ContentWorkflow

/-- The first magnitude that rounds beyond the greatest double-precision number. -/
def Numeral.doubleBound : Nat :=
  Nat.pow 2 1024 - Nat.pow 2 970

/-- The number is within the range of a double-precision number. -/
def Numeral.Literal.isFinite : Numeral.Literal → Bool
  | .whole integer => integer.natAbs < doubleBound
  | .decimal _ mantissa exponent =>
      if mantissa = 0 then true
      else if 0 ≤ exponent then
        exponent ≤ 308 && mantissa * Nat.pow 10 exponent.toNat < doubleBound
      else
        let places := (-exponent).toNat
        (digits mantissa).length ≤ places || mantissa < doubleBound * Nat.pow 10 places

namespace Json

/-- How deep arrays and objects may stand in each other. -/
def depthLimit : Nat :=
  126

mutual

/-- The value may stand where the given number of levels are left. -/
def isDefinite (levels : Nat) : Json → Bool
  | .null => true
  | .bool _ => true
  | .number literal => literal.isFinite
  | .string text => text.isSome
  | .array elements =>
      match levels with
      | 0 => false
      | levels + 1 => areDefinite levels elements
  | .object fields =>
      match levels with
      | 0 => false
      | levels + 1 => areDefiniteFields levels fields

/-- Every element may stand where the given number of levels are left. -/
def areDefinite (levels : Nat) : List Json → Bool
  | [] => true
  | first :: rest => isDefinite levels first && areDefinite levels rest

/-- Every field may stand where the given number of levels are left. -/
def areDefiniteFields (levels : Nat) : List (Option String × Json) → Bool
  | [] => true
  | (name, value) :: rest =>
      name.isSome && isDefinite levels value && areDefiniteFields levels rest

end

end Json

end ContentWorkflow
