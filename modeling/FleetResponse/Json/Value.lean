import FleetResponse.Text.Numeral

namespace FleetResponse

structure Json.Numeral where
  negative : Bool
  whole : List Char
  fraction : List Char
  exponent : Option (Bool × List Char)
deriving DecidableEq, Repr

/-- A string or a member name is nothing when one of its escapes is half of a surrogate pair: the
literal is well formed, but no text has it as its written form. -/
inductive Json
  | null
  | bool (value : Bool)
  | number (literal : Json.Numeral)
  | string (value : Option String)
  | array (items : List Json)
  | object (members : List (Option String × Json))
deriving Repr

namespace Json

namespace Numeral

def ofNat (n : Nat) : Numeral :=
  ⟨false, Text.digits n, [], none⟩

def ofInt (n : Int) : Numeral :=
  ⟨n < 0, Text.digits n.natAbs, [], none⟩

/-- The integer that a literal without fraction and exponent writes. A minus sign before zero
writes no integer. -/
def integer? (literal : Numeral) : Option Int :=
  let magnitude := Text.digitsValue literal.whole
  if literal.fraction ≠ [] ∨ literal.exponent ≠ none then none
  else if literal.negative then
    if magnitude = 0 then none else some (-magnitude)
  else some magnitude

end Numeral

def text (s : String) : Json :=
  .string (some s)

def nat (n : Nat) : Json :=
  .number (.ofNat n)

def int (n : Int) : Json :=
  .number (.ofInt n)

def record (members : List (String × Json)) : Json :=
  .object (members.map fun (name, value) => (some name, value))

def optionalText (s : Option String) : Json :=
  s.elim .null text

/-! ## Reading a value as one of a kind -/

def asText? : Json → Option String
  | .string value => value
  | _ => none

def asInteger? (first last : Int) : Json → Option Int
  | .number literal => literal.integer?.filter fun n => decide (first ≤ n ∧ n ≤ last)
  | _ => none

def asArray? : Json → Option (List Json)
  | .array items => some items
  | _ => none

end Json

end FleetResponse
