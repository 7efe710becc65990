namespace FleetResponse.Text

def digitValue? (c : Char) : Option Nat :=
  if c.isDigit then some (c.toNat - '0'.toNat) else none

def digitsValue (cs : List Char) : Nat :=
  cs.foldl (fun n c => 10 * n + (digitValue? c).getD 0) 0

def digits (n : Nat) : List Char :=
  Nat.toDigits 10 n

def padded (width n : Nat) : List Char :=
  (digits n).leftpad width '0'

inductive NumeralError
  | empty
  | invalidDigit
  | tooLarge
deriving DecidableEq, Repr

namespace NumeralError

def message : NumeralError → String
  | empty => "cannot parse integer from empty string"
  | invalidDigit => "invalid digit found in string"
  | tooLarge => "number too large to fit in target type"

end NumeralError

/-- Appends digits to `value`, stopping at the first character that is no digit or that
reaches `bound`. -/
def appendDigits (bound value : Nat) : List Char → Except NumeralError Nat
  | [] => .ok value
  | c :: cs =>
      match digitValue? c with
      | none => .error .invalidDigit
      | some d =>
          if 10 * value + d < bound then appendDigits bound (10 * value + d) cs
          else .error .tooLarge

def unsigned (bound : Nat) : List Char → Except NumeralError Nat
  | [] => .error .empty
  | ['+'] => .error .invalidDigit
  | '+' :: cs => appendDigits bound 0 cs
  | cs => appendDigits bound 0 cs

end FleetResponse.Text
