/-!
# Base 32

Numbers in Crockford's base 32: the ten digits and the letters without I, L, O and U, most
significant digit first. Both cases of a letter are read, upper case is written.
-/

namespace FleetResponse.Base32

def alphabet : List Char :=
  ['0', '1', '2', '3', '4', '5', '6', '7', '8', '9', 'A', 'B', 'C', 'D', 'E', 'F',
   'G', 'H', 'J', 'K', 'M', 'N', 'P', 'Q', 'R', 'S', 'T', 'V', 'W', 'X', 'Y', 'Z']

def digitValue? (c : Char) : Option Nat :=
  alphabet.idxOf? c.toUpper

def digit (value : Nat) : Char :=
  alphabet.getD value '0'

inductive Fault
  | length
  | character
deriving DecidableEq, Repr

namespace Fault

def message : Fault → String
  | length => "invalid length"
  | character => "invalid character"

end Fault

def appendDigits (value : Nat) : List Char → Except Fault Nat
  | [] => .ok value
  | c :: cs =>
      match digitValue? c with
      | none => .error .character
      | some d => appendDigits (32 * value + d) cs

def byteCount (cs : List Char) : Nat :=
  cs.foldr (fun c count => c.utf8Size + count) 0

/-- Reads a text of exactly `width` bytes. The length is checked first, so each character of a
text that passes and reads is one of the alphabet. -/
def read (width : Nat) (cs : List Char) : Except Fault Nat :=
  if byteCount cs = width then appendDigits 0 cs else .error .length

def render : Nat → Nat → List Char
  | 0, _ => []
  | width + 1, value => render width (value / 32) ++ [digit (value % 32)]

theorem length_render (width value : Nat) : (render width value).length = width := by
  induction width generalizing value with
  | zero => rfl
  | succ width ih => simp [render, ih]

end FleetResponse.Base32
