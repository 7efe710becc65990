import FleetResponse.Text.Cut

/-!
# Segments of a version

A segment is one dotted part of a firmware version. A part of digits only is a number of any
length, kept as its digits without leading zeros; every other part, the empty one included, is a
word.
-/

namespace FleetResponse.Firmware

inductive Segment
  | number (digits : List Char)
  | word (text : List Char)
deriving DecidableEq, Repr

namespace Segment

def zero : Segment := .number ['0']

def significant (digits : List Char) : List Char :=
  match digits.dropWhile (· = '0') with
  | [] => ['0']
  | c :: cs => c :: cs

def parse (part : List Char) : Segment :=
  if part ≠ [] ∧ part.all Char.isDigit then .number (significant part) else .word part

/-- Of two numbers without leading zeros the one with more digits is larger; of two with as many
digits, the digits decide from the left. -/
def compare : Segment → Segment → Ordering
  | .number a, .number b => (Ord.compare a.length b.length).then (Ord.compare a b)
  | .number _, .word _ => .lt
  | .word _, .number _ => .gt
  | .word a, .word b => Ord.compare a b

instance : Ord Segment where
  compare := compare

def list (text : List Char) : List Segment :=
  (Text.fields '.' text).map parse

end Segment

end FleetResponse.Firmware
