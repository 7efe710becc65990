import FleetResponse.Text.Blank
import FleetResponse.Text.Numeral
import FleetResponse.Time.Timestamp

namespace FleetResponse.Timestamp

namespace Reader

open Text

def number (most : Nat) (cs : List Char) : Option (Nat × List Char) :=
  let cs := skipBlank cs
  match (cs.take most).takeWhile Char.isDigit with
  | [] => none
  | digits => some (digitsValue digits, cs.drop digits.length)

def longNumber (cs : List Char) : Option (Nat × List Char) :=
  match cs.span Char.isDigit with
  | ([], _) => none
  | (digits, rest) => some (digitsValue digits, rest)

def year (cs : List Char) : Option (Int × List Char) :=
  match skipBlank cs with
  | '-' :: cs => (longNumber cs).map fun (n, rest) => (-(n : Int), rest)
  | '+' :: cs => (longNumber cs).map fun (n, rest) => ((n : Int), rest)
  | cs => (number 4 cs).map fun (n, rest) => ((n : Int), rest)

def after? (mark : Char) (cs : List Char) : Option (List Char) :=
  match skipBlank cs with
  | c :: rest => if c = mark then some rest else none
  | [] => none

def date (cs : List Char) : Option (Date × List Char) := do
  let (year, cs) ← year cs
  let cs ← after? '-' cs
  let (month, cs) ← number 2 cs
  let cs ← after? '-' cs
  let (day, cs) ← number 2 cs
  return (⟨year, month, day⟩, cs)

def nanos (digits : List Char) : Nat :=
  digitsValue ((digits ++ List.replicate 9 '0').take 9)

def fraction : List Char → Option (Nat × List Char)
  | '.' :: cs =>
      match cs.span Char.isDigit with
      | ([], _) => none
      | (digits, rest) => some (nanos digits, rest)
  | cs => some (0, cs)

/-- Second of the day and nanosecond. Second 60 is the leap second after second 59. -/
def time (cs : List Char) : Option ((Nat × Nat) × List Char) := do
  let (hour, cs) ← number 2 cs
  let cs ← after? ':' cs
  let (minute, cs) ← number 2 cs
  let cs ← after? ':' cs
  let (second, cs) ← number 2 cs
  let (nano, cs) ← fraction cs
  if hour < 24 ∧ minute < 60 ∧ second ≤ 60 then
    let start := 3600 * hour + 60 * minute
    if second = 60 then return ((start + 59, nanosPerSecond + nano), cs)
    else return ((start + second, nano), cs)
  else none

def twoDigits : List Char → Option (Nat × List Char)
  | a :: b :: rest => do
      let a ← digitValue? a
      let b ← digitValue? b
      return (10 * a + b, rest)
  | _ => none

def isBehind? (c : Char) : Option Bool :=
  if c = '+' then some false else if c = '-' ∨ c = '−' then some true else none

def signedOffset : List Char → Option (Int × List Char)
  | [] => none
  | sign :: cs => do
      let behind ← isBehind? sign
      let (hours, cs) ← twoDigits cs
      let (minutes, cs) ← twoDigits (cs.dropWhile fun c => c = ':' || isBlank c)
      let total : Int := 60 * hours + minutes
      if hours < 24 ∧ minutes < 60 then return (if behind then -total else total, cs) else none

def offset (cs : List Char) : Option (Int × List Char) :=
  match skipBlank cs with
  | 'Z' :: rest => some (0, rest)
  | 'z' :: rest => some (0, rest)
  | a :: b :: c :: rest =>
      if a.toUpper = 'U' ∧ b.toUpper = 'T' ∧ c.toUpper = 'C' then some (0, rest)
      else signedOffset (a :: b :: c :: rest)
  | _ => none

def joint? : List Char → Option (List Char)
  | c :: rest => if c = 'T' ∨ c = 't' ∨ c = ' ' then some rest else none
  | [] => none

end Reader

/-- The moment of a local date and time, so many minutes ahead of universal time. Both the local
date and the universal one have to be in range. -/
def ofLocal? (date : Date) (second nano : Nat) (ahead : Int) : Option Timestamp := do
  if date.IsValid then
    let there ← of? date.dayNumber second nano
    let seconds := there.second - 60 * ahead
    of? (there.day + seconds / 86400) (seconds % 86400).toNat nano
  else none

def parse? (text : String) : Option Timestamp := do
  let (date, cs) ← Reader.date text.toList
  let cs ← Reader.joint? cs
  let ((second, nano), cs) ← Reader.time cs
  let (ahead, cs) ← Reader.offset cs
  if Text.allBlank cs then ofLocal? date second nano ahead else none

end FleetResponse.Timestamp
