import FleetResponse.Json.Value

/-!
# Reading JSON

A strict reader of JSON texts over their characters: no comments, no trailing commas, no leading
zeros, no raw control characters. Blanks are the four that the format names.
-/

namespace FleetResponse.Json

namespace Reader

def isSpace (c : Char) : Bool :=
  c = ' ' || c = '\t' || c = '\n' || c = '\r'

def skipSpace (cs : List Char) : List Char :=
  cs.dropWhile isSpace

/-! ## String literals -/

/-- One written character of a string literal: itself, or a UTF-16 unit of a numeric escape. -/
inductive Piece
  | char (c : Char)
  | unit (n : Nat)
deriving DecidableEq, Repr

def hexValue? (c : Char) : Option Nat :=
  if c.isDigit then some (c.toNat - '0'.toNat)
  else if 'a' ≤ c ∧ c ≤ 'f' then some (c.toNat - 'a'.toNat + 10)
  else if 'A' ≤ c ∧ c ≤ 'F' then some (c.toNat - 'A'.toNat + 10)
  else none

def unit? (a b c d : Char) : Option Nat := do
  let a ← hexValue? a
  let b ← hexValue? b
  let c ← hexValue? c
  let d ← hexValue? d
  return ((a * 16 + b) * 16 + c) * 16 + d

def shortEscape? : Char → Option Char
  | '"' => some '"'
  | '\\' => some '\\'
  | '/' => some '/'
  | 'b' => some '\x08'
  | 'f' => some '\x0c'
  | 'n' => some '\n'
  | 'r' => some '\r'
  | 't' => some '\t'
  | _ => none

def pieces : List Char → Option (List Piece × List Char)
  | '"' :: rest => some ([], rest)
  | '\\' :: 'u' :: a :: b :: c :: d :: rest => do
      let unit ← unit? a b c d
      let (more, rest) ← pieces rest
      return (.unit unit :: more, rest)
  | '\\' :: c :: rest => do
      let char ← shortEscape? c
      let (more, rest) ← pieces rest
      return (.char char :: more, rest)
  | c :: rest =>
      if c.toNat < 0x20 ∨ c = '\\' then none
      else do
        let (more, rest) ← pieces rest
        return (.char c :: more, rest)
  | [] => none

def isHighSurrogate (n : Nat) : Bool :=
  0xD800 ≤ n && n < 0xDC00

def isLowSurrogate (n : Nat) : Bool :=
  0xDC00 ≤ n && n < 0xE000

/-- The text that pieces write: two halves of a surrogate pair make one character, and a half
without its partner makes none. -/
def join? : List Piece → Option (List Char)
  | [] => some []
  | .char c :: rest => (join? rest).map (c :: ·)
  | [.unit n] =>
      if isHighSurrogate n || isLowSurrogate n then none else some [Char.ofNat n]
  | .unit n :: .char c :: rest =>
      if isHighSurrogate n || isLowSurrogate n then none
      else (join? rest).map (Char.ofNat n :: c :: ·)
  | .unit n :: .unit m :: rest =>
      if isHighSurrogate n && isLowSurrogate m then
        (join? rest).map (Char.ofNat (0x10000 + (n - 0xD800) * 0x400 + (m - 0xDC00)) :: ·)
      else if isHighSurrogate n || isLowSurrogate n then none
      else (join? (.unit m :: rest)).map (Char.ofNat n :: ·)

def string (cs : List Char) : Option (Option String × List Char) := do
  let (written, rest) ← pieces cs
  return ((join? written).map String.ofList, rest)

/-! ## Number literals -/

def whole (cs : List Char) : Option (List Char × List Char) :=
  match cs.span Char.isDigit with
  | ([], _) => none
  | ('0' :: _ :: _, _) => none
  | read => some read

def someDigits (cs : List Char) : Option (List Char × List Char) :=
  match cs.span Char.isDigit with
  | ([], _) => none
  | read => some read

def fraction : List Char → Option (List Char × List Char)
  | '.' :: cs => someDigits cs
  | cs => some ([], cs)

def exponentSign : List Char → Bool × List Char
  | '-' :: cs => (true, cs)
  | '+' :: cs => (false, cs)
  | cs => (false, cs)

def exponent : List Char → Option (Option (Bool × List Char) × List Char)
  | c :: cs =>
      if c = 'e' ∨ c = 'E' then
        let (negative, cs) := exponentSign cs
        (someDigits cs).map fun (digits, rest) => (some (negative, digits), rest)
      else some (none, c :: cs)
  | [] => some (none, [])

def minus : List Char → Bool × List Char
  | '-' :: cs => (true, cs)
  | cs => (false, cs)

def numeral (cs : List Char) : Option (Numeral × List Char) := do
  let (negative, cs) := minus cs
  let (whole, cs) ← whole cs
  let (fraction, cs) ← fraction cs
  let (exponent, cs) ← exponent cs
  return (⟨negative, whole, fraction, exponent⟩, cs)

/-! ## Values -/

def after? (mark : Char) (cs : List Char) : Option (List Char) :=
  match skipSpace cs with
  | c :: rest => if c = mark then some rest else none
  | [] => none

mutual

/-- A value, with blanks allowed before it. The first argument bounds the number of nested calls;
twice the length of the text is enough. -/
def value : Nat → List Char → Option (Json × List Char)
  | 0, _ => none
  | bound + 1, cs =>
      match skipSpace cs with
      | 'n' :: 'u' :: 'l' :: 'l' :: rest => some (.null, rest)
      | 't' :: 'r' :: 'u' :: 'e' :: rest => some (.bool true, rest)
      | 'f' :: 'a' :: 'l' :: 's' :: 'e' :: rest => some (.bool false, rest)
      | '"' :: rest => (string rest).map fun (s, rest) => (.string s, rest)
      | '[' :: rest =>
          match after? ']' rest with
          | some rest => some (.array [], rest)
          | none => (items bound rest).map fun (read, rest) => (.array read, rest)
      | '\x7b' :: rest =>
          match after? '\x7d' rest with
          | some rest => some (.object [], rest)
          | none => (members bound rest).map fun (read, rest) => (.object read, rest)
      | cs => (numeral cs).map fun (n, rest) => (.number n, rest)

def items : Nat → List Char → Option (List Json × List Char)
  | 0, _ => none
  | bound + 1, cs => do
      let (item, rest) ← value bound cs
      match after? ',' rest with
      | some rest =>
          let (more, rest) ← items bound rest
          return (item :: more, rest)
      | none =>
          let rest ← after? ']' rest
          return ([item], rest)

def members : Nat → List Char → Option (List (Option String × Json) × List Char)
  | 0, _ => none
  | bound + 1, cs => do
      let rest ← after? '"' cs
      let (name, rest) ← string rest
      let rest ← after? ':' rest
      let (item, rest) ← value bound rest
      match after? ',' rest with
      | some rest =>
          let (more, rest) ← members bound rest
          return ((name, item) :: more, rest)
      | none =>
          let rest ← after? '\x7d' rest
          return ([(name, item)], rest)

end

end Reader

def parse? (document : String) : Option Json :=
  let cs := document.toList
  match Reader.value (2 * cs.length + 2) cs with
  | none => none
  | some (v, rest) => if Reader.skipSpace rest = [] then some v else none

end FleetResponse.Json
