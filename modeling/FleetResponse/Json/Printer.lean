import FleetResponse.Json.Value

namespace FleetResponse.Json

namespace Printer

def hexDigit (n : Nat) : Char :=
  ['0', '1', '2', '3', '4', '5', '6', '7', '8', '9', 'a', 'b', 'c', 'd', 'e', 'f'].getD n '0'

def escape (c : Char) : List Char :=
  if c = '"' then ['\\', '"']
  else if c = '\\' then ['\\', '\\']
  else if c = '\x08' then ['\\', 'b']
  else if c = '\x0c' then ['\\', 'f']
  else if c = '\n' then ['\\', 'n']
  else if c = '\r' then ['\\', 'r']
  else if c = '\t' then ['\\', 't']
  else if c.toNat < 0x20 then
    ['\\', 'u', '0', '0', hexDigit (c.toNat / 16), hexDigit (c.toNat % 16)]
  else [c]

def string : Option String → List Char
  | none => ['n', 'u', 'l', 'l']
  | some s => '"' :: s.toList.flatMap escape ++ ['"']

def numeral (n : Numeral) : List Char :=
  (if n.negative then ['-'] else []) ++ n.whole
    ++ (if n.fraction = [] then [] else '.' :: n.fraction)
    ++ match n.exponent with
      | none => []
      | some (negative, digits) => 'e' :: (if negative then ['-'] else []) ++ digits

mutual

def value : Json → List Char
  | .null => ['n', 'u', 'l', 'l']
  | .bool true => ['t', 'r', 'u', 'e']
  | .bool false => ['f', 'a', 'l', 's', 'e']
  | .number n => numeral n
  | .string s => string s
  | .array items => '[' :: elements items ++ [']']
  | .object members => '\x7b' :: entries members ++ ['\x7d']

def elements : List Json → List Char
  | [] => []
  | [item] => value item
  | item :: next :: more => value item ++ ',' :: elements (next :: more)

def entries : List (Option String × Json) → List Char
  | [] => []
  | [(name, item)] => string name ++ ':' :: value item
  | (name, item) :: next :: more =>
      string name ++ ':' :: value item ++ ',' :: entries (next :: more)

end

def newLine (level : Nat) : List Char :=
  '\n' :: List.replicate (2 * level) ' '

mutual

def indented (level : Nat) : Json → List Char
  | .array (item :: items) =>
      '[' :: indentedElements (level + 1) (item :: items) ++ newLine level ++ [']']
  | .object (member :: members) =>
      '\x7b' :: indentedEntries (level + 1) (member :: members) ++ newLine level ++ ['\x7d']
  | .array [] => ['[', ']']
  | .object [] => ['\x7b', '\x7d']
  | .null => ['n', 'u', 'l', 'l']
  | .bool true => ['t', 'r', 'u', 'e']
  | .bool false => ['f', 'a', 'l', 's', 'e']
  | .number n => numeral n
  | .string s => string s

def indentedElements (level : Nat) : List Json → List Char
  | [] => []
  | [item] => newLine level ++ indented level item
  | item :: next :: more =>
      newLine level ++ indented level item ++ ',' :: indentedElements level (next :: more)

def indentedEntries (level : Nat) : List (Option String × Json) → List Char
  | [] => []
  | [(name, item)] => newLine level ++ string name ++ [':', ' '] ++ indented level item
  | (name, item) :: next :: more =>
      newLine level ++ string name ++ [':', ' '] ++ indented level item
        ++ ',' :: indentedEntries level (next :: more)

end

end Printer

def render (v : Json) : String :=
  String.ofList (Printer.value v)

def renderIndented (v : Json) : String :=
  String.ofList (Printer.indented 0 v)

end FleetResponse.Json
