import FleetResponse.Json.Value

/-!
# Double precision numbers

The double that a JSON number literal stands for, as the bits of its IEEE 754 form.

The literal is cut down to a significand below 2^64 and a power of ten; the significand is rounded
to a double, and then multiplied or divided by the double of the power. So the result is the
nearest double wherever significand and power are doubles themselves, and within two roundings of
it elsewhere.
-/

namespace FleetResponse.Json

structure Decimal where
  significand : Nat
  power : Int
deriving DecidableEq, Repr

namespace Decimal

def absorb (significand : Nat) : List Char → Nat × List Char
  | [] => (significand, [])
  | c :: cs =>
      let next := 10 * significand + (Text.digitValue? c).getD 0
      if next < 18446744073709551616 then absorb next cs else (significand, c :: cs)

def ofDigits (whole fraction : List Char) : Decimal :=
  let (significand, dropped) := absorb 0 whole
  let (significand, rest) := absorb significand fraction
  ⟨significand, dropped.length - (fraction.length - rest.length)⟩

def exponentLimit : Nat := 2147483647

/-- Significand and power of a literal. A positive exponent beyond the limit is refused unless the
significand is zero; a negative one makes the number zero. -/
def ofNumeral? (n : Numeral) : Option Decimal :=
  let decimal := ofDigits n.whole n.fraction
  match n.exponent with
  | none => some decimal
  | some (negative, digits) =>
      let exponent := Text.digitsValue digits
      if exponent ≤ exponentLimit then
        some ⟨decimal.significand,
          if negative then decimal.power - exponent else decimal.power + exponent⟩
      else if negative ∨ decimal.significand = 0 then some ⟨0, 0⟩
      else none

def powerLimit : Nat := 308

/-- Scales a double by a power of ten. Powers below the limit are taken out in steps, which ends
at zero after three of them at the latest. -/
def scale : Nat → Float → Int → Option Float
  | steps, f, power =>
      if power.natAbs ≤ powerLimit then
        let factor := Float.ofScientific 1 false power.natAbs
        if power < 0 then some (f / factor)
        else if (f * factor).isInf then none else some (f * factor)
      else if f == 0 then some f
      else if power ≥ 0 then none
      else match steps with
        | 0 => some 0
        | steps + 1 => scale steps (f / Float.ofScientific 1 false powerLimit) (power + powerLimit)

end Decimal

def Numeral.double? (n : Numeral) : Option UInt64 := do
  let decimal ← Decimal.ofNumeral? n
  let f ← Decimal.scale 3 decimal.significand.toUInt64.toFloat decimal.power
  return (if n.negative then -f else f).toBits

def asDouble? : Json → Option UInt64
  | .number literal => literal.double?
  | _ => none

end FleetResponse.Json
