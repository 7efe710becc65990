namespace FleetResponse

structure Date where
  year : Int
  month : Nat
  day : Nat
deriving DecidableEq, Repr

namespace Calendar

def isLeap (year : Int) : Bool :=
  year % 4 = 0 && (year % 100 ≠ 0 || year % 400 = 0)

def monthLengths (year : Int) : List Nat :=
  [31, if isLeap year then 29 else 28, 31, 30, 31, 30, 31, 31, 30, 31, 30, 31]

def total (lengths : List Nat) : Nat :=
  lengths.foldr (fun length days => length + days) 0

def daysBefore (year : Int) : Int :=
  365 * year + (year + 3) / 4 - (year + 99) / 100 + (year + 399) / 400

def epoch : Int := daysBefore 1970

def cycle : Int := daysBefore 400

/-- The year of a day, which is counted from the start of year zero. Within a cycle the quotient
by 365 is the year or the one after it. -/
def yearOf (day : Int) : Int :=
  let guess := 400 * (day / cycle) + day % cycle / 365
  if daysBefore guess ≤ day then guess else guess - 1

def locate : List Nat → Nat → Nat × Nat
  | [], day => (0, day)
  | length :: more, day =>
      if day < length then (0, day)
      else
        let (month, day) := locate more (day - length)
        (month + 1, day)

end Calendar

namespace Date

open Calendar

def IsValid (date : Date) : Prop :=
  1 ≤ date.month ∧ date.month ≤ 12 ∧ 1 ≤ date.day
    ∧ date.day ≤ (monthLengths date.year).getD (date.month - 1) 0

instance (date : Date) : Decidable date.IsValid :=
  inferInstanceAs (Decidable (_ ∧ _))

def dayNumber (date : Date) : Int :=
  daysBefore date.year - epoch + total ((monthLengths date.year).take (date.month - 1))
    + (date.day - 1 : Nat)

def ofDayNumber (day : Int) : Date :=
  let day := day + epoch
  let year := yearOf day
  let (month, rest) := locate (monthLengths year) (day - daysBefore year).toNat
  ⟨year, month + 1, rest + 1⟩

end Date

end FleetResponse
