import FleetResponse.Time.Calendar

namespace FleetResponse

def nanosPerSecond : Nat := 1000000000

/-- A moment in universal time. A leap second belongs to the second before it, whose nanoseconds
then go on past a thousand million; any second may have one. -/
structure Timestamp where
  day : Int
  second : Nat
  nano : Nat
  day_ge : (Date.mk (-262143) 1 1).dayNumber ≤ day := by decide
  day_le : day ≤ (Date.mk 262142 12 31).dayNumber := by decide
  second_lt : second < 86400 := by decide
  nano_lt : nano < 2 * nanosPerSecond := by decide
deriving DecidableEq, Repr

namespace Timestamp

def of? (day : Int) (second nano : Nat) : Option Timestamp :=
  if h : ((Date.mk (-262143) 1 1).dayNumber ≤ day ∧ day ≤ (Date.mk 262142 12 31).dayNumber)
      ∧ second < 86400 ∧ nano < 2 * nanosPerSecond
  then some ⟨day, second, nano, h.1.1, h.1.2, h.2.1, h.2.2⟩
  else none

theorem of?_self (t : Timestamp) : of? t.day t.second t.nano = some t :=
  dif_pos ⟨⟨t.day_ge, t.day_le⟩, t.second_lt, t.nano_lt⟩

theorem of?_eq_some_iff {day : Int} {second nano : Nat} {t : Timestamp} :
    of? day second nano = some t ↔ t.day = day ∧ t.second = second ∧ t.nano = nano := by
  constructor
  · intro made
    unfold of? at made
    split at made
    · obtain rfl := Option.some.inj made
      exact ⟨rfl, rfl, rfl⟩
    · cases made
  · rintro ⟨rfl, rfl, rfl⟩
    exact t.of?_self

def IsLeap (t : Timestamp) : Prop :=
  nanosPerSecond ≤ t.nano

instance (t : Timestamp) : Decidable t.IsLeap :=
  inferInstanceAs (Decidable (_ ≤ _))

def compare (a b : Timestamp) : Ordering :=
  (Ord.compare a.day b.day).then
    ((Ord.compare a.second b.second).then (Ord.compare a.nano b.nano))

instance : Ord Timestamp where
  compare := compare

def le (a b : Timestamp) : Bool :=
  (compare a b).isLE

/-- The timestamp cut to the microsecond, toward the past. A leap second stays one. -/
def storagePrecision (t : Timestamp) : Timestamp :=
  { t with
    nano := t.nano / 1000 * 1000
    nano_lt := by have := t.nano_lt; simp only [nanosPerSecond] at *; omega }

end Timestamp

end FleetResponse
