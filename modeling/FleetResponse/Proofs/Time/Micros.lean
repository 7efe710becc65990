import FleetResponse.Time.Micros
import FleetResponse.Time.Window

namespace FleetResponse

namespace Timestamp

def secondNumber (t : Timestamp) : Int :=
  (t.day - databaseEpoch) * secondsPerDay + t.second

/-- A timestamp before 2000 with a rest below the microsecond: cut toward 2000, it moves up. -/
def Raised (t : Timestamp) : Prop :=
  t.sinceEpoch < 0 ∧ t.nano % 1000 ≠ 0

/-- A database counts a leap second into the second after it. -/
def CountsInto (s t : Timestamp) : Prop :=
  s.IsLeap ∧ t.secondNumber = s.secondNumber + 1

instance (t : Timestamp) : Decidable t.Raised :=
  inferInstanceAs (Decidable (_ ∧ _))

theorem sinceEpoch_eq (t : Timestamp) : t.sinceEpoch = t.secondNumber * 1000000000 + t.nano :=
  rfl

theorem le_iff_lexicographic {s t : Timestamp} : s.le t = true ↔ s.day < t.day ∨
    s.day = t.day ∧ (s.second < t.second ∨ s.second = t.second ∧ s.nano ≤ t.nano) := by
  rw [le, compare, Ordering.isLE_then_iff_or, Ordering.isLE_then_iff_or, Int.compare_eq_lt,
    Int.compare_eq_eq, Nat.compare_eq_lt, Nat.compare_eq_eq, Nat.isLE_compare]

theorem le_iff {s t : Timestamp} : s.le t = true ↔
    s.secondNumber < t.secondNumber ∨ s.secondNumber = t.secondNumber ∧ s.nano ≤ t.nano := by
  have s_inside := s.second_lt
  have t_inside := t.second_lt
  rw [le_iff_lexicographic]
  simp only [secondNumber, secondsPerDay]
  omega

theorem of?_secondNumber (t : Timestamp) : of? (databaseEpoch + t.secondNumber / secondsPerDay)
    (t.secondNumber % secondsPerDay).toNat t.nano = some t := by
  have inside := t.second_lt
  refine of?_eq_some_iff.mpr ⟨?_, ?_, rfl⟩
  · simp only [secondNumber, secondsPerDay]
    omega
  · simp only [secondNumber, secondsPerDay]
    omega

theorem micros_eq (t : Timestamp) : t.micros =
    t.secondNumber * 1000000 + (t.nano / 1000 : Nat) + if t.Raised then 1 else 0 := by
  rw [micros, Int.tdiv_eq_ediv, sinceEpoch_eq, show Int.sign 1000 = 1 from rfl]
  by_cases raised : t.Raised
  · rw [if_pos raised, if_neg]
    · omega
    · obtain ⟨early, rest⟩ := raised
      rw [sinceEpoch_eq] at early
      omega
  · rw [if_neg raised, if_pos]
    · omega
    · rw [Raised, sinceEpoch_eq] at raised
      omega

theorem storagePrecision_secondNumber (t : Timestamp) :
    t.storagePrecision.secondNumber = t.secondNumber :=
  rfl

theorem storagePrecision_nano (t : Timestamp) :
    t.storagePrecision.nano = t.nano / 1000 * 1000 :=
  rfl

theorem storagePrecision_of_whole {t : Timestamp} (whole : t.nano % 1000 = 0) :
    t.storagePrecision = t := by
  have same : t.nano / 1000 * 1000 = t.nano := by omega
  simp only [storagePrecision, same]

theorem storagePrecision_not_raised (t : Timestamp) : ¬ t.storagePrecision.Raised := by
  rintro ⟨-, rest⟩
  exact rest (Nat.mul_mod_left ..)

end Timestamp

namespace Window

variable (w : Window) (t : Timestamp)

def Spans : Prop :=
  w.opens.micros ≤ t.micros ∧ t.micros ≤ w.closes.micros

instance : Decidable (w.Spans t) :=
  inferInstanceAs (Decidable (_ ∧ _))

/-- How a timestamp in a window comes to have a number outside: it is raised past the closing bound,
or a leap second is counted past the closing bound, or the opening bound, a leap second, is counted
past the timestamp. -/
def Loses : Prop :=
  t.Raised ∧ t.micros = w.closes.micros + 1 ∨
    t.CountsInto w.closes ∧ w.closes.micros < t.micros ∨
    w.opens.CountsInto t ∧ t.micros < w.opens.micros

/-- How a timestamp outside a window comes to have a number inside: it is raised onto the opening
bound, or a leap second is counted past the opening bound, or the closing bound, a leap second, is
counted past the timestamp. -/
def Gains : Prop :=
  t.Raised ∧ t.micros = w.opens.micros ∧ w.opens.le t.storagePrecision = false ∨
    t.CountsInto w.opens ∧ w.opens.micros ≤ t.micros ∨
    w.closes.CountsInto t ∧ t.micros ≤ w.closes.micros

theorem bound_micros {bound : Timestamp} (stored : bound.storagePrecision = bound) :
    bound.micros = bound.secondNumber * 1000000 + (bound.nano / 1000 : Nat) ∧
      bound.nano % 1000 = 0 := by
  have plain : ¬ bound.Raised := stored ▸ bound.storagePrecision_not_raised
  have whole : bound.nano % 1000 = 0 := by
    rw [← stored]
    exact Nat.mul_mod_left ..
  refine ⟨?_, whole⟩
  rw [bound.micros_eq, if_neg plain, Int.add_zero]

variable {w t}

theorem not_loses_of_spans (spans : w.Spans t) : ¬ w.Loses t := by
  obtain ⟨low, high⟩ := spans
  rintro (⟨-, past⟩ | ⟨-, past⟩ | ⟨-, past⟩) <;> omega

theorem contains_iff : w.contains t.storagePrecision = true ↔
    w.opens.le t.storagePrecision = true ∧ t.storagePrecision.le w.closes = true :=
  Bool.and_eq_true_iff

theorem not_gains_of_contains (inside : w.contains t.storagePrecision = true) : ¬ w.Gains t := by
  obtain ⟨low, high⟩ := contains_iff.mp inside
  rintro (⟨-, -, before⟩ | ⟨⟨-, next⟩, -⟩ | ⟨⟨-, next⟩, -⟩)
  · rw [low] at before
    cases before
  · rw [Timestamp.le_iff, Timestamp.storagePrecision_secondNumber] at low
    omega
  · rw [Timestamp.le_iff, Timestamp.storagePrecision_secondNumber] at high
    omega

theorem loses_of_not_spans (inside : w.contains t.storagePrecision = true)
    (outside : ¬ w.Spans t) : w.Loses t := by
  obtain ⟨low, high⟩ := contains_iff.mp inside
  rw [Timestamp.le_iff, Timestamp.storagePrecision_secondNumber,
    Timestamp.storagePrecision_nano] at low high
  obtain ⟨opens, opens_whole⟩ := bound_micros w.opens_stored
  obtain ⟨closes, closes_whole⟩ := bound_micros w.closes_stored
  have opens_lt := w.opens.nano_lt
  have t_lt := t.nano_lt
  have number := t.micros_eq
  rw [Spans] at outside
  simp only [Loses, Timestamp.CountsInto, Timestamp.IsLeap, nanosPerSecond] at *
  by_cases raised : t.Raised
  · rw [if_pos raised] at number
    simp only [raised, true_and]
    omega
  · rw [if_neg raised] at number
    omega

theorem gains_of_not_contains (spans : w.Spans t)
    (outside : ¬ w.contains t.storagePrecision = true) : w.Gains t := by
  obtain ⟨low, high⟩ := spans
  obtain ⟨opens, opens_whole⟩ := bound_micros w.opens_stored
  obtain ⟨closes, closes_whole⟩ := bound_micros w.closes_stored
  have closes_lt := w.closes.nano_lt
  have t_lt := t.nano_lt
  have number := t.micros_eq
  rw [contains_iff, Timestamp.le_iff, Timestamp.le_iff, Timestamp.storagePrecision_secondNumber,
    Timestamp.storagePrecision_nano] at outside
  simp only [Gains, Timestamp.CountsInto, Timestamp.IsLeap, nanosPerSecond,
    ← Bool.not_eq_true, Timestamp.le_iff, Timestamp.storagePrecision_secondNumber,
    Timestamp.storagePrecision_nano] at *
  by_cases raised : t.Raised
  · rw [if_pos raised] at number
    simp only [raised, true_and]
    omega
  · rw [if_neg raised] at number
    omega

theorem alike_iff : (w.Spans t ↔ w.contains t.storagePrecision = true) ↔
    ¬ (w.contains t.storagePrecision = true ∧ w.Loses t) ∧ ¬ (w.Spans t ∧ w.Gains t) := by
  constructor
  · intro alike
    exact ⟨fun ⟨inside, loses⟩ => not_loses_of_spans (alike.mpr inside) loses,
      fun ⟨spans, gains⟩ => not_gains_of_contains (alike.mp spans) gains⟩
  · rintro ⟨no_loss, no_gain⟩
    constructor
    · intro spans
      exact Classical.byContradiction fun outside =>
        no_gain ⟨spans, gains_of_not_contains spans outside⟩
    · intro inside
      exact Classical.byContradiction fun outside =>
        no_loss ⟨inside, loses_of_not_spans inside outside⟩

end Window

end FleetResponse
