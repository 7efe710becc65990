import Mathlib.Order.Bounds.Basic
import FleetResponse.Proofs.Time.Calendar
import FleetResponse.Proofs.Time.Precision

namespace FleetResponse.Timestamp

def date (t : Timestamp) : Date :=
  Date.ofDayNumber t.day

theorem date_isValid (t : Timestamp) : t.date.IsValid :=
  Date.isValid_ofDayNumber t.day

theorem dayNumber_date (t : Timestamp) : t.date.dayNumber = t.day :=
  Date.dayNumber_ofDayNumber t.day

/-! ## The range of timestamps -/

theorem dayNumber_inRange_iff {date : Date} (valid : date.IsValid) :
    (Date.mk (-262143) 1 1).dayNumber ≤ date.dayNumber ∧
        date.dayNumber ≤ (Date.mk 262142 12 31).dayNumber ↔
      -262143 ≤ date.year ∧ date.year ≤ 262142 := by
  have first : (Date.mk (-262143) 1 1).dayNumber =
      Calendar.daysBefore (-262143) - Calendar.epoch := rfl
  have last : (Date.mk 262142 12 31).dayNumber =
      Calendar.daysBefore 262143 - Calendar.epoch - 1 := rfl
  have started := date.le_year_iff valid (-262143)
  have ended := date.le_year_iff valid 262143
  omega

theorem year_inRange (t : Timestamp) : -262143 ≤ t.date.year ∧ t.date.year ≤ 262142 := by
  apply (dayNumber_inRange_iff t.date_isValid).mp
  rw [dayNumber_date]
  exact ⟨t.day_ge, t.day_le⟩

theorem exists_iff {date : Date} {second nano : Nat} :
    (∃ t : Timestamp, t.date = date ∧ t.second = second ∧ t.nano = nano) ↔
      date.IsValid ∧ (-262143 ≤ date.year ∧ date.year ≤ 262142) ∧ second < 86400 ∧
        nano < 2 * nanosPerSecond := by
  constructor
  · rintro ⟨t, rfl, rfl, rfl⟩
    exact ⟨t.date_isValid, t.year_inRange, t.second_lt, t.nano_lt⟩
  · rintro ⟨valid, years, inDay, inSecond⟩
    obtain ⟨low, high⟩ := (dayNumber_inRange_iff valid).mpr years
    exact ⟨⟨date.dayNumber, second, nano, low, high, inDay, inSecond⟩,
      Date.ofDayNumber_dayNumber valid, rfl, rfl⟩

/-! ## The order of timestamps -/

instance : PartialOrder Timestamp where
  le s t := s.le t = true
  le_refl t := (t.le_total t).elim id id
  le_trans s t u st tu := by
    rw [le_iff] at *
    omega
  le_antisymm _ _ := le_antisymm

variable {s t : Timestamp}

theorem day_lt_iff : s.day < t.day ↔ s.date.Before t.date := by
  rw [← Date.dayNumber_lt_iff s.date_isValid t.date_isValid, dayNumber_date, dayNumber_date]

theorem day_eq_iff : s.day = t.day ↔ s.date = t.date := by
  constructor
  · exact congrArg Date.ofDayNumber
  · intro same
    rw [← s.dayNumber_date, same, dayNumber_date]

theorem le_iff_date : s ≤ t ↔ s.date.Before t.date ∨
    s.date = t.date ∧ (s.second < t.second ∨ s.second = t.second ∧ s.nano ≤ t.nano) := by
  rw [← day_lt_iff, ← day_eq_iff]
  exact le_iff_lexicographic

/-! ## Going back in time -/

/-- The timestamp some nanoseconds before another, if it is in range. No leap second is counted but
for the one that the later timestamp is in. -/
def earlier? (t : Timestamp) (nanos : Nat) : Option Timestamp :=
  if nanosPerSecond + nanos ≤ t.nano then of? t.day t.second (t.nano - nanos)
  else
    let left := t.sinceEpoch - nanos
    let seconds := left / nanosPerSecond
    of? (databaseEpoch + seconds / secondsPerDay) (seconds % secondsPerDay).toNat
      (left % nanosPerSecond).toNat

theorem sinceEpoch_of_earlier? {nanos : Nat} (back : t.earlier? nanos = some s) :
    s.sinceEpoch = t.sinceEpoch - nanos := by
  unfold earlier? at back
  split at back
  · obtain ⟨day, second, nano⟩ := of?_eq_some_iff.mp back
    rw [sinceEpoch, sinceEpoch, day, second, nano]
    omega
  · obtain ⟨day, second, nano⟩ := of?_eq_some_iff.mp back
    rw [sinceEpoch, day, second, nano]
    simp only [secondsPerDay, nanosPerSecond]
    omega

theorem earlier?_rest (t : Timestamp) : t.earlier? (t.nano % 1000) = some t.storagePrecision := by
  rw [earlier?]
  split
  · exact of?_eq_some_iff.mpr ⟨rfl, rfl, by rw [storagePrecision_nano]; omega⟩
  · rename_i noLeap
    have seconds : (t.sinceEpoch - (t.nano % 1000 : Nat)) / nanosPerSecond = t.secondNumber := by
      rw [sinceEpoch_eq]
      simp only [nanosPerSecond] at noLeap ⊢
      omega
    have nano : ((t.sinceEpoch - (t.nano % 1000 : Nat)) % nanosPerSecond).toNat =
        t.storagePrecision.nano := by
      rw [sinceEpoch_eq, storagePrecision_nano]
      simp only [nanosPerSecond] at noLeap ⊢
      omega
    simp only
    rw [seconds, nano]
    exact t.storagePrecision.of?_secondNumber

/-! ## Whole microseconds -/

theorem storagePrecision_le (t : Timestamp) : t.storagePrecision ≤ t := by
  refine le_iff.mpr (.inr ⟨rfl, ?_⟩)
  rw [storagePrecision_nano]
  omega

theorem storagePrecision_isLeap (t : Timestamp) : t.storagePrecision.IsLeap ↔ t.IsLeap := by
  rw [IsLeap, IsLeap, storagePrecision_nano, nanosPerSecond]
  omega

theorem storagePrecision_monotone : Monotone storagePrecision :=
  fun _ _ => storagePrecision_mono

theorem isGreatest_storagePrecision (t : Timestamp) :
    IsGreatest {s : Timestamp | s.nano % 1000 = 0 ∧ s ≤ t} t.storagePrecision := by
  constructor
  · exact ⟨Nat.mul_mod_left .., t.storagePrecision_le⟩
  · rintro s ⟨whole, before⟩
    rw [← storagePrecision_of_whole whole]
    exact storagePrecision_monotone before

end FleetResponse.Timestamp
