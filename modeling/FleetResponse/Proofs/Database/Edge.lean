import FleetResponse.Database.Readings
import FleetResponse.Proofs.Time.Micros

/-!
# The edge of a window in a database

A database compares the number of a reading's timestamp with the numbers of the bounds of a window.
The number is made of the timestamp as it was given, not of the stored one.
-/

namespace FleetResponse

namespace Window

variable {w : Window} {t : Timestamp}

theorem spans_iff (low : ¬ t.Raised) (plain : ¬ t.IsLeap) (opens : ¬ w.opens.IsLeap)
    (closes : ¬ w.closes.IsLeap) : w.Spans t ↔ w.contains t.storagePrecision = true := by
  refine alike_iff.mpr ⟨?_, ?_⟩
  · rintro ⟨-, ⟨raised, -⟩ | ⟨⟨leap, -⟩, -⟩ | ⟨⟨leap, -⟩, -⟩⟩
    · exact low raised
    · exact plain leap
    · exact opens leap
  · rintro ⟨-, ⟨raised, -⟩ | ⟨⟨leap, -⟩, -⟩ | ⟨⟨leap, -⟩, -⟩⟩
    · exact low raised
    · exact plain leap
    · exact closes leap

end Window

namespace Database

namespace Exchange

variable {α : Type}

def query? : Exchange α → Option Query
  | known _ => none
  | ask query _ => some query

def params (exchange : Exchange α) : List Value :=
  exchange.query?.elim [] Query.params

end Exchange

namespace Readings

/-- The number sent for a reading lies between those sent for the bounds of a window just when the
window contains the stored timestamp, except where the window loses or gains the timestamp. -/
theorem edge_alike_iff (reading : Reading) (w : Window) (device : DeviceId)
    (devices : List DeviceId) (reason : String) :
    let t := reading.timestamp
    ∃ sent opens closes : Int,
      (record reading).params[3]? = some (.timestamp sent) ∧
      (quarantineWindow (device :: devices) w reason).params[2]? = some (.timestamp opens) ∧
      (quarantineWindow (device :: devices) w reason).params[3]? = some (.timestamp closes) ∧
      ((opens ≤ sent ∧ sent ≤ closes ↔ w.contains t.storagePrecision = true) ↔
        ¬ (w.contains t.storagePrecision = true ∧ w.Loses t) ∧
        ¬ ((opens ≤ sent ∧ sent ≤ closes) ∧ w.Gains t)) ∧
      (¬ t.Raised → ¬ t.IsLeap → ¬ w.opens.IsLeap → ¬ w.closes.IsLeap →
        (opens ≤ sent ∧ sent ≤ closes ↔ w.contains t.storagePrecision = true)) :=
  ⟨_, _, _, rfl, rfl, rfl, Window.alike_iff, Window.spans_iff⟩

def eve : Timestamp :=
  .mk 10956 86399 999999500

def lastMicrosecond : Window :=
  .mk eve.storagePrecision eve.storagePrecision

def leap : Timestamp :=
  .mk 17166 86399 1500000000

def newYear : Window :=
  .mk (.mk 17166 86399 500000000) (.mk 17167 0 200000000)

/-- A reading of the last microsecond before 2000 is sent with a number past it, and one of a leap
second with a number past the start of the next second. Both are in their windows. -/
theorem edge_drawn_apart :
    let reading (t : Timestamp) : Reading := ⟨.ofNat _ 1, .ofNat _ 2, 0, t, .accepted, none⟩
    lastMicrosecond.contains eve.storagePrecision = true ∧
      (record (reading eve)).params[3]? = some (.timestamp 0) ∧
      (quarantineWindow [.ofNat _ 2] lastMicrosecond "flaw").params[2]? =
        some (.timestamp (-1)) ∧
      (quarantineWindow [.ofNat _ 2] lastMicrosecond "flaw").params[3]? =
        some (.timestamp (-1)) ∧
      newYear.contains leap.storagePrecision = true ∧
      (record (reading leap)).params[3]? = some (.timestamp 536544000500000) ∧
      (quarantineWindow [.ofNat _ 2] newYear "flaw").params[3]? =
        some (.timestamp 536544000200000) := by
  decide

end Readings

end Database

end FleetResponse
