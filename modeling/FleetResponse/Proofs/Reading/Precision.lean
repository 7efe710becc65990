import FleetResponse.Proofs.Reading.History
import FleetResponse.Proofs.Time.Truncation

namespace FleetResponse

theorem Reading.stored_new (id : ReadingId) (device : DeviceId) (value : UInt64) (t : Timestamp) :
    (Reading.new id device value t).stored = Reading.new id device value t := by
  rw [Reading.stored, Reading.new, t.storagePrecision_idem]

theorem ReadingStore.get_record (store : ReadingStore) (r : Reading) :
    (store.record r).get r.id = .ok r.stored := by
  rw [get_eq_ok_iff, lookup_record, if_pos rfl]

namespace Timestamp

/-- There are timestamps for all times of day of the years from -262143 to 262142, with a leap
second after any second, and they are in order of date, second of the day and nanosecond. What is
kept of a timestamp is got by going back by its rest below the microsecond. This is the greatest
whole microsecond that is not after it, in the same second, and keeps the order. -/
theorem storagePrecision_greatest :
    (∀ (date : Date) (second nano : Nat),
      (∃ t : Timestamp, t.date = date ∧ t.second = second ∧ t.nano = nano) ↔
        date.IsValid ∧ (-262143 ≤ date.year ∧ date.year ≤ 262142) ∧ second < 86400 ∧
          nano < 2 * nanosPerSecond) ∧
    (∀ s t : Timestamp, (s ≤ t ↔ s.le t = true) ∧
      (s ≤ t ↔ s.date.Before t.date ∨
        s.date = t.date ∧ (s.second < t.second ∨ s.second = t.second ∧ s.nano ≤ t.nano)) ∧
      (s ≤ t → s.storagePrecision ≤ t.storagePrecision)) ∧
    ∀ t : Timestamp,
      t.earlier? (t.nano % 1000) = some t.storagePrecision ∧
      IsGreatest {s : Timestamp | s.nano % 1000 = 0 ∧ s ≤ t} t.storagePrecision ∧
      (t.storagePrecision.date = t.date ∧ t.storagePrecision.second = t.second ∧
        (t.storagePrecision.IsLeap ↔ t.IsLeap)) ∧
      (t.storagePrecision.sinceEpoch ≤ t.sinceEpoch ∧
        t.sinceEpoch < t.storagePrecision.sinceEpoch + 1000) ∧
      t.storagePrecision.storagePrecision = t.storagePrecision ∧
      ∀ (store : ReadingStore) (r : Reading),
        (Reading.new r.id r.device r.value t).timestamp = t.storagePrecision ∧
        (store.handle (.record { r with timestamp := t })).2.get r.id =
          .ok { r with timestamp := t.storagePrecision } ∧
        (store.handle (.record (Reading.new r.id r.device r.value t))).2.get r.id =
          .ok (Reading.new r.id r.device r.value t) := by
  refine ⟨fun date second nano => exists_iff, fun s t => ⟨Iff.rfl, le_iff_date, ?_⟩, fun t => ?_⟩
  · intro inOrder
    exact storagePrecision_monotone inOrder
  · refine ⟨t.earlier?_rest, t.isGreatest_storagePrecision,
      ⟨rfl, rfl, t.storagePrecision_isLeap⟩, ?_, t.storagePrecision_idem, fun store r => ?_⟩
    · have back := sinceEpoch_of_earlier? t.earlier?_rest
      omega
    · have kept := store.get_record (Reading.new r.id r.device r.value t)
      rw [Reading.stored_new] at kept
      exact ⟨rfl, store.get_record { r with timestamp := t }, kept⟩

-- A leap second on the last evening of 1969 stays one.
example : (Timestamp.mk (-1) 86399 1999999999).storagePrecision.nano = 1999999000 := by decide

end Timestamp

end FleetResponse
