import Mathlib.Data.List.Induction
import FleetResponse.Proofs.Reading.Store
import FleetResponse.Proofs.Time.Precision

namespace FleetResponse

def Reading.measurement (r : Reading) : ReadingId × DeviceId × UInt64 × Timestamp :=
  (r.id, r.device, r.value, r.timestamp)

namespace ReadingStore

def Request.recorded? : Request → Option Reading
  | record r => some r
  | _ => none

def after (history : List Request) : ReadingStore :=
  history.foldl (fun store request => (store.handle request).2) empty

def recorded (history : List Request) : List Reading :=
  history.filterMap Request.recorded?

def lastOf? (readings : List Reading) (id : ReadingId) : Option Reading :=
  (readings.filter fun r => r.id = id).getLast?

theorem after_snoc (history : List Request) (request : Request) :
    after (history ++ [request]) = ((after history).handle request).2 := by
  rw [after, List.foldl_append]
  rfl

theorem recorded_snoc (history : List Request) (request : Request) :
    recorded (history ++ [request]) = recorded history ++ request.recorded?.toList := by
  rw [recorded, List.filterMap_append]
  cases request <;> rfl

theorem lastOf?_concat (readings : List Reading) (r : Reading) (id : ReadingId) :
    lastOf? (readings ++ [r]) id = if id = r.id then some r else lastOf? readings id := by
  rw [lastOf?, List.filter_append]
  by_cases own : id = r.id
  · simp [own]
  · simp [own, Ne.symm own, lastOf?]

theorem after_wellKept (history : List Request) : (after history).WellKept := by
  induction history using List.reverseRecOn with
  | nil => exact empty_wellKept
  | append_singleton history request ih =>
      rw [after_snoc]
      exact handle_wellKept ih request

/-! ## Measurements -/

def measured? (store : ReadingStore) (id : ReadingId) :
    Option (ReadingId × DeviceId × UInt64 × Timestamp) :=
  (store.readings.lookup id).map Reading.measurement

theorem measured?_map (store : ReadingStore) {f : ReadingId × Reading → ReadingId × Reading}
    (key : ∀ entry, (f entry).1 = entry.1)
    (same : ∀ entry, (f entry).2.measurement = entry.2.measurement) (id : ReadingId) :
    measured? ⟨store.readings.map f⟩ id = store.measured? id := by
  unfold measured?
  induction store.readings with
  | nil => rfl
  | cons entry readings ih =>
      rw [List.map_cons, lookup_cons_entry, lookup_cons_entry, key]
      split
      · exact congrArg some (same entry)
      · exact ih

theorem measured?_record (store : ReadingStore) (r : Reading) (id : ReadingId) :
    (store.record r).measured? id =
      if id = r.id then some r.stored.measurement else store.measured? id := by
  rw [measured?, lookup_record]
  split <;> rfl

theorem measured?_quarantine {store after : ReadingStore} {key : ReadingId} {reason : String}
    (done : store.quarantine key reason = .ok after) (id : ReadingId) :
    after.measured? id = store.measured? id := by
  unfold quarantine at done
  split at done
  · cases done
  · obtain rfl := Except.ok.inj done
    apply measured?_map
    · intro entry
      split <;> rfl
    · intro entry
      split <;> rfl

theorem measured?_handle (store : ReadingStore) (request : Request) (id : ReadingId) :
    (store.handle request).2.measured? id = match request.recorded? with
      | some r => if id = r.id then some r.stored.measurement else store.measured? id
      | none => store.measured? id := by
  cases request with
  | record r => exact measured?_record store r id
  | get key => rfl
  | quarantine key reason =>
      simp only [handle, Request.recorded?]
      cases done : store.quarantine key reason with
      | ok after => exact measured?_quarantine done id
      | error e => rfl
  | quarantineWindow devices window reason =>
      apply measured?_map
      · intro entry
        split <;> rfl
      · intro entry
        split <;> rfl
  | quality devices => rfl

theorem measured?_after (history : List Request) (id : ReadingId) :
    (after history).measured? id =
      (lastOf? (recorded history) id).map fun r => r.stored.measurement := by
  induction history using List.reverseRecOn with
  | nil => rfl
  | append_singleton history request ih =>
      rw [after_snoc, measured?_handle, recorded_snoc, ih]
      cases request.recorded? with
      | none => simp only [Option.toList_none, List.append_nil]
      | some r =>
          rw [Option.toList_some, lastOf?_concat]
          exact (apply_ite (Option.map fun r => r.stored.measurement) (id = r.id) (some r) _).symm

theorem get_eq_ok_iff {store : ReadingStore} {id : ReadingId} {r : Reading} :
    store.get id = .ok r ↔ store.readings.lookup id = some r := by
  unfold get
  cases store.readings.lookup id <;> simp

theorem exists_get_of_last {history : List Request} {id : ReadingId} {r : Reading}
    (last : lastOf? (recorded history) id = some r) :
    ∃ held, (after history).get id = .ok held ∧ held.measurement = r.stored.measurement := by
  have kept := measured?_after history id
  rw [last] at kept
  obtain ⟨held, found, same⟩ := Option.map_eq_some_iff.mp kept
  exact ⟨held, get_eq_ok_iff.mpr found, same⟩

theorem exists_last_of_mem {history : List Request} {entry : ReadingId × Reading}
    (member : entry ∈ (after history).readings) :
    ∃ r, lastOf? (recorded history) entry.1 = some r ∧
      entry.2.measurement = r.stored.measurement := by
  have kept := measured?_after history entry.1
  rw [measured?, (after_wellKept history).lookup_eq member] at kept
  obtain ⟨r, last, same⟩ := Option.map_eq_some_iff.mp kept.symm
  exact ⟨r, last, same.symm⟩

/-! ## Windows -/

theorem get_quarantineWindow {store : ReadingStore} {id : ReadingId} {held : Reading}
    (found : store.get id = .ok held) (devices : List DeviceId) (window : Window)
    (reason : String) :
    (store.quarantineWindow devices window reason).2.get id =
      .ok (swept devices window reason held) := by
  rw [get_eq_ok_iff] at found ⊢
  rw [quarantineWindow_readings, lookup_map_reading, found]
  rfl

theorem swept_of_between {since till : Timestamp} {w : Window}
    (made : Window.between since till = .ok w) {held r : Reading}
    (same : held.measurement = r.stored.measurement) (accepted : held.status = .accepted)
    {devices : List DeviceId} (listed : held.device ∈ devices) (reason : String) :
    swept devices w reason held =
      if r.timestamp.KeptBetween since till then held.quarantined reason else held := by
  have timestamp : held.timestamp = r.timestamp.storagePrecision :=
    congrArg (fun measured => measured.2.2.2) same
  have reached : affects devices w held = true ↔ r.timestamp.KeptBetween since till := by
    rw [← Window.catches_iff made, affects, timestamp]
    simp [accepted, listed]
  rw [swept]
  exact if_congr reached rfl rfl

/-- A history leaves every reading under its identifier, with what stores keep of the timestamp that
it was last recorded with. A window made of two timestamps sets an accepted reading of its devices
aside just when this lies between what is kept of the two. So it catches all that is between them,
and reaches no further than to the ends of their microseconds. -/
theorem after_window_contains (history : List Request) :
    (∀ entry ∈ (after history).readings, entry.2.id = entry.1 ∧
      ∃ r, lastOf? (recorded history) entry.1 = some r ∧
        entry.2.timestamp = r.timestamp.storagePrecision) ∧
    (∀ since till,
      ((Window.between since till).isOk = true ↔
        since.storagePrecision.le till.storagePrecision = true) ∧
      (since.le till = true → (Window.between since till).isOk = true) ∧
      (∀ w, Window.between since till = .ok w →
        ∀ id r, lastOf? (recorded history) id = some r →
          ∃ held, (after history).get id = .ok held ∧
            held.measurement = r.stored.measurement ∧
            ∀ devices reason, held.status = .accepted → held.device ∈ devices →
              ((after history).handle (.quarantineWindow devices w reason)).2.get id =
                .ok (if r.timestamp.KeptBetween since till then held.quarantined reason
                  else held)) ∧
      (∀ t, since.le t = true → t.le till = true → t.KeptBetween since till) ∧
      ∀ t, t.KeptBetween since till → since.le t = true ∧ t.le till = true ∨
        t.storagePrecision = since.storagePrecision ∨
        t.storagePrecision = till.storagePrecision) ∧
    ∀ (w : Window) (t : Timestamp), w.contains t = true → w.contains t.storagePrecision = true := by
  refine ⟨fun entry member => ?_, fun since till => ⟨Window.isOk_between_iff, fun inOrder => ?_,
    fun w made id r last => ?_, fun t => Timestamp.keptBetween_of_between,
    fun t => Timestamp.between_or_cut_alike⟩, fun w t => w.contains_storagePrecision⟩
  · obtain ⟨r, last, same⟩ := exists_last_of_mem member
    exact ⟨(after_wellKept history).own entry member, r, last,
      congrArg (fun measured => measured.2.2.2) same⟩
  · exact Window.isOk_between_iff.mpr (Timestamp.storagePrecision_mono inOrder)
  · obtain ⟨held, found, same⟩ := exists_get_of_last last
    refine ⟨held, found, same, fun devices reason accepted listed => ?_⟩
    rw [← swept_of_between made same accepted listed reason]
    exact get_quarantineWindow found devices w reason

-- In the middle of a leap second, what is less than a microsecond late is set aside as well.
example :
    let closing : Timestamp := .mk 17166 86399 1500000000
    let late : Timestamp := .mk 17166 86399 1500000300
    let r : Reading := ⟨.ofNat _ 1, .ofNat _ 2, 0, late, .accepted, none⟩
    late.le closing = false ∧ ∃ w, Window.between closing closing = .ok w ∧
      ((after [.record r]).handle (.quarantineWindow [r.device] w "edge")).1 = 1 :=
  ⟨by decide, _, rfl, by decide⟩

end ReadingStore

end FleetResponse
