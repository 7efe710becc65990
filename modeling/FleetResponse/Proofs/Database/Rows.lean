import Mathlib.Algebra.Group.Nat.Defs
import FleetResponse.Database.Readings
import FleetResponse.Proofs.Database.Table
import FleetResponse.Proofs.Ident.Text
import FleetResponse.Proofs.Reading.Store
import FleetResponse.Proofs.Time.Micros

namespace FleetResponse

def Timestamp.Plain (t : Timestamp) : Prop :=
  t.nano % 1000 = 0 ∧ ¬ t.IsLeap

theorem Timestamp.Plain.stored {t : Timestamp} (h : t.Plain) : t.storagePrecision = t :=
  storagePrecision_of_whole h.1

theorem Timestamp.Plain.not_raised {t : Timestamp} (h : t.Plain) : ¬ t.Raised :=
  fun ⟨_, rest⟩ => rest h.1

namespace ReadingStore

/-- A reading with the device of the one that stands under its identifier already, if one does. -/
def placed (store : ReadingStore) (r : Reading) : Reading :=
  { r with device := (store.readings.lookup r.id).elim r.device (·.device) }

def reaches (devices : List DeviceId) (window : Window) (r : Reading) : Bool :=
  r.status = .accepted && devices.contains r.device && window.Spans r.timestamp

end ReadingStore

namespace Database.Readings

def row (r : Reading) : Row :=
  columns.zip (values r)

section
variable (r : Reading)

@[simp]
theorem row_id : (row r).value "id" = .text r.id.text :=
  rfl

@[simp]
theorem row_device : (row r).value "device_id" = .text r.device.text :=
  rfl

@[simp]
theorem row_measure : (row r).value "value" = .double r.value :=
  rfl

@[simp]
theorem row_timestamp : (row r).value "timestamp" = .timestamp r.timestamp.micros :=
  rfl

@[simp]
theorem row_status : (row r).value "status" = .text r.status.name :=
  rfl

theorem overwrite_record (old : Reading) :
    (row old).overwrite ((row r).filter fun (column, _) => overwritten.contains column) =
      row { r with id := old.id, device := old.device } :=
  rfl

theorem overwrite_quarantine (reason : String) :
    (row r).overwrite [("status", .text ReadingStatus.quarantined.name),
      ("quarantine_reason", .text reason)] = row (r.quarantined reason) :=
  rfl

end

theorem name_inj {a b : ReadingStatus} : a.name = b.name ↔ a = b := by
  cases a <;> cases b <;> decide

theorem ofOptionalText_inj {a b : Option String}
    (same : Value.ofOptionalText a = Value.ofOptionalText b) : a = b := by
  cases a <;> cases b <;> simp_all [Value.ofOptionalText]

theorem micros_inj {a b : Timestamp} (a_plain : a.Plain) (b_plain : b.Plain)
    (same : a.micros = b.micros) : a = b := by
  have seconds : a.secondNumber = b.secondNumber ∧ a.nano = b.nano := by
    rw [a.micros_eq, b.micros_eq, if_neg a_plain.not_raised, if_neg b_plain.not_raised] at same
    obtain ⟨a_whole, a_short⟩ := a_plain
    obtain ⟨b_whole, b_short⟩ := b_plain
    rw [Timestamp.IsLeap, nanosPerSecond] at a_short b_short
    omega
  have a_lt := a.second_lt
  have b_lt := b.second_lt
  simp only [Timestamp.secondNumber, Timestamp.secondsPerDay] at seconds
  have day : a.day = b.day := by omega
  have second : a.second = b.second := by omega
  cases a
  cases b
  simp_all

theorem row_inj {a b : Reading} (a_plain : a.timestamp.Plain) (b_plain : b.timestamp.Plain)
    (same : row a = row b) : a = b := by
  have fields (column : String) : (row a).value column = (row b).value column := by rw [same]
  have id := fields "id"
  have device := fields "device_id"
  have value := fields "value"
  have time := fields "timestamp"
  have status := fields "status"
  have reason : Value.ofOptionalText a.reason = Value.ofOptionalText b.reason :=
    fields "quarantine_reason"
  simp only [row_id, row_device, row_timestamp, row_status, row_measure, Value.text.injEq,
    Value.timestamp.injEq, Value.double.injEq, Ident.text_inj, name_inj] at *
  have t := micros_inj a_plain b_plain time
  have r := ofOptionalText_inj reason
  cases a
  cases b
  simp_all

/-! ## Conditions -/

theorem windowConditions_row (devices : List DeviceId) (window : Window) (reason : String)
    (r : Reading) :
    satisfies windowConditions
      [.text reason, idTexts devices, .ofTimestamp window.opens, .ofTimestamp window.closes]
      (row r) = ReadingStore.reaches devices window r := by
  have member : (devices.map Ident.text).contains r.device.text = devices.contains r.device :=
    Ident.contains_text devices r.device
  have accepted : (Value.text r.status.name).equals (.text ReadingStatus.accepted.name) =
      decide (r.status = .accepted) := by
    simp [Value.equals, name_inj]
  have conditions : satisfies windowConditions
      [.text reason, idTexts devices, .ofTimestamp window.opens, .ofTimestamp window.closes]
      (row r) = ((devices.map Ident.text).contains r.device.text &&
        (decide (window.opens.micros ≤ r.timestamp.micros) &&
          (decide (r.timestamp.micros ≤ window.closes.micros) &&
            ((Value.text r.status.name).equals (.text ReadingStatus.accepted.name) && true)))) :=
    rfl
  have spans : decide (window.Spans r.timestamp) = (decide (window.opens.micros ≤
      r.timestamp.micros) && decide (r.timestamp.micros ≤ window.closes.micros)) :=
    Bool.decide_and ..
  rw [conditions, member, accepted, ReadingStore.reaches, spans]
  cases decide (r.status = .accepted) <;> cases devices.contains r.device <;> simp

theorem deviceCondition_row (devices : List DeviceId) (r : Reading) :
    satisfies [.member "device_id" 1] [idTexts devices] (row r) = devices.contains r.device := by
  rw [← Ident.contains_text]
  exact Bool.and_true _

theorem ofStatus_row (status : ReadingStatus) (params : List Value) (r : Reading) :
    (ofStatus status).holds params (row r) = decide (r.status = status) := by
  have equal : (ofStatus status).holds params (row r) =
      (Value.text r.status.name).equals (.text status.name) := rfl
  rw [equal]
  simp [Value.equals, name_inj]

/-! ## The table -/

def required : List String :=
  ["id", "device_id", "value", "timestamp", "status"]

/-- What the table of readings demands of a row: its columns, of which only the last may be null, a
known device, and a status of those that there are. -/
def admits (known : List DeviceId) (row : Row) : Bool :=
  row.map (·.1) = required ++ ["quarantine_reason"]
    && required.all (fun column => row.value column ≠ .null)
    && known.any (fun device => row.value "device_id" = .text device.text)
    && [.accepted, .quarantined, .rejected].any
      (fun status : ReadingStatus => row.value "status" = .text status.name)

def server (known : List DeviceId) : Server (List Row) :=
  Table.server "readings" (admits known)

theorem admits_row {known : List DeviceId} {r : Reading} (device : r.device ∈ known) :
    admits known (row r) = true := by
  have listed : known.any (fun device => (row r).value "device_id" = .text device.text) = true :=
    List.any_eq_true.mpr ⟨r.device, device, by simp⟩
  have status : ([.accepted, .quarantined, .rejected].any
      fun status : ReadingStatus => (row r).value "status" = .text status.name) = true := by
    rw [row_status]
    cases r.status <;> rfl
  have filled : required.all (fun column => (row r).value column ≠ .null) = true := by
    simp [required]
  have layout : decide ((row r).map (·.1) = required ++ ["quarantine_reason"]) = true := rfl
  rw [admits, layout, filled, listed, status]
  rfl

structure Mirrors (known : List DeviceId) (rows : List Row) (store : ReadingStore) : Prop where
  rows : rows = store.readings.map fun entry => row entry.2
  kept : store.WellKept
  plain : ∀ entry ∈ store.readings, entry.2.timestamp.Plain
  known : ∀ entry ∈ store.readings, entry.2.device ∈ known

def find (rows : List Row) (id : ReadingId) : Option Row :=
  rows.find? fun row => row.value "id" = .text id.text

theorem find_rows {readings : List (ReadingId × Reading)}
    (own : ∀ entry ∈ readings, entry.2.id = entry.1) (id : ReadingId) :
    find (readings.map fun entry => row entry.2) id = (readings.lookup id).map row := by
  induction readings with
  | nil => rfl
  | cons entry readings ih =>
      have rest := ih fun later member => own later (List.mem_cons_of_mem entry member)
      rw [find] at rest
      rw [find, List.map_cons, List.find?_cons, ReadingStore.lookup_cons_entry, rest, row_id,
        own entry List.mem_cons_self]
      by_cases named : id = entry.1
      · simp [named]
      · simp [named, Ident.text_inj, Ne.symm named]

theorem counted_iff (n : Nat) : (Int64.ofNat n).toInt.toNat = n ↔ n < 2 ^ 63 := by
  constructor
  · intro same
    have bound : (n : Int).bmod Int64.size < (Int64.size + 1) / 2 := Int.bmod_lt (by decide)
    rw [Int64.toInt_ofNat'] at same
    simp only [Int64.size] at bound same
    omega
  · intro bound
    rw [Int64.toInt_ofNat_of_lt bound, Int.toNat_natCast]

namespace Mirrors

variable {known : List DeviceId} {rows after : List Row} {store next : ReadingStore}

theorem empty (known : List DeviceId) : Mirrors known [] .empty where
  rows := rfl
  kept := ReadingStore.empty_wellKept
  plain _ member := by cases member
  known _ member := by cases member

theorem find (h : Mirrors known rows store) (id : ReadingId) :
    Readings.find rows id = (store.readings.lookup id).map row := by
  rw [h.rows]
  exact find_rows h.kept.own id

theorem reply (h : Mirrors known after next) {statement : Statement} {params : List Value}
    {reply : Reply} (named : statement.table? = some "readings")
    (executed : statement.execute params rows = (reply, after)) :
    (server known).reply ⟨statement, params⟩ rows = (reply, after) := by
  have admitted : after.all (admits known) = true := by
    rw [h.rows, List.all_map, List.all_eq_true]
    exact fun entry member => admits_row (h.known entry member)
  simp only [server, Table.server, executed]
  rw [named, admitted]
  rfl

/-! ### Recording -/

theorem placed_known (h : Mirrors known rows store) {r : Reading} (device : r.device ∈ known) :
    (store.placed r).device ∈ known := by
  unfold ReadingStore.placed
  cases held : store.readings.lookup r.id with
  | none => exact device
  | some old => exact h.known (r.id, old) (ReadingStore.mem_of_lookup held)

theorem record_mirrors (h : Mirrors known rows store) {r : Reading} (device : r.device ∈ known)
    (plain : r.timestamp.Plain) :
    Mirrors known ((store.record r).readings.map fun entry => row entry.2) (store.record r) where
  rows := rfl
  kept := ReadingStore.record_wellKept h.kept r
  plain entry member := by
    rcases ReadingStore.mem_record member with rfl | kept
    · rw [Reading.stored, plain.stored]
      exact plain
    · exact h.plain entry kept
  known entry member := by
    rcases ReadingStore.mem_record member with rfl | kept
    · exact device
    · exact h.known entry kept

theorem conflict (h : Mirrors known rows store) (r : Reading) :
    (rows.any fun other => other.value "id" = (row r).value "id") =
      (store.readings.lookup r.id).isSome := by
  rw [← ReadingStore.any_key_eq, h.rows, List.any_map, Bool.eq_iff_iff, List.any_eq_true,
    List.any_eq_true]
  refine exists_congr fun entry => and_congr_right fun member => ?_
  simp [Ident.text_inj, h.kept.own entry member]

theorem execute_record (h : Mirrors known rows store) {r : Reading} (plain : r.timestamp.Plain) :
    (Statement.insert table columns "id" (.overwrite overwritten)).execute (values r) rows =
      (.affected 1, (store.record (store.placed r)).readings.map fun entry => row entry.2) := by
  have stored : (store.placed r).stored = store.placed r := by
    rw [Reading.stored]
    exact congrArg (fun t => { store.placed r with timestamp := t }) plain.stored
  simp only [Statement.execute]
  rw [show (columns.zip (values r) : Row) = row r from rfl, h.conflict r]
  cases held : store.readings.lookup r.id with
  | some old =>
      have replaced := ReadingStore.record_held (r := store.placed r) held
      rw [Option.isSome_some, if_pos rfl, replaced, h.rows, List.map_map, List.map_map]
      refine congrArg (Prod.mk _) (List.map_congr_left fun entry member => ?_)
      have own := h.kept.own entry member
      simp only [Function.comp_apply, row_id, Value.text.injEq, Ident.text_inj, own]
      -- The row in conflict keeps what is not overwritten, its identifier and its device.
      by_cases same : entry.1 = r.id
      · have here : entry.2 = old :=
          Option.some_inj.mp ((h.kept.lookup_eq member).symm.trans (same ▸ held))
        have placed : store.placed r = { r with id := old.id, device := old.device } := by
          rw [ReadingStore.placed, held, ← here, own, same]
          rfl
        rw [if_pos same, if_pos (show entry.1 = (store.placed r).id from same), stored, placed,
          overwrite_record, here]
      · rw [if_neg same, if_neg (show ¬ entry.1 = (store.placed r).id from same)]
  | none =>
      have placed : store.placed r = r := by
        rw [ReadingStore.placed, held]
        rfl
      have appended := ReadingStore.record_fresh held
      rw [placed] at stored
      rw [Option.isSome_none, if_neg Bool.false_ne_true, placed, appended, stored, h.rows,
        List.map_append]
      rfl

theorem run_record (h : Mirrors known rows store) {r : Reading} (device : r.device ∈ known)
    (plain : r.timestamp.Plain) :
    ((record r).run (server known) rows).1 = .ok () ∧
      Mirrors known ((record r).run (server known) rows).2 (store.record (store.placed r)) := by
  have recorded := h.record_mirrors (h.placed_known device) plain
  have replied := recorded.reply rfl (h.execute_record plain)
  simp only [record, Exchange.run, replied]
  exact ⟨rfl, recorded⟩

/-! ### Setting aside -/

theorem mark_mirrors (h : Mirrors known rows store) (marks : Reading → Bool) (reason : String) :
    Mirrors known ((store.mark marks reason).readings.map fun entry => row entry.2)
      (store.mark marks reason) where
  rows := rfl
  kept := ReadingStore.mark_wellKept h.kept marks reason
  plain entry member := by
    obtain ⟨before, kept, rfl⟩ := List.mem_map.mp member
    dsimp only
    split <;> exact h.plain before kept
  known entry member := by
    obtain ⟨before, kept, rfl⟩ := List.mem_map.mp member
    dsimp only
    split <;> exact h.known before kept

theorem execute_quarantineWindow (h : Mirrors known rows store) (devices : List DeviceId)
    (window : Window) (reason : String) :
    (Statement.update table
        [("status", .literal ReadingStatus.quarantined.name), ("quarantine_reason", .param 1)]
        windowConditions).execute
      [.text reason, idTexts devices, .ofTimestamp window.opens, .ofTimestamp window.closes] rows =
      (.affected (store.readings.countP fun entry =>
          ReadingStore.reaches devices window entry.2),
        (store.mark (ReadingStore.reaches devices window) reason).readings.map
          fun entry => row entry.2) := by
  simp only [Statement.execute, h.rows, List.countP_map, List.map_map, ReadingStore.mark]
  have counted : (satisfies windowConditions
      [.text reason, idTexts devices, .ofTimestamp window.opens, .ofTimestamp window.closes] ∘
        fun entry : ReadingId × Reading => row entry.2) =
      fun entry => ReadingStore.reaches devices window entry.2 :=
    funext fun entry => windowConditions_row devices window reason entry.2
  rw [counted]
  refine congrArg (Prod.mk _) (List.map_congr_left fun entry _ => ?_)
  simp only [Function.comp_apply, windowConditions_row]
  split
  · exact overwrite_quarantine entry.2 reason
  · rfl

theorem run_quarantineWindow (h : Mirrors known rows store) {devices : List DeviceId}
    (given : devices ≠ []) (window : Window) (reason : String) :
    ((quarantineWindow devices window reason).run (server known) rows).1 =
        .ok (store.readings.countP fun entry => ReadingStore.reaches devices window entry.2) ∧
      Mirrors known ((quarantineWindow devices window reason).run (server known) rows).2
        (store.mark (ReadingStore.reaches devices window) reason) := by
  have marked := h.mark_mirrors (ReadingStore.reaches devices window) reason
  have replied := marked.reply rfl (h.execute_quarantineWindow devices window reason)
  have some_given : ¬ devices.isEmpty = true := by simpa using given
  simp only [quarantineWindow, if_neg some_given, Exchange.run, replied]
  exact ⟨rfl, marked⟩

/-! ### Counting -/

theorem execute_quality (h : Mirrors known rows store) (devices : List DeviceId) :
    (Statement.count table
        [("accepted", ofStatus .accepted), ("quarantined", ofStatus .quarantined)]
        [.member "device_id" 1]).execute [idTexts devices] rows =
      (.rows [[("accepted", .int8 (Int64.ofNat (store.count devices .accepted))),
        ("quarantined", .int8 (Int64.ofNat (store.count devices .quarantined)))]], rows) := by
  have counted (status : ReadingStatus) :
      (rows.filter (satisfies [.member "device_id" 1] [idTexts devices])).countP
        (fun row => (ofStatus status).holds [idTexts devices] row) =
      store.count devices status := by
    rw [List.countP_filter, h.rows, List.countP_map, ReadingStore.count]
    refine List.countP_congr fun entry _ => ?_
    simp only [Function.comp_apply, ofStatus_row, deviceCondition_row]
    rw [Bool.and_comm]
  simp only [Statement.execute, List.map_cons, List.map_nil, counted]

theorem run_quality (h : Mirrors known rows store) {devices : List DeviceId}
    (given : devices ≠ []) :
    (quality devices).run (server known) rows =
      (.ok ⟨(Int64.ofNat (store.count devices .accepted)).toInt.toNat,
        (Int64.ofNat (store.count devices .quarantined)).toInt.toNat⟩, rows) := by
  have replied := h.reply rfl (h.execute_quality devices)
  have some_given : ¬ devices.isEmpty = true := by simpa using given
  simp only [quality, if_neg some_given, Exchange.run, replied]
  rfl

end Mirrors

end Database.Readings

end FleetResponse
