import FleetResponse.Database.Devices
import FleetResponse.Proofs.Database.Edge
import FleetResponse.Proofs.Database.Rows
import FleetResponse.Proofs.Device.History
import FleetResponse.Proofs.Ident.Grammar
import FleetResponse.Proofs.Time.Text

namespace FleetResponse

theorem Timestamp.ofMicros?_micros {t : Timestamp} (plain : t.Plain) :
    ofMicros? t.micros = some t := by
  have number := t.micros_eq
  rw [if_neg plain.not_raised] at number
  obtain ⟨whole, short⟩ := plain
  rw [IsLeap, nanosPerSecond] at short
  have seconds : t.micros / 1000000 = t.secondNumber := by omega
  have nano : 1000 * (t.micros % 1000000).toNat = t.nano := by omega
  rw [ofMicros?]
  simp only [microsPerSecond]
  rw [seconds, nano, of?_secondNumber]

theorem DeviceStatus.ofName?_eq_some_iff {text : String} {status : DeviceStatus} :
    ofName? text = some status ↔ text = status.name := by
  constructor
  · intro found
    have named := List.find?_some found
    exact (of_decide_eq_true named).symm
  · rintro rfl
    cases status <;> decide

namespace Database

namespace Row

variable (row : Row) (column : String)

theorem text_eq : row.text column = match row.value column with
    | .text written => .ok written
    | _ => .error (row.unreadable column) := by
  unfold text value
  cases row.lookup column with
  | none => rfl
  | some found => cases found <;> rfl

theorem int4_eq : row.int4 column = match row.value column with
    | .int4 n => .ok n
    | _ => .error (row.unreadable column) := by
  unfold int4 value
  cases row.lookup column with
  | none => rfl
  | some found => cases found <;> rfl

theorem timestamp_eq : row.timestamp column = match row.value column with
    | .timestamp micros =>
        match Timestamp.ofMicros? micros with
        | some t => .ok t
        | none => .error (row.unreadable column)
    | _ => .error (row.unreadable column) := by
  unfold timestamp value
  cases row.lookup column with
  | none => rfl
  | some found => cases found <;> rfl

end Row

def Exchange.inserted? {α : Type} (exchange : Exchange α) : Option Row :=
  exchange.query?.bind fun query => match query.statement with
    | .insert _ columns _ _ => some (columns.zip query.params)
    | _ => none

inductive Check
  | text (column : String)
  | ident (kind : IdentKind) (column : String)
  | status (column : String)
  | int4 (column : String)
  | timestamp (column : String)

/-- What a check finds wrong with a row. Where a text is to stand for something, that it is a text
is another check. -/
def Check.fault? (row : Row) : Check → Option DatabaseError
  | text column =>
      match row.value column with
      | .text _ => none
      | _ => some (row.unreadable column)
  | ident kind column =>
      match row.value column with
      | .text written =>
          match Ident.parse kind written with
          | .ok _ => none
          | .error e => some (.invalidRow column e.message)
      | _ => none
  | status column =>
      match row.value column with
      | .text written =>
          if (DeviceStatus.ofName? written).isSome then none
          else some (.invalidRow column (DeviceStatus.unknown written))
      | _ => none
  | int4 column =>
      match row.value column with
      | .int4 _ => none
      | _ => some (row.unreadable column)
  | timestamp column =>
      match row.value column with
      | .timestamp micros =>
          if (Timestamp.ofMicros? micros).isSome then none else some (row.unreadable column)
      | _ => some (row.unreadable column)

def firstFault? (checks : List Check) (row : Row) : Option DatabaseError :=
  checks.findSome? (·.fault? row)

/-- A computation goes through some checks of a row: it fails with the first fault that they find,
and otherwise has a value, of which something holds. -/
def ChecksInOrder {α : Type} (row : Row) (checks : List Check) (result : Except DatabaseError α)
    (holds : α → Prop) : Prop :=
  match firstFault? checks row with
  | some fault => result = .error fault
  | none => ∃ a, result = .ok a ∧ holds a

namespace ChecksInOrder

variable {α : Type} {row : Row} {check : Check} {checks : List Check} {holds : α → Prop}
  {result : Except DatabaseError α}

theorem done {a : α} (here : holds a) : ChecksInOrder row [] (.ok a) holds :=
  ⟨a, rfl, here⟩

theorem stop {fault : DatabaseError} (found : check.fault? row = some fault) :
    ChecksInOrder row (check :: checks) (.error fault) holds := by
  rw [ChecksInOrder, firstFault?, List.findSome?_cons, found]

theorem pass (clear : check.fault? row = none) (rest : ChecksInOrder row checks result holds) :
    ChecksInOrder row (check :: checks) result holds := by
  rw [ChecksInOrder, firstFault?, List.findSome?_cons, clear]
  exact rest

theorem text {column : String} {next : String → Except DatabaseError α}
    (rest : ∀ written, row.value column = .text written →
      ChecksInOrder row checks (next written) holds) :
    ChecksInOrder row (.text column :: checks) (row.text column >>= next) holds := by
  rw [Row.text_eq]
  cases found : row.value column with
  | text written => exact pass (by simp only [Check.fault?, found]) (rest written found)
  | _ => exact stop (by simp only [Check.fault?, found])

theorem ident {kind : IdentKind} {column written : String}
    (found : row.value column = .text written) {next : Ident kind → Except DatabaseError α}
    (rest : ∀ id, Ident.parse kind written = .ok id → ChecksInOrder row checks (next id) holds) :
    ChecksInOrder row (.ident kind column :: checks)
      (((Ident.parse kind written).mapError fun e => .invalidRow column e.message) >>= next)
      holds := by
  cases parsed : Ident.parse kind written with
  | ok id => exact pass (by simp only [Check.fault?, found, parsed]) (rest id parsed)
  | error e => exact stop (by simp only [Check.fault?, found, parsed])

theorem int4 {column : String} {next : Int32 → Except DatabaseError α}
    (rest : ∀ n, row.value column = .int4 n → ChecksInOrder row checks (next n) holds) :
    ChecksInOrder row (.int4 column :: checks) (row.int4 column >>= next) holds := by
  rw [Row.int4_eq]
  cases found : row.value column with
  | int4 n => exact pass (by simp only [Check.fault?, found]) (rest n found)
  | _ => exact stop (by simp only [Check.fault?, found])

theorem timestamp {column : String} {next : Timestamp → Except DatabaseError α}
    (rest : ∀ micros t, row.value column = .timestamp micros →
      Timestamp.ofMicros? micros = some t → ChecksInOrder row checks (next t) holds) :
    ChecksInOrder row (.timestamp column :: checks) (row.timestamp column >>= next) holds := by
  rw [Row.timestamp_eq]
  cases found : row.value column with
  | timestamp micros =>
      dsimp only
      cases known : Timestamp.ofMicros? micros with
      | some t =>
          apply pass
          · simp only [Check.fault?, found, known, Option.isSome_some, if_pos]
          · exact rest micros t found known
      | none =>
          apply stop
          simp only [Check.fault?, found, known, Option.isSome_none, Bool.false_eq_true, if_false]
  | _ => exact stop (by simp only [Check.fault?, found])

end ChecksInOrder

namespace Devices

def checks : List Check :=
  [.text "id", .text "owner_id", .text "firmware", .text "status", .ident .device "id",
   .ident .scitizen "owner_id", .text "class", .status "status", .int4 "tier",
   .timestamp "created_at"]

structure Decodes (row : Row) (device : Device) : Prop where
  id : ∃ written, row.value "id" = .text written ∧ Ident.parse .device written = .ok device.id
  owner : ∃ written, row.value "owner_id" = .text written ∧
    Ident.parse .scitizen written = .ok device.owner
  className : row.value "class" = .text device.className
  firmware : row.value "firmware" = .text device.firmware.text
  status : row.value "status" = .text device.status.name
  tier : row.value "tier" = .int4 device.tier
  createdAt : ∃ micros, row.value "created_at" = .timestamp micros ∧
    Timestamp.ofMicros? micros = some device.createdAt

theorem ofRow_checksInOrder (row : Row) :
    ChecksInOrder row checks (Device.ofRow row) (Decodes row) := by
  refine .text fun idText id_found => .text fun ownerText owner_found =>
    .text fun firmware firmware_found => .text fun statusText status_found =>
    .ident id_found fun id id_parsed => .ident owner_found fun owner owner_parsed =>
    .text fun className class_found => ?_
  cases known : DeviceStatus.ofName? statusText with
  | none =>
      apply ChecksInOrder.stop
      simp only [Check.fault?, status_found, known, Option.isSome_none, Bool.false_eq_true,
        if_false]
  | some status =>
      refine .pass (by simp only [Check.fault?, status_found, known, Option.isSome_some, if_pos]) ?_
      refine .int4 fun tier tier_found => .timestamp fun micros t created_found created => .done ?_
      exact {
        id := ⟨idText, id_found, id_parsed⟩
        owner := ⟨ownerText, owner_found, owner_parsed⟩
        className := class_found
        firmware := firmware_found
        status := DeviceStatus.ofName?_eq_some_iff.mp known ▸ status_found
        tier := tier_found
        createdAt := ⟨micros, created_found, created⟩ }

theorem Decodes.ofRow_eq {row : Row} {device : Device} (h : Decodes row device) :
    Device.ofRow row = .ok device := by
  obtain ⟨idText, id_found, id_parsed⟩ := h.id
  obtain ⟨ownerText, owner_found, owner_parsed⟩ := h.owner
  obtain ⟨micros, created_found, created⟩ := h.createdAt
  have known := DeviceStatus.ofName?_eq_some_iff.mpr (Eq.refl device.status.name)
  simp only [Device.ofRow, Row.text_eq, Row.int4_eq, Row.timestamp_eq, id_found, owner_found,
    h.firmware, h.status, h.className, h.tier, created_found, created, bind, Except.bind,
    id_parsed, owner_parsed, Except.mapError, known, pure, Except.pure]

theorem ofRow_eq_ok_iff {row : Row} {device : Device} :
    Device.ofRow row = .ok device ↔ Decodes row device := by
  refine ⟨fun read => ?_, Decodes.ofRow_eq⟩
  have ordered := ofRow_checksInOrder row
  rw [ChecksInOrder] at ordered
  split at ordered
  · rw [read] at ordered
    cases ordered
  · obtain ⟨found, isFound, decodes⟩ := ordered
    rw [read] at isFound
    cases isFound
    exact decodes

theorem ofRow_eq_error_iff {row : Row} {fault : DatabaseError} :
    Device.ofRow row = .error fault ↔ firstFault? checks row = some fault := by
  have ordered := ofRow_checksInOrder row
  rw [ChecksInOrder] at ordered
  split at ordered
  · rename_i first found
    rw [ordered, found, Except.error.injEq, Option.some.injEq]
  · rename_i clear
    obtain ⟨device, isDevice, -⟩ := ordered
    rw [isDevice, clear]
    simp

/-! ## Rows -/

theorem bind_eq_ok_iff {ε α β : Type} {first : Except ε α} {next : α → Except ε β} {b : β} :
    first >>= next = .ok b ↔ ∃ a, first = .ok a ∧ next a = .ok b := by
  cases first <;> simp [bind, Except.bind]

theorem mapM_ofRow_eq_ok_iff {rows : List Row} {devices : List Device} :
    rows.mapM Device.ofRow = .ok devices ↔ List.Forall₂ Decodes rows devices := by
  induction rows generalizing devices with
  | nil => simp [pure, Except.pure, eq_comm]
  | cons row rows ih =>
      simp only [List.mapM_cons, bind_eq_ok_iff, ofRow_eq_ok_iff, ih, List.forall₂_cons_left_iff]
      constructor
      · rintro ⟨device, decodes, others, decode, ⟨⟩⟩
        exact ⟨device, others, decodes, decode, rfl⟩
      · rintro ⟨device, others, decodes, decode, rfl⟩
        exact ⟨device, decodes, others, decode, rfl⟩

inductive FirstFault : List Row → DatabaseError → Prop
  | intro {before after : List Row} {row : Row} {passed later : List Check} {check : Check}
      {fault : DatabaseError} (sound : ∀ earlier ∈ before, ∃ device, Decodes earlier device)
      (order : checks = passed ++ check :: later)
      (clear : ∀ other ∈ passed, other.fault? row = none) (found : check.fault? row = some fault) :
      FirstFault (before ++ row :: after) fault

theorem firstFault?_eq_none_iff {row : Row} :
    firstFault? checks row = none ↔ ∃ device, Decodes row device := by
  have ordered := ofRow_checksInOrder row
  rw [ChecksInOrder] at ordered
  split at ordered
  · rename_i fault found
    simp [found, ← ofRow_eq_ok_iff, ordered]
  · rename_i clear
    obtain ⟨device, -, decodes⟩ := ordered
    exact iff_of_true clear ⟨device, decodes⟩

theorem firstFault_iff {rows : List Row} {fault : DatabaseError} :
    FirstFault rows fault ↔ rows.findSome? (firstFault? checks) = some fault := by
  rw [List.findSome?_eq_some_iff]
  simp only [firstFault?_eq_none_iff]
  constructor
  · rintro ⟨sound, order, clear, found⟩
    exact ⟨_, _, _, rfl, List.findSome?_eq_some_iff.mpr ⟨_, _, _, order, found, clear⟩, sound⟩
  · rintro ⟨before, row, after, rfl, found, sound⟩
    obtain ⟨passed, check, later, order, found, clear⟩ := List.findSome?_eq_some_iff.mp found
    exact ⟨sound, order, clear, found⟩

theorem mapM_ofRow_eq_error_iff {rows : List Row} {fault : DatabaseError} :
    rows.mapM Device.ofRow = .error fault ↔ FirstFault rows fault := by
  rw [firstFault_iff]
  induction rows with
  | nil => simp [pure, Except.pure]
  | cons row rows ih =>
      rw [List.mapM_cons, List.findSome?_cons]
      cases read : Device.ofRow row with
      | error e =>
          rw [ofRow_eq_error_iff.mp read]
          simp [bind, Except.bind]
      | ok device =>
          rw [firstFault?_eq_none_iff.mpr ⟨device, ofRow_eq_ok_iff.mp read⟩]
          dsimp only
          rw [← ih]
          cases rows.mapM Device.ofRow <;> simp [bind, Except.bind, pure, Except.pure]

def row (device : Device) : Row :=
  columns.zip (values device)

theorem inserted?_register (device : Device) : (register device).inserted? = some (row device) :=
  rfl

theorem decodes_row {device : Device} (plain : device.createdAt.Plain) :
    Decodes (row device) device where
  id := ⟨_, rfl, Ident.parse_text device.id⟩
  owner := ⟨_, rfl, Ident.parse_text device.owner⟩
  className := rfl
  firmware := rfl
  status := rfl
  tier := rfl
  createdAt := ⟨_, rfl, Timestamp.ofMicros?_micros plain⟩

theorem firstFault?_without (device : Device) {column : String} (needed : column ∈ columns) :
    firstFault? checks ((row device).filter (·.1 ≠ column)) =
      some (.unreadable column ("no column found for name: " ++ column)) := by
  have known := DeviceStatus.ofName?_eq_some_iff.mpr (Eq.refl device.status.name)
  simp only [columns, List.mem_cons, List.not_mem_nil, or_false] at needed
  rcases needed with rfl | rfl | rfl | rfl | rfl | rfl | rfl <;>
    simp [firstFault?, checks, Check.fault?, row, columns, values, Row.value, Row.unreadable,
      List.lookup_cons, Ident.parse_text, known, Value.ofTimestamp]

theorem query_of_class {devices : List Device} {filter : DeviceFilter}
    (distinct : (devices.map (·.id)).Nodup)
    (classed : ∀ device ∈ devices, device.className = filter.className) :
    (Directory.after (devices.map .register)).query filter =
      devices.filter fun device => filter.firmware.contains device.firmware := by
  rw [Directory.query, Directory.after_registrations distinct]
  refine List.filter_congr fun device member => ?_
  rw [DeviceFilter.picks, classed device member, decide_eq_true rfl, Bool.true_and]

theorem run_query {σ : Type} {server : Server σ} {s : σ} {filter : DeviceFilter} {sent : Query}
    (asked : (query filter).query? = some sent) {rows : List Row}
    (replied : (server.reply sent s).1 = .rows rows) :
    ((query filter).run server s).1 = (select filter rows).mapError storeError := by
  obtain rfl := Option.some.inj asked
  simp only [query, Exchange.run, replied]
  rfl

theorem select_eq_ok_iff {filter : DeviceFilter} {rows : List Row} {devices : List Device} :
    select filter rows = .ok devices ↔ ∃ decoded, List.Forall₂ Decodes rows decoded ∧
      devices = decoded.filter fun device => filter.firmware.contains device.firmware := by
  rw [select, bind_eq_ok_iff]
  simp only [mapM_ofRow_eq_ok_iff, pure, Except.pure, Except.ok.injEq, eq_comm (b := devices)]

theorem select_eq_error_iff {filter : DeviceFilter} {rows : List Row} {fault : DatabaseError} :
    select filter rows = .error fault ↔ FirstFault rows fault := by
  rw [← mapM_ofRow_eq_error_iff]
  cases read : rows.mapM Device.ofRow <;>
    simp [select, read, bind, Except.bind, pure, Except.pure]

/-- A query that is given rows answers with the devices of all of them whose firmware is in the
range of its filter, in the order of the rows; or, if there is no device of some row, with the first
fault of the first such row and with no devices. Given the rows that the registration of different
devices of the class sends, it answers as a directory with these devices does. -/
theorem query_decodes {σ : Type} (server : Server σ) (s : σ) (filter : DeviceFilter) {sent : Query}
    (asked : (query filter).query? = some sent) {rows : List Row}
    (replied : (server.reply sent s).1 = .rows rows) :
    let answer := ((query filter).run server s).1
    (∀ devices, answer = .ok devices ↔ ∃ decoded, List.Forall₂ Decodes rows decoded ∧
      devices = decoded.filter fun device => filter.firmware.contains device.firmware) ∧
    (∀ error, answer = .error error ↔
      ∃ fault, FirstFault rows fault ∧ error = storeError fault) ∧
    ∀ devices : List Device,
      rows.map some = devices.map (fun device => (register device).inserted?) →
      (∀ device ∈ devices, device.className = filter.className) →
      (devices.map (·.id)).Nodup → (∀ device ∈ devices, device.createdAt.Plain) →
      answer = .ok ((Directory.after (devices.map .register)).query filter) := by
  intro answer
  have answered : answer = (select filter rows).mapError storeError := run_query asked replied
  have ok_iff (devices : List Device) : answer = .ok devices ↔ ∃ decoded,
      List.Forall₂ Decodes rows decoded ∧
        devices = decoded.filter fun device => filter.firmware.contains device.firmware := by
    rw [answered, ← select_eq_ok_iff]
    cases select filter rows <;> simp [Except.mapError]
  refine ⟨ok_iff, fun error => ?_, fun devices sentRows classed distinct plain => ?_⟩
  · have failed_iff : answer = .error error ↔
        ∃ fault, select filter rows = .error fault ∧ error = storeError fault := by
      rw [answered]
      cases select filter rows <;> simp [Except.mapError, eq_comm]
    simpa only [select_eq_error_iff] using failed_iff
  · have same : rows = devices.map row := by
      apply List.map_injective_iff.mpr (Option.some_injective Row)
      rw [sentRows, List.map_map]
      exact List.map_congr_left fun device _ => inserted?_register device
    rw [ok_iff, query_of_class distinct classed]
    refine ⟨devices, ?_, rfl⟩
    rw [same, List.forall₂_map_left_iff, List.forall₂_same]
    exact fun device member => decodes_row (plain device member)

def probe (n : Nat) (firmware : String) : Device :=
  ⟨.ofNat _ n, .ofNat _ 8, "probe", ⟨firmware⟩, .active, 1, .mk 19000 36000 1000⟩

def probes : DeviceFilter :=
  ⟨"probe", ⟨some ⟨"1.0"⟩, some ⟨"1.2"⟩, by
    rintro lo ⟨⟩ hi ⟨⟩
    decide⟩⟩

theorem query_decodes_probes :
    let answer (rows : List Row) :=
      ((query probes).run Session.server (.start [.rows rows])).1
    let untiered := (row (probe 2 "1.3")).filter (·.1 ≠ "tier")
    let fault : DatabaseError := .unreadable "tier" "no column found for name: tier"
    answer [row (probe 1 "v1.1"), row (probe 2 "1.3")] = .ok [probe 1 "v1.1"] ∧
      answer [row (probe 1 "v1.1"), untiered, []] = .error (storeError fault) := by
  intro answer untiered fault
  have plain (n : Nat) (firmware : String) : (probe n firmware).createdAt.Plain :=
    ⟨(by decide : 1000 % 1000 = 0), (by decide : ¬ nanosPerSecond ≤ 1000)⟩
  constructor
  · obtain ⟨-, -, registered⟩ := query_decodes Session.server
      (.start [.rows [row (probe 1 "v1.1"), row (probe 2 "1.3")]]) probes rfl rfl
    refine (registered [probe 1 "v1.1", probe 2 "1.3"] rfl (by simp [probe, probes])
      (by decide) (by simp [plain])).trans ?_
    rfl
  · obtain ⟨-, failed, -⟩ := query_decodes Session.server
      (.start [.rows [row (probe 1 "v1.1"), untiered, []]]) probes rfl rfl
    have found : FirstFault [row (probe 1 "v1.1"), untiered, []] fault := by
      have missing : firstFault? checks untiered = some fault :=
        firstFault?_without (probe 2 "1.3") (by decide)
      have clear := firstFault?_eq_none_iff.mpr ⟨_, decodes_row (plain 1 "v1.1")⟩
      rw [firstFault_iff, List.findSome?_cons, clear, List.findSome?_cons, missing]
    exact (failed _).mpr ⟨_, found, rfl⟩

end Devices

end Database

end FleetResponse
