import FleetResponse.Fixtures
import FleetResponse.Proofs.Ident.Grammar
import FleetResponse.Proofs.Json.Double
import FleetResponse.Proofs.Json.Fields
import FleetResponse.Proofs.Time.Text
import FleetResponse.Reading
import FleetResponse.Response.Incident

namespace FleetResponse

namespace Json

/-! ## Texts of records -/

theorem proper_members {members : List (String × Json)} (filled : members ≠ [])
    (each : ∀ member ∈ members, Proper (.value member.2)) :
    Proper (.members (members.map fun (name, value) => (some name, value))) := by
  induction members with
  | nil => exact absurd rfl filled
  | cons member members ih =>
      have first := each member List.mem_cons_self
      cases members with
      | nil => exact .lastMember member.1 first
      | cons next members =>
          have rest := ih (List.cons_ne_nil next members) fun m listed =>
            each m (List.mem_cons_of_mem _ listed)
          exact .member member.1 first rest

theorem proper_record {members : List (String × Json)}
    (each : ∀ member ∈ members, Proper (.value member.2)) : Proper (.value (record members)) := by
  cases members with
  | nil => exact .emptyObject
  | cons member members => exact .object (proper_members (List.cons_ne_nil member members) each)

theorem proper_ofIdent {kind : IdentKind} (id : Ident kind) : Proper (.value (ofIdent id)) :=
  .text id.text

theorem proper_ofTimestamp (t : Timestamp) : Proper (.value (ofTimestamp t)) :=
  .text t.json

theorem proper_nat (n : Nat) : Proper (.value (nat n)) :=
  .number (Numeral.proper_integer false n)

theorem proper_int (n : Int) : Proper (.value (int n)) :=
  .number (Numeral.proper_integer _ n.natAbs)

theorem proper_optionalText (s : Option String) : Proper (.value (optionalText s)) := by
  cases s with
  | none => exact .null
  | some s => exact .text s

/-! ## Values of fields -/

theorem asIdent?_ofIdent {kind : IdentKind} (id : Ident kind) :
    (ofIdent id).asIdent? kind = some id :=
  congrArg Except.toOption (Ident.parse_text id)

theorem asTimestamp?_ofTimestamp (t : Timestamp) :
    (ofTimestamp t).asTimestamp? = some t.written := by
  rw [ofTimestamp, asTimestamp?, text, asText?, Option.bind_some, Timestamp.parse?_json]

theorem ofName?_name_device (status : DeviceStatus) :
    DeviceStatus.ofName? status.name = some status := by
  cases status <;> decide

theorem ofName?_name_reading (status : ReadingStatus) :
    ReadingStatus.ofName? status.name = some status := by
  cases status <;> decide

theorem integer?_ofNat (n : Nat) : (Numeral.ofNat n).integer? = some (n : Int) := by
  simp [Numeral.integer?, Numeral.ofNat]

theorem integer?_ofInt (n : Int) : (Numeral.ofInt n).integer? = some n := by
  simp only [Numeral.integer?, Numeral.ofInt, Text.digitsValue_digits, decide_eq_true_eq]
  rw [if_neg (by simp)]
  split_ifs with negative zero
  · omega
  · congr
    omega
  · congr
    omega

theorem asInteger?_int {first last n : Int} (inside : first ≤ n ∧ n ≤ last) :
    (int n).asInteger? first last = some n := by
  rw [int, asInteger?, integer?_ofInt, Option.filter_some, if_pos (decide_eq_true inside)]

theorem count?_nat {n : Nat} (inside : n < 2 ^ 64) : Summary.count? (nat n) = some n := by
  have bounds : (0 : Int) ≤ n ∧ (n : Int) ≤ 18446744073709551615 := by omega
  rw [Summary.count?, nat, asInteger?, integer?_ofNat, Option.filter_some,
    if_pos (decide_eq_true bounds)]
  rfl

theorem reasonOfJson?_optionalText (s : Option String) :
    Reading.reasonOfJson? (some (optionalText s)) = some s := by
  cases s <;> rfl

end Json

open Json

theorem Device.ofJson?_json (d : Device) :
    ofJson? d.json = some { d with createdAt := d.createdAt.written } := by
  have tier : Json.asInteger? (-2147483648) 2147483647 (.int d.tier.toInt) = some d.tier.toInt :=
    asInteger?_int ⟨d.tier.le_toInt, Int.le_of_lt_add_one d.tier.toInt_lt⟩
  rw [ofJson?, json, fields?_record (by decide) rfl]
  simp only [List.map_cons, List.map_nil, asIdent?_ofIdent, asTimestamp?_ofTimestamp, tier]
  simp [asVersion?, asName?, asText?, Json.text, ofName?_name_device]

theorem Incident.ofJson?_json (incident : Incident) : ofJson? incident.json =
    some { incident with
      windowStart := incident.windowStart.written
      windowEnd := incident.windowEnd.written } := by
  rw [ofJson?, json, fields?_record (by decide) rfl]
  simp only [List.map_cons, List.map_nil, asTimestamp?_ofTimestamp]
  simp [asText?, Json.text]

theorem Summary.ofJson?_json {summary : Summary} (suspended : summary.suspended < 2 ^ 64)
    (quarantined : summary.quarantined < 2 ^ 64) (notified : summary.notified < 2 ^ 64) :
    ofJson? summary.json = some summary := by
  rw [ofJson?, json, fields?_record (by decide) rfl]
  simp only [List.map_cons, List.map_nil, count?_nat suspended, count?_nat quarantined,
    count?_nat notified]
  rfl

theorem Reading.ofJson?_json (value : UInt64 → Json) (r : Reading) :
    ofJson? (r.json value) =
      (value r.value).asDouble?.map fun bits =>
        { r with value := bits, timestamp := r.timestamp.written } := by
  rw [ofJson?, json, fields?_record (by decide) rfl]
  simp only [List.map_cons, List.map_nil, asIdent?_ofIdent, asTimestamp?_ofTimestamp,
    reasonOfJson?_optionalText]
  cases (value r.value).asDouble? <;> simp [asName?, asText?, Json.text, ofName?_name_reading]

theorem Device.proper_json (d : Device) : Proper (.value d.json) := by
  apply proper_record
  simp only [List.forall_mem_cons]
  exact ⟨proper_ofIdent _, proper_ofIdent _, .text _, .text _, .text _, proper_int _,
    proper_ofTimestamp _, fun _ member => by cases member⟩

theorem Incident.proper_json (incident : Incident) : Proper (.value incident.json) := by
  apply proper_record
  simp only [List.forall_mem_cons]
  exact ⟨.text _, .text _, .text _, proper_ofTimestamp _, proper_ofTimestamp _, .text _,
    fun _ member => by cases member⟩

theorem Summary.proper_json (summary : Summary) : Proper (.value summary.json) := by
  apply proper_record
  simp only [List.forall_mem_cons]
  exact ⟨proper_nat _, proper_nat _, proper_nat _, fun _ member => by cases member⟩

theorem Reading.proper_json {value : UInt64 → Json} {r : Reading}
    (proper : Proper (.value (value r.value))) : Proper (.value (r.json value)) := by
  apply proper_record
  simp only [List.forall_mem_cons]
  exact ⟨proper_ofIdent _, proper_ofIdent _, proper, proper_ofTimestamp _, .text _,
    proper_optionalText _, fun _ member => by cases member⟩

namespace Json

def texts (v : Json) : List String :=
  [v.render, v.renderIndented]

theorem bind_of_mem_texts {α : Type} {v : Json} (proper : Proper (.value v))
    (read : Json → Option α) {document : String} (written : document ∈ v.texts) :
    (parse? document).bind read = read v := by
  have parsed : parse? document = some v := by
    rcases List.mem_cons.mp written with rfl | indented
    · exact parse?_render proper
    · obtain rfl := List.mem_singleton.mp indented
      exact parse?_renderIndented proper
  rw [parsed, Option.bind_some]

/-- Reading undoes writing, but for a leap second that is not at the end of a minute: it comes back
as the second that its text names. A reading whose value is finite comes back with its other fields,
and one whose value is not finite does not come back. -/
theorem records_read_back {write : UInt64 → Json} (writes : WritesDoubles write) :
    (∀ t : Timestamp, (t.written = t ↔ (t.IsLeap → t.second % 60 = 59)) ∧
      (t.IsLeap → t.second % 60 ≠ 59 → t.written.day = t.day ∧
        t.written.second = t.second + 1 ∧ t.written.nano = t.nano - nanosPerSecond)) ∧
    (∀ d : Device, ∀ document ∈ d.json.texts, (parse? document).bind Device.ofJson? =
      some { d with createdAt := d.createdAt.written }) ∧
    (∀ incident : Incident, ∀ document ∈ incident.json.texts,
      (parse? document).bind Incident.ofJson? = some { incident with
        windowStart := incident.windowStart.written
        windowEnd := incident.windowEnd.written }) ∧
    (∀ suspended quarantined notified : UInt64,
      let summary : Summary := ⟨suspended.toNat, quarantined.toNat, notified.toNat⟩
      ∀ document ∈ summary.json.texts, (parse? document).bind Summary.ofJson? = some summary) ∧
    ∀ r : Reading, ∀ document ∈ (r.json write).texts,
      ((Float.ofBits r.value).isFinite = true → ∃ value,
        (parse? document).bind Reading.ofJson? =
          some { r with value, timestamp := r.timestamp.written }) ∧
      ((Float.ofBits r.value).isFinite = false →
        (parse? document).bind Reading.ofJson? = none) := by
  refine ⟨fun t => ⟨t.written_eq_self_iff, t.written_of_early⟩, ?_, ?_, ?_, ?_⟩
  · intro d document written
    rw [bind_of_mem_texts d.proper_json _ written, Device.ofJson?_json]
  · intro incident document written
    rw [bind_of_mem_texts incident.proper_json _ written, Incident.ofJson?_json]
  · intro suspended quarantined notified summary document written
    rw [bind_of_mem_texts summary.proper_json _ written]
    exact Summary.ofJson?_json suspended.toNat_lt quarantined.toNat_lt notified.toNat_lt
  · intro r document written
    rw [bind_of_mem_texts (Reading.proper_json (writes.proper r.value)) _ written,
      Reading.ofJson?_json]
    constructor
    · intro finite
      obtain ⟨value, measured⟩ := writes.asDouble?_of_finite finite
      exact ⟨value, by rw [measured, Option.map_some]⟩
    · intro other
      rw [writes.asDouble?_of_not_finite other, Option.map_none]

def oneAndAHalf : Json :=
  .number ⟨false, ['1'], ['5'], none⟩

theorem ofDouble_oneAndAHalf : Numeral.OfDouble ⟨false, ['1'], ['5'], none⟩ where
  proper := {
    whole := ⟨by simp [Text.AllDigits], by decide, by decide⟩
    fraction := by simp [Text.AllDigits]
    exponent := fun _ given => by cases given }
  short := by decide
  digits := by decide
  bounded := by
    calc (15 : ℚ) * 10 ^ (-1 : ℤ) ≤ 17976931348623157 := by norm_num
      _ ≤ 17976931348623157 * 10 ^ 292 := le_mul_of_one_le_right (by norm_num)
          (one_le_pow₀ (by norm_num))

theorem proper_oneAndAHalf : Proper (.value oneAndAHalf) :=
  .number ofDouble_oneAndAHalf.proper

def lateReading : Reading where
  id := ⟨1⟩
  device := ⟨2⟩
  value := 0x3FF8000000000000
  timestamp := .mk 10238000 3599 1250000000
  status := .quarantined
  reason := some "a \"fault\"\n"

-- Right for the value of the late reading.
def writeLate (bits : UInt64) : Json :=
  if (Float.ofBits bits).isFinite then oneAndAHalf else .null

theorem writeLate_writes : WritesDoubles writeLate where
  finite _ finite := ⟨_, ofDouble_oneAndAHalf, if_pos finite⟩
  other _ other := if_neg (other ▸ Bool.false_ne_true)

theorem records_read_back_late : WritesDoubles writeLate ∧ ∃ value,
    (parse? (lateReading.json writeLate).render).bind Reading.ofJson? =
      some { lateReading with value } := by
  have regular : lateReading.timestamp.written = lateReading.timestamp :=
    Timestamp.written_of_regular (by decide)
  obtain ⟨-, -, -, -, readings⟩ := records_read_back writeLate_writes
  have read := (readings lateReading _ List.mem_cons_self).1 (by decide +kernel)
  rw [regular] at read
  exact ⟨writeLate_writes, read⟩

def noonDevice : Device where
  id := ⟨1⟩
  owner := ⟨2⟩
  className := "tier1"
  firmware := ⟨"1.0.0"⟩
  status := .active
  tier := 1
  createdAt := .mk 20148 43200 1750000000

theorem leap_at_noon_and_nan_not_read_back :
    (parse? noonDevice.json.render).bind Device.ofJson? ≠ some noonDevice ∧
    (parse? (Reading.json writeLate { lateReading with value := 0x7FF8000000000000 }).render).bind
      Reading.ofJson? = none := by
  constructor
  · rw [bind_of_mem_texts noonDevice.proper_json _ List.mem_cons_self, Device.ofJson?_json]
    decide
  · rw [bind_of_mem_texts (Reading.proper_json (writeLate_writes.proper _)) _ List.mem_cons_self,
      Reading.ofJson?_json, writeLate_writes.asDouble?_of_not_finite (by decide +kernel)]
    rfl

end Json

/-! ## Fixtures -/

theorem Json.proper_items {items : List Json} (filled : items ≠ [])
    (each : ∀ item ∈ items, Proper (.value item)) : Proper (.items items) := by
  induction items with
  | nil => exact absurd rfl filled
  | cons item items ih =>
      have first := each item List.mem_cons_self
      cases items with
      | nil => exact .lastItem first
      | cons next items =>
          have rest := ih (List.cons_ne_nil next items) fun v listed =>
            each v (List.mem_cons_of_mem _ listed)
          exact .item first rest

theorem Json.proper_array {items : List Json} (each : ∀ item ∈ items, Proper (.value item)) :
    Proper (.value (.array items)) := by
  cases items with
  | nil => exact .emptyArray
  | cons item items => exact .array (proper_items (List.cons_ne_nil item items) each)

namespace Fixtures

def json (value : UInt64 → Json) (fixtures : Fixtures) : Json :=
  .record [("devices", .array (fixtures.devices.map Device.json)),
    ("readings", .array (fixtures.readings.map (Reading.json value)))]

theorem listOf?_map {α : Type} {read : Json → Option α} {write : α → Json} {l : List α}
    (undoes : ∀ a ∈ l, read (write a) = some a) :
    listOf? read (some (.array (l.map write))) = some l := by
  rw [listOf?, asArray?, Option.bind_some]
  induction l with
  | nil => rfl
  | cons a l ih =>
      have rest := ih fun b listed => undoes b (List.mem_cons_of_mem a listed)
      rw [List.map_cons, List.mapM_cons, undoes a List.mem_cons_self, rest]
      rfl

theorem parse?_json {value : UInt64 → Json} {fixtures : Fixtures}
    (regular : (∀ d ∈ fixtures.devices, d.createdAt.written = d.createdAt) ∧
      ∀ r ∈ fixtures.readings, r.timestamp.written = r.timestamp)
    (proper : ∀ r ∈ fixtures.readings, Proper (.value (value r.value)))
    (faithful : ∀ r ∈ fixtures.readings, (value r.value).asDouble? = some r.value) :
    parse? (fixtures.json value).render = some fixtures := by
  have devices : listOf? Device.ofJson? (some (.array (fixtures.devices.map Device.json))) =
      some fixtures.devices := by
    refine listOf?_map fun d listed => ?_
    rw [Device.ofJson?_json, regular.1 d listed]
  have readings : listOf? Reading.ofJson?
      (some (.array (fixtures.readings.map (Reading.json value)))) = some fixtures.readings := by
    refine listOf?_map fun r listed => ?_
    rw [Reading.ofJson?_json, faithful r listed, Option.map_some, regular.2 r listed]
  have written : Proper (.value (fixtures.json value)) := by
    apply proper_record
    simp only [List.forall_mem_cons]
    refine ⟨proper_array ?_, proper_array ?_, fun _ member => by cases member⟩
    · exact List.forall_mem_map.mpr fun d _ => d.proper_json
    · exact List.forall_mem_map.mpr fun r listed => Reading.proper_json (proper r listed)
  rw [parse?, parse?_render written, Option.bind_some, ofJson?, json,
    fields?_record (by decide) rfl]
  simp only [List.map_cons, List.map_nil, devices, readings]
  rfl

end Fixtures

end FleetResponse
