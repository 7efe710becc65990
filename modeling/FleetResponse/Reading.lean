import FleetResponse.Device
import FleetResponse.Json.Double

namespace FleetResponse

inductive ReadingStatus
  | accepted
  | quarantined
  | rejected
deriving DecidableEq, Repr

namespace ReadingStatus

def name : ReadingStatus → String
  | accepted => "accepted"
  | quarantined => "quarantined"
  | rejected => "rejected"

def ofName? (name : String) : Option ReadingStatus :=
  [accepted, quarantined, rejected].find? fun status => status.name = name

def unknown (text : String) : String :=
  "unknown reading status '" ++ text ++ "'"

end ReadingStatus

structure Reading where
  id : ReadingId
  device : DeviceId
  /-- The bits of the measured value, a double. -/
  value : UInt64
  timestamp : Timestamp
  status : ReadingStatus
  reason : Option String
deriving DecidableEq, Repr

namespace Reading

def fields : List Json.Field :=
  [⟨"id", .required⟩, ⟨"device_id", .required⟩, ⟨"value", .required⟩, ⟨"timestamp", .required⟩,
   ⟨"status", .required⟩, ⟨"quarantine_reason", .optional⟩]

def reasonOfJson? : Option Json → Option (Option String)
  | none => some none
  | some .null => some none
  | some v => v.asText?.map some

def json (value : UInt64 → Json) (r : Reading) : Json :=
  .record [("id", .ofIdent r.id), ("device_id", .ofIdent r.device), ("value", value r.value),
    ("timestamp", .ofTimestamp r.timestamp), ("status", .text r.status.name),
    ("quarantine_reason", .optionalText r.reason)]

def ofJson? (v : Json) : Option Reading :=
  match Json.fields? fields v with
  | some [some id, some device, some value, some timestamp, some status, reason] => do
      return {
        id := ← id.asIdent? .reading
        device := ← device.asIdent? .device
        value := ← value.asDouble?
        timestamp := ← timestamp.asTimestamp?
        status := ← status.asName?.bind ReadingStatus.ofName?
        reason := ← reasonOfJson? reason }
  | _ => none

def new (id : ReadingId) (device : DeviceId) (value : UInt64) (timestamp : Timestamp) : Reading :=
  ⟨id, device, value, timestamp.storagePrecision, .accepted, none⟩

def stored (r : Reading) : Reading :=
  { r with timestamp := r.timestamp.storagePrecision }

def quarantined (reason : String) (r : Reading) : Reading :=
  { r with status := .quarantined, reason := some reason }

end Reading

end FleetResponse
