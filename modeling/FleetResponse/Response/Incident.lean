import FleetResponse.Device.Filter
import FleetResponse.Notice
import FleetResponse.Time.Window

namespace FleetResponse

structure Incident where
  className : String
  firmwareMin : String
  firmwareMax : String
  windowStart : Timestamp
  windowEnd : Timestamp
  reason : String
deriving DecidableEq, Repr

structure Summary where
  suspended : Nat
  quarantined : Nat
  notified : Nat
deriving DecidableEq, Repr

namespace Incident

def filter (incident : Incident) : Except FilterFault DeviceFilter :=
  DeviceFilter.between incident.className incident.firmwareMin incident.firmwareMax

def window (incident : Incident) : Except WindowError Window :=
  Window.between incident.windowStart incident.windowEnd

def subject : String := "Device suspended due to security vulnerability"

/-- The text of a notice. It gives the bounds as they were supplied. -/
def body (incident : Incident) : String :=
  "Your device (class " ++ incident.className ++ ") has been suspended: " ++ incident.reason
    ++ ". Affected firmware range: " ++ incident.firmwareMin ++ "–" ++ incident.firmwareMax ++ "."

def notice (incident : Incident) (owner : ScitizenId) : Notice :=
  ⟨owner, subject, incident.body⟩

def fields : List Json.Field :=
  [⟨"class", .required⟩, ⟨"firmware_min", .required⟩, ⟨"firmware_max", .required⟩,
   ⟨"window_start", .required⟩, ⟨"window_end", .required⟩, ⟨"reason", .required⟩]

def json (incident : Incident) : Json :=
  .record [("class", .text incident.className), ("firmware_min", .text incident.firmwareMin),
    ("firmware_max", .text incident.firmwareMax),
    ("window_start", .ofTimestamp incident.windowStart),
    ("window_end", .ofTimestamp incident.windowEnd), ("reason", .text incident.reason)]

def ofJson? (v : Json) : Option Incident :=
  match Json.fields? fields v with
  | some [some className, some min, some max, some windowStart, some windowEnd, some reason] => do
      return {
        className := ← className.asText?
        firmwareMin := ← min.asText?
        firmwareMax := ← max.asText?
        windowStart := ← windowStart.asTimestamp?
        windowEnd := ← windowEnd.asTimestamp?
        reason := ← reason.asText? }
  | _ => none

end Incident

namespace Summary

def nothing : Summary :=
  ⟨0, 0, 0⟩

def fields : List Json.Field :=
  [⟨"suspended_count", .required⟩, ⟨"quarantined_readings", .required⟩,
   ⟨"notified_scitizens", .required⟩]

def json (summary : Summary) : Json :=
  .record [("suspended_count", .nat summary.suspended),
    ("quarantined_readings", .nat summary.quarantined),
    ("notified_scitizens", .nat summary.notified)]

def count? (v : Json) : Option Nat :=
  (v.asInteger? 0 18446744073709551615).map Int.toNat

def ofJson? (v : Json) : Option Summary :=
  match Json.fields? fields v with
  | some [some suspended, some quarantined, some notified] => do
      return ⟨← count? suspended, ← count? quarantined, ← count? notified⟩
  | _ => none

end Summary

end FleetResponse
