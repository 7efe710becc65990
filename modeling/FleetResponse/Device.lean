import FleetResponse.Firmware.Version
import FleetResponse.Ident
import FleetResponse.Json.Record
import FleetResponse.Time.Printer
import FleetResponse.Time.Reader

namespace FleetResponse

inductive DeviceStatus
  | pending
  | active
  | suspended
  | revoked
deriving DecidableEq, Repr

namespace DeviceStatus

def name : DeviceStatus → String
  | pending => "pending"
  | active => "active"
  | suspended => "suspended"
  | revoked => "revoked"

def ofName? (name : String) : Option DeviceStatus :=
  [pending, active, suspended, revoked].find? fun status => status.name = name

def unknown (text : String) : String :=
  "unknown device status '" ++ text ++ "'"

end DeviceStatus

structure Device where
  id : DeviceId
  owner : ScitizenId
  className : String
  firmware : Firmware.Version
  status : DeviceStatus
  tier : Int32
  createdAt : Timestamp
deriving DecidableEq, Repr

namespace Json

def ofIdent {kind : IdentKind} (id : Ident kind) : Json :=
  .text id.text

def asIdent? (kind : IdentKind) (v : Json) : Option (Ident kind) :=
  v.asText?.bind fun text => (Ident.parse kind text).toOption

def ofTimestamp (t : Timestamp) : Json :=
  .text t.json

def asTimestamp? (v : Json) : Option Timestamp :=
  v.asText?.bind Timestamp.parse?

def asVersion? (v : Json) : Option Firmware.Version :=
  v.asText?.map Firmware.Version.mk

/-- The name of a status: a text, or an object with the name and null as its only member. -/
def asName? : Json → Option String
  | .object [(name, .null)] => name
  | v => v.asText?

end Json

namespace Device

def fields : List Json.Field :=
  [⟨"id", .required⟩, ⟨"owner_id", .required⟩, ⟨"class", .required⟩, ⟨"firmware", .required⟩,
   ⟨"status", .required⟩, ⟨"tier", .required⟩, ⟨"created_at", .required⟩]

def json (d : Device) : Json :=
  .record [("id", .ofIdent d.id), ("owner_id", .ofIdent d.owner), ("class", .text d.className),
    ("firmware", .text d.firmware.text), ("status", .text d.status.name),
    ("tier", .int d.tier.toInt), ("created_at", .ofTimestamp d.createdAt)]

def ofJson? (v : Json) : Option Device :=
  match Json.fields? fields v with
  | some [some id, some owner, some className, some firmware, some status, some tier,
      some createdAt] => do
      return {
        id := ← id.asIdent? .device
        owner := ← owner.asIdent? .scitizen
        className := ← className.asText?
        firmware := ← firmware.asVersion?
        status := ← status.asName?.bind DeviceStatus.ofName?
        tier := Int32.ofInt (← tier.asInteger? (-2147483648) 2147483647)
        createdAt := ← createdAt.asTimestamp? }
  | _ => none

end Device

end FleetResponse
