import FleetResponse.Database.Exchange
import FleetResponse.Device.Error
import FleetResponse.Device.Filter

namespace FleetResponse

namespace Device

open Database in
/-- The device of a row. The texts are read first, except for the class. -/
def ofRow (row : Row) : Except DatabaseError Device := do
  let id ← row.text "id"
  let owner ← row.text "owner_id"
  let firmware ← row.text "firmware"
  let status ← row.text "status"
  let id ← (Ident.parse .device id).mapError fun e => .invalidRow "id" e.message
  let owner ← (Ident.parse .scitizen owner).mapError fun e => .invalidRow "owner_id" e.message
  let className ← row.text "class"
  let status ← match DeviceStatus.ofName? status with
    | some status => pure status
    | none => throw (.invalidRow "status" (DeviceStatus.unknown status))
  let tier ← row.int4 "tier"
  let createdAt ← row.timestamp "created_at"
  return ⟨id, owner, className, ⟨firmware⟩, status, tier, createdAt⟩

end Device

namespace Database.Devices

def table : String := "devices"

def columns : List String :=
  ["id", "owner_id", "class", "firmware", "status", "tier", "created_at"]

def values (device : Device) : List Value :=
  [.text device.id.text, .text device.owner.text, .text device.className,
   .text device.firmware.text, .text device.status.name, .int4 device.tier,
   .ofTimestamp device.createdAt]

def storeError (e : DatabaseError) : DirectoryError :=
  .store (.database e)

def orElse (e : DirectoryError) (reply : Reply) : Except DirectoryError Unit :=
  match reply.count with
  | .error error => .error (storeError error)
  | .ok 0 => .error e
  | .ok (_ + 1) => .ok ()

def register (device : Device) : Exchange (Except DirectoryError Unit) :=
  .ask ⟨.insert table columns "id" .doNothing, values device⟩ (orElse (.duplicate device.id))

def get (id : DeviceId) : Exchange (Except DirectoryError Device) :=
  .ask ⟨.select table columns [.equals "id" (.param 1)] [], [.text id.text]⟩ fun reply =>
    match reply.result with
    | .error e => .error (storeError e)
    | .ok [] => .error (.notFound id)
    | .ok (row :: _) => (Device.ofRow row).mapError storeError

def select (filter : DeviceFilter) (rows : List Row) : Except DatabaseError (List Device) := do
  return (← rows.mapM Device.ofRow).filter fun device => filter.firmware.contains device.firmware

def query (filter : DeviceFilter) : Exchange (Except DirectoryError (List Device)) :=
  .ask ⟨.select table columns [.equals "class" (.param 1)] ["created_at", "id"],
      [.text filter.className]⟩ fun reply =>
    (reply.result.bind (select filter)).mapError storeError

def setStatus (id : DeviceId) (status : DeviceStatus) : Exchange (Except DirectoryError Unit) :=
  .ask ⟨.update table [("status", .param 1)] [.equals "id" (.param 2)],
      [.text status.name, .text id.text]⟩ (orElse (.notFound id))

end Database.Devices

end FleetResponse
