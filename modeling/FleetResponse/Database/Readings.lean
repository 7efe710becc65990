import FleetResponse.Database.Exchange
import FleetResponse.Reading.Error
import FleetResponse.Reading.Store

namespace FleetResponse.Database.Readings

def table : String := "readings"

def columns : List String :=
  ["id", "device_id", "value", "timestamp", "status", "quarantine_reason"]

def overwritten : List String :=
  ["value", "timestamp", "status", "quarantine_reason"]

def values (reading : Reading) : List Value :=
  [.text reading.id.text, .text reading.device.text, .double reading.value,
   .ofTimestamp reading.timestamp, .text reading.status.name, .ofOptionalText reading.reason]

def storeError (e : DatabaseError) : QuarantineError :=
  .store (.database e)

def record (reading : Reading) : Exchange (Except QuarantineError Unit) :=
  .ask ⟨.insert table columns "id" (.overwrite overwritten), values reading⟩ fun reply =>
    (reply.count.map fun _ => ()).mapError storeError

def idTexts (devices : List DeviceId) : Value :=
  .texts (devices.map Ident.text)

def windowConditions : List Condition :=
  [.member "device_id" 2, .atLeast "timestamp" (.param 3), .atMost "timestamp" (.param 4),
   .equals "status" (.literal ReadingStatus.accepted.name)]

def quarantineWindow (devices : List DeviceId) (window : Window) (reason : String) :
    Exchange (Except QuarantineError Nat) :=
  if devices.isEmpty then .known (.ok 0)
  else .ask ⟨.update table
      [("status", .literal ReadingStatus.quarantined.name), ("quarantine_reason", .param 1)]
      windowConditions,
      [.text reason, idTexts devices, .ofTimestamp window.opens, .ofTimestamp window.closes]⟩
    fun reply => reply.count.mapError storeError

/-- The counts in the first row of a result. A count below zero is none. -/
def qualityOf (rows : List Row) : Except DatabaseError Quality :=
  match rows with
  | [] => .error (.query "no rows returned by a query that expected to return at least one row")
  | row :: _ => do
      let accepted ← row.int8 "accepted"
      let quarantined ← row.int8 "quarantined"
      return ⟨accepted.toInt.toNat, quarantined.toInt.toNat⟩

def ofStatus (status : ReadingStatus) : Condition :=
  .equals "status" (.literal status.name)

def quality (devices : List DeviceId) : Exchange (Except QuarantineError Quality) :=
  if devices.isEmpty then .known (.ok ⟨0, 0⟩)
  else .ask ⟨.count table
      [("accepted", ofStatus .accepted), ("quarantined", ofStatus .quarantined)]
      [.member "device_id" 1], [idTexts devices]⟩
    fun reply => (reply.result.bind qualityOf).mapError storeError

end FleetResponse.Database.Readings
