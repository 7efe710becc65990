import FleetResponse.Fleet.Log
import FleetResponse.Fleet.Service
import FleetResponse.Response.Program

namespace FleetResponse

structure Fleet where
  directory : Service Directory
  readings : Service ReadingStore
  outbox : Service Outbox
  log : List LogEvent

namespace Fleet

def empty : Fleet :=
  ⟨.start .empty, .start .empty, .start .empty, []⟩

/-! ## Requests -/

def askDirectory (fleet : Fleet) (request : Directory.Request) :
    Except WorkerError request.Answer × Fleet :=
  let (answer, directory) := fleet.directory.ask fun dir => dir.handle request
  let events :=
    if fleet.directory.running then fleet.directory.content.events request else []
  (answer, { fleet with directory, log := fleet.log ++ events })

def askReadings (fleet : Fleet) (request : ReadingStore.Request) :
    Except WorkerError request.Answer × Fleet :=
  let (answer, readings) := fleet.readings.ask fun store => store.handle request
  let events :=
    if fleet.readings.running then fleet.readings.content.events request else []
  (answer, { fleet with readings, log := fleet.log ++ events })

def askOutbox (fleet : Fleet) (request : Outbox.Request) :
    Except WorkerError request.Answer × Fleet :=
  let (answer, outbox) := fleet.outbox.ask fun outbox => outbox.handle request
  let events := if fleet.outbox.running then Outbox.events request else []
  (answer, { fleet with outbox, log := fleet.log ++ events })

/-! ## Operations -/

def flatten {α ε : Type} (ofWorker : WorkerError → ε) :
    Except WorkerError (Except ε α) → Except ε α
  | .ok answer => answer
  | .error e => .error (ofWorker e)

def register (fleet : Fleet) (device : Device) : Except DirectoryError Unit × Fleet :=
  let (answer, fleet) := fleet.askDirectory (.register device)
  (flatten .worker answer, fleet)

def device (fleet : Fleet) (id : DeviceId) : Except DirectoryError Device × Fleet :=
  let (answer, fleet) := fleet.askDirectory (.get id)
  (flatten .worker answer, fleet)

def query (fleet : Fleet) (filter : DeviceFilter) : Except DirectoryError (List Device) × Fleet :=
  let (answer, fleet) := fleet.askDirectory (.query filter)
  (answer.mapError .worker, fleet)

def setStatus (fleet : Fleet) (id : DeviceId) (status : DeviceStatus) :
    Except DirectoryError Unit × Fleet :=
  let (answer, fleet) := fleet.askDirectory (.setStatus id status)
  (flatten .worker answer, fleet)

def record (fleet : Fleet) (reading : Reading) : Except QuarantineError Unit × Fleet :=
  let (answer, fleet) := fleet.askReadings (.record reading)
  (answer.mapError .worker, fleet)

def reading (fleet : Fleet) (id : ReadingId) : Except QuarantineError Reading × Fleet :=
  let (answer, fleet) := fleet.askReadings (.get id)
  (flatten .worker answer, fleet)

def quarantine (fleet : Fleet) (id : ReadingId) (reason : String) :
    Except QuarantineError Unit × Fleet :=
  let (answer, fleet) := fleet.askReadings (.quarantine id reason)
  (flatten .worker answer, fleet)

def quarantineWindow (fleet : Fleet) (devices : List DeviceId) (window : Window)
    (reason : String) : Except QuarantineError Nat × Fleet :=
  if devices.isEmpty then (.ok 0, fleet)
  else
    let (answer, fleet) := fleet.askReadings (.quarantineWindow devices window reason)
    (answer.mapError .worker, fleet)

def quality (fleet : Fleet) (devices : List DeviceId) : Except QuarantineError Quality × Fleet :=
  let (answer, fleet) := fleet.askReadings (.quality devices)
  (answer.mapError .worker, fleet)

def notify (fleet : Fleet) (batch : List Notice) : Except NotifyError Unit × Fleet :=
  let (answer, fleet) := fleet.askOutbox (.send batch)
  (flatten .worker answer, fleet)

def notices (fleet : Fleet) : Except NotifyError (List Notice) × Fleet :=
  let (answer, fleet) := fleet.askOutbox .list
  (answer.mapError .worker, fleet)

/-! ## The stores as capabilities -/

def answer (fleet : Fleet) : (request : Call) → request.Answer × Fleet
  | .query filter => fleet.query filter
  | .setStatus id status => fleet.setStatus id status
  | .quarantine devices window reason => fleet.quarantineWindow devices window reason
  | .notify batch => fleet.notify batch

def capabilities : Capabilities Fleet where
  answer request fleet := fleet.answer request
  log event fleet := { fleet with log := fleet.log ++ [event] }

end Fleet

end FleetResponse
