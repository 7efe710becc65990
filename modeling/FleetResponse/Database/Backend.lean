import FleetResponse.Database.Devices
import FleetResponse.Database.Readings
import FleetResponse.Database.Schema
import FleetResponse.Fleet.Log
import FleetResponse.Fleet.Service
import FleetResponse.Response.Program

namespace FleetResponse.Database

structure Backend (σ : Type) where
  server : σ
  outbox : Service Outbox
  log : List LogEvent

namespace Backend

variable {α σ : Type}

def start (server : σ) : Backend σ :=
  ⟨server, .start .empty, []⟩

def perform (server : Server σ) (exchange : Exchange α) (backend : Backend σ) : α × Backend σ :=
  let (answer, s) := exchange.run server backend.server
  (answer, { backend with server := s })

def logAll (backend : Backend σ) (events : List LogEvent) : Backend σ :=
  { backend with log := backend.log ++ events }

def statusEvent (id : DeviceId) (status : DeviceStatus) : LogEvent :=
  .info "Device status updated" [("device_id", .ofIdent id), ("status", .text status.name)]

def notify (backend : Backend σ) (batch : List Notice) : Except NotifyError Unit × Backend σ :=
  match backend.outbox.ask fun outbox => outbox.handle (.send batch) with
  | (.error e, outbox) => (.error (.worker e), { backend with outbox })
  | (.ok answer, outbox) =>
      (answer, { backend with outbox }.logAll (Outbox.events (.send batch)))

def answer (server : Server σ) (backend : Backend σ) :
    (request : Call) → request.Answer × Backend σ
  | .query filter => backend.perform server (Devices.query filter)
  | .setStatus id status =>
      match backend.perform server (Devices.setStatus id status) with
      | (.ok (), backend) => (.ok (), backend.logAll [statusEvent id status])
      | (.error e, backend) => (.error e, backend)
  | .quarantine devices window reason =>
      match backend.perform server (Readings.quarantineWindow devices window reason) with
      | (.ok affected, backend) =>
          (.ok affected, if devices.isEmpty then backend
            else backend.logAll [quarantinedEvent devices window affected])
      | (.error e, backend) => (.error e, backend)
  | .notify batch => backend.notify batch

def capabilities (server : Server σ) : Capabilities (Backend σ) where
  answer request backend := backend.answer server request
  log event backend := backend.logAll [event]

end Backend

end FleetResponse.Database
