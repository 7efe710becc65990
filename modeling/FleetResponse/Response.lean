import FleetResponse.Response.Error
import FleetResponse.Response.Incident
import FleetResponse.Response.Owners
import FleetResponse.Response.Program

/-!
# Responses

A response to an incident finds the devices in question, suspends them one at a time, sets their
readings from the window aside, and tells each owner once. The first failure ends it; what was done
before stays done.
-/

namespace FleetResponse

namespace ResponseLog

def start (incident : Incident) : LogEvent :=
  .info "Starting security response" [("class", .text incident.className),
    ("firmware_min", .text incident.firmwareMin), ("firmware_max", .text incident.firmwareMax),
    ("window_start", .text incident.windowStart.display),
    ("window_end", .text incident.windowEnd.display)]

def matched (count : Nat) : LogEvent :=
  .info "Matched vulnerable devices" [("count", .nat count)]

def suspended (count : Nat) : LogEvent :=
  .info "Suspended devices" [("count", .nat count)]

def outcome : Except ResponseError Summary → LogEvent
  | .ok summary => .info "Security response complete" [("suspended", .nat summary.suspended),
      ("quarantined", .nat summary.quarantined), ("notified", .nat summary.notified)]
  | .error e =>
      ⟨.warn, "Security response failed", [("step", .text e.step), ("error", .text e.message)]⟩

end ResponseLog

def suspendAll : List Device → List DeviceId → Program (Except ResponseError (List DeviceId))
  | [], suspended => .note (ResponseLog.suspended suspended.length) (.done (.ok suspended))
  | device :: devices, suspended =>
      .call (.setStatus device.id .suspended) fun
        | .error source => .done (.error (.suspendDevice device.id suspended source))
        | .ok () => suspendAll devices (suspended ++ [device.id])

namespace Incident

def tellOwners (incident : Incident) (devices : List Device) (quarantined : Nat) :
    Program (Except ResponseError Summary) :=
  let batch := (OwnerSet.ofDevices devices).order.map incident.notice
  let summary : Summary := ⟨devices.length, quarantined, batch.length⟩
  if batch.isEmpty then .done (.ok summary)
  else
    .call (.notify batch) fun
      | .error source => .done (.error (.notifyOwners source))
      | .ok () => .done (.ok summary)

def treat (incident : Incident) (window : Window) (devices : List Device) :
    Program (Except ResponseError Summary) :=
  (suspendAll devices []).bind fun
    | .error e => .done (.error e)
    | .ok ids =>
        if ids.isEmpty then incident.tellOwners devices 0
        else
          .call (.quarantine ids window incident.reason) fun
            | .error source => .done (.error (.quarantineReadings source))
            | .ok quarantined => incident.tellOwners devices quarantined

def steps (incident : Incident) : Program (Except ResponseError Summary) :=
  match incident.filter with
  | .error fault => .done (.error (.queryDevices (.invalidFilter fault.message)))
  | .ok filter =>
      match incident.window with
      | .error e => .done (.error (.quarantineReadings (.invalidWindow e)))
      | .ok window =>
          .call (.query filter) fun
            | .error source => .done (.error (.queryDevices source))
            | .ok devices =>
                .note (ResponseLog.matched devices.length)
                  (if devices.isEmpty then .done (.ok .nothing)
                  else incident.treat window devices)

def respond (incident : Incident) : Program (Except ResponseError Summary) :=
  .note (ResponseLog.start incident)
    (incident.steps.bind fun result => .note (ResponseLog.outcome result) (.done result))

end Incident

end FleetResponse
