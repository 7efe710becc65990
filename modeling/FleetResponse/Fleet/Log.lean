import FleetResponse.Device.Directory
import FleetResponse.Log.Event
import FleetResponse.Notice
import FleetResponse.Reading.Store

namespace FleetResponse

def quarantinedEvent (devices : List DeviceId) (window : Window) (affected : Nat) : LogEvent :=
  .info "Quarantined readings by window" [("devices", .nat devices.length),
    ("since", .text window.opens.display), ("until", .text window.closes.display),
    ("affected", .nat affected)]

def Directory.events (dir : Directory) : Directory.Request → List LogEvent
  | .setStatus id status =>
      match dir.get id with
      | .error _ => []
      | .ok device =>
          if device.status = status then []
          else [.info "Device status changed" [("device_id", .ofIdent id),
            ("from", .text device.status.name), ("to", .text status.name)]]
  | _ => []

def ReadingStore.events (store : ReadingStore) : ReadingStore.Request → List LogEvent
  | .quarantineWindow devices window reason =>
      [quarantinedEvent devices window (store.quarantineWindow devices window reason).1]
  | _ => []

def Outbox.events : Outbox.Request → List LogEvent
  | .send batch => batch.map fun notice => .info "Notification sent"
      [("recipient", .ofIdent notice.recipient), ("subject", .text notice.subject)]
  | .list => []

end FleetResponse
