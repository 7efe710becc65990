import FleetResponse.Device.Error
import FleetResponse.Notice
import FleetResponse.Reading.Error

namespace FleetResponse

inductive ResponseError
  | queryDevices (source : DirectoryError)
  | suspendDevice (id : DeviceId) (suspended : List DeviceId) (source : DirectoryError)
  | quarantineReadings (source : QuarantineError)
  | notifyOwners (source : NotifyError)
deriving DecidableEq, Repr

namespace ResponseError

def step : ResponseError → String
  | queryDevices _ => "query_devices"
  | suspendDevice _ _ _ => "suspend_devices"
  | quarantineReadings _ => "quarantine_readings"
  | notifyOwners _ => "notify_scitizens"

def message : ResponseError → String
  | queryDevices source => "query devices by class: " ++ source.message
  | suspendDevice id _ source => "suspend device " ++ id.text ++ ": " ++ source.message
  | quarantineReadings source => "quarantine readings: " ++ source.message
  | notifyOwners source => "notify scitizens: " ++ source.message

def causes : ResponseError → List String
  | queryDevices source => source.message :: source.causes
  | suspendDevice _ _ source => source.message :: source.causes
  | quarantineReadings source => source.message :: source.causes
  | notifyOwners source => source.message :: source.causes

end ResponseError

end FleetResponse
