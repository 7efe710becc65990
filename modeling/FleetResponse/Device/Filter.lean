import FleetResponse.Device
import FleetResponse.Firmware.Range

namespace FleetResponse

structure DeviceFilter where
  className : String
  firmware : Firmware.Range
deriving DecidableEq

inductive FilterFault
  | blankClass
  | emptyRange (error : Firmware.RangeError)
deriving DecidableEq, Repr

namespace FilterFault

def message : FilterFault → String
  | blankClass => "device class must not be empty"
  | emptyRange error => error.message

end FilterFault

namespace DeviceFilter

def between (className min max : String) : Except FilterFault DeviceFilter :=
  if Text.allBlank className.toList then .error .blankClass
  else match Firmware.Range.between min max with
    | .error error => .error (.emptyRange error)
    | .ok firmware => .ok ⟨className, firmware⟩

def picks (filter : DeviceFilter) (device : Device) : Bool :=
  device.className = filter.className && filter.firmware.contains device.firmware

end DeviceFilter

end FleetResponse
