import FleetResponse.Device.Error
import FleetResponse.Device.Filter

namespace FleetResponse

structure Directory where
  devices : List Device
  index : List (DeviceId × Nat)
deriving DecidableEq

namespace Directory

def empty : Directory :=
  ⟨[], []⟩

def position? (dir : Directory) (id : DeviceId) : Option Nat :=
  dir.index.lookup id

def register (dir : Directory) (device : Device) : Except DirectoryError Directory :=
  match dir.position? device.id with
  | some _ => .error (.duplicate device.id)
  | none => .ok ⟨dir.devices ++ [device], (device.id, dir.devices.length) :: dir.index⟩

def get (dir : Directory) (id : DeviceId) : Except DirectoryError Device :=
  match dir.position? id with
  | none => .error (.notFound id)
  | some i =>
      match dir.devices[i]? with
      | none => .error (.notFound id)
      | some device => .ok device

def query (dir : Directory) (filter : DeviceFilter) : List Device :=
  dir.devices.filter filter.picks

def setStatus (dir : Directory) (id : DeviceId) (status : DeviceStatus) :
    Except DirectoryError Directory :=
  match dir.position? id with
  | none => .error (.notFound id)
  | some i => .ok { dir with devices := dir.devices.modify i ({ · with status }) }

/-! ## Requests -/

inductive Request
  | register (device : Device)
  | get (id : DeviceId)
  | query (filter : DeviceFilter)
  | setStatus (id : DeviceId) (status : DeviceStatus)

abbrev Request.Answer : Request → Type
  | register _ => Except DirectoryError Unit
  | get _ => Except DirectoryError Device
  | query _ => List Device
  | setStatus _ _ => Except DirectoryError Unit

def change (dir : Directory) (result : Except DirectoryError Directory) :
    Except DirectoryError Unit × Directory :=
  match result with
  | .ok after => (.ok (), after)
  | .error error => (.error error, dir)

def handle (dir : Directory) : (request : Request) → request.Answer × Directory
  | .register device => dir.change (dir.register device)
  | .get id => (dir.get id, dir)
  | .query filter => (dir.query filter, dir)
  | .setStatus id status => dir.change (dir.setStatus id status)

end Directory

end FleetResponse
