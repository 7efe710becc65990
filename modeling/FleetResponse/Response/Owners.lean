import FleetResponse.Device

namespace FleetResponse

structure OwnerSet where
  order : List ScitizenId
  seen : List ScitizenId
deriving DecidableEq

namespace OwnerSet

def empty : OwnerSet :=
  ⟨[], []⟩

def insert (owners : OwnerSet) (owner : ScitizenId) : Bool × OwnerSet :=
  if owners.seen.contains owner then (false, owners)
  else (true, ⟨owners.order ++ [owner], owner :: owners.seen⟩)

def isEmpty (owners : OwnerSet) : Bool :=
  owners.order.isEmpty

def size (owners : OwnerSet) : Nat :=
  owners.order.length

def ofDevices (devices : List Device) : OwnerSet :=
  devices.foldl (fun owners device => (owners.insert device.owner).2) empty

end OwnerSet

end FleetResponse
