import FleetResponse.Database.Backend
import FleetResponse.Fixtures
import FleetResponse.Fleet
import FleetResponse.Launch.Error
import FleetResponse.Response

namespace FleetResponse

structure Stores (τ : Type) where
  register : Device → τ → Except DirectoryError Unit × τ
  record : Reading → τ → Except QuarantineError Unit × τ
  capabilities : Capabilities τ

namespace Stores

variable {τ : Type}

def registerAll (stores : Stores τ) : List Device → τ → Except LaunchError Unit × τ
  | [], s => (.ok (), s)
  | device :: devices, s =>
      match stores.register device s with
      | (.ok (), s) => stores.registerAll devices s
      | (.error e, s) => (.error (.directory e), s)

def recordAll (stores : Stores τ) : List Reading → τ → Except LaunchError Unit × τ
  | [], s => (.ok (), s)
  | reading :: readings, s =>
      match stores.record reading s with
      | (.ok (), s) => stores.recordAll readings s
      | (.error e, s) => (.error (.readings e), s)

def load (stores : Stores τ) (fixtures : Fixtures) (s : τ) : Except LaunchError Unit × τ :=
  match stores.registerAll fixtures.devices s with
  | (.ok (), s) => stores.recordAll fixtures.readings s
  | (.error e, s) => (.error e, s)

end Stores

def Fleet.stores : Stores Fleet where
  register device fleet := fleet.register device
  record reading fleet := fleet.record reading
  capabilities := Fleet.capabilities

namespace Database.Backend

variable {σ : Type}

def stores (server : Server σ) : Stores (Backend σ) where
  register device backend := backend.perform server (Devices.register device)
  record reading backend := backend.perform server (Readings.record reading)
  capabilities := capabilities server

end Database.Backend

end FleetResponse
