import FleetResponse.Database.Error
import FleetResponse.Ident
import FleetResponse.Worker.Error

namespace FleetResponse

inductive DirectoryError
  | notFound (id : DeviceId)
  | duplicate (id : DeviceId)
  | invalidFilter (reason : String)
  | store (fault : StoreFault)
  | worker (error : WorkerError)
deriving DecidableEq, Repr

namespace DirectoryError

def message : DirectoryError → String
  | notFound id => "device " ++ id.text ++ " not found"
  | duplicate id => "device " ++ id.text ++ " already registered"
  | invalidFilter reason => "invalid device filter: " ++ reason
  | store fault => "device store error: " ++ fault.message
  | worker error => "device directory unavailable: " ++ error.message

def causes : DirectoryError → List String
  | store fault => [fault.message]
  | worker error => error.message :: error.causes
  | _ => []

end DirectoryError

end FleetResponse
