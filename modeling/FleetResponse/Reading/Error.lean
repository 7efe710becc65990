import FleetResponse.Database.Error
import FleetResponse.Ident
import FleetResponse.Time.Window
import FleetResponse.Worker.Error

namespace FleetResponse

inductive QuarantineError
  | invalidWindow (error : WindowError)
  | notFound (id : ReadingId)
  | store (fault : StoreFault)
  | worker (error : WorkerError)
deriving DecidableEq, Repr

namespace QuarantineError

def message : QuarantineError → String
  | invalidWindow error => error.message
  | notFound id => "reading " ++ id.text ++ " not found"
  | store fault => "reading store error: " ++ fault.message
  | worker error => "reading store unavailable: " ++ error.message

def causes : QuarantineError → List String
  | store fault => [fault.message]
  | worker error => error.message :: error.causes
  | _ => []

end QuarantineError

end FleetResponse
