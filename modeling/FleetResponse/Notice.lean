import FleetResponse.Ident
import FleetResponse.Worker.Error

namespace FleetResponse

structure Notice where
  recipient : ScitizenId
  subject : String
  body : String
deriving DecidableEq, Repr

inductive NotifyError
  | delivery (recipient : ScitizenId) (reason : String)
  | worker (error : WorkerError)
deriving DecidableEq, Repr

namespace NotifyError

def message : NotifyError → String
  | delivery recipient reason => "send notification to " ++ recipient.text ++ ": " ++ reason
  | worker error => "notifier unavailable: " ++ error.message

def causes : NotifyError → List String
  | delivery _ _ => []
  | worker error => error.message :: error.causes

end NotifyError

structure Outbox where
  notices : List Notice
deriving DecidableEq

namespace Outbox

def empty : Outbox :=
  ⟨[]⟩

def send (outbox : Outbox) (batch : List Notice) : Outbox :=
  ⟨outbox.notices ++ batch⟩

inductive Request
  | send (batch : List Notice)
  | list

abbrev Request.Answer : Request → Type
  | send _ => Except NotifyError Unit
  | list => List Notice

def handle (outbox : Outbox) : (request : Request) → request.Answer × Outbox
  | .send batch => (.ok (), outbox.send batch)
  | .list => (outbox.notices, outbox)

end Outbox

end FleetResponse
