namespace FleetResponse

inductive WorkerError
  | stopped
  | permanent (text : String)
  | internal (text : String) (below : List String)
deriving DecidableEq, Repr

namespace WorkerError

def message : WorkerError → String
  | stopped => "actor stopped"
  | permanent text => "permanent error: " ++ text
  | internal text _ => "internal error: " ++ text

def causes : WorkerError → List String
  | stopped => []
  | permanent _ => []
  | internal text below => text :: below

def isPermanent : WorkerError → Bool
  | permanent _ => true
  | _ => false

end WorkerError

end FleetResponse
