import FleetResponse.Config
import FleetResponse.Response.Error

namespace FleetResponse

/-- The largest mailbox that a worker can be started with. -/
def mailboxLimit : Nat := 2305843009213693951

inductive LaunchError
  | config (source : ConfigError)
  | unreadableFixtures (path : String)
  | malformedFixtures (path : String)
  | oversizedMailbox
  | database (source : DatabaseError)
  | directory (source : DirectoryError)
  | readings (source : QuarantineError)
  | response (source : ResponseError)
deriving DecidableEq, Repr

namespace LaunchError

def message : LaunchError → String
  | config source => source.message
  | unreadableFixtures path => "read fixtures from " ++ path
  | malformedFixtures path => "parse fixtures " ++ path
  | oversizedMailbox =>
      "a semaphore may not have more than MAX_PERMITS permits (" ++ toString mailboxLimit ++ ")"
  | database source => source.message
  | directory source => source.message
  | readings source => source.message
  | response source => source.message

def isCrash : LaunchError → Bool
  | oversizedMailbox => true
  | _ => false

def headline (e : LaunchError) : String :=
  String.ofList (Text.upTo '\n' e.message.toList)

end LaunchError

end FleetResponse
