import FleetResponse.Log.Event
import FleetResponse.Worker.Behaviour

namespace FleetResponse.WorkerLog

def identity (name : String) (number : Nat) : String :=
  name ++ "_" ++ toString number

def spawned (identity : String) (mailboxSize : Nat) : LogEvent :=
  .info "Spawned actor" [("actor_id", .text identity), ("mailbox_size", .nat mailboxSize)]

def stopped (identity : String) (handled : Nat) : List LogEvent :=
  [.info "Actor received shutdown" [("actor_id", .text identity)],
   .info "Actor stopped" [("actor_id", .text identity), ("messages_processed", .nat handled),
     ("state", .text Worker.Lifecycle.stopped.name)]]

end FleetResponse.WorkerLog
