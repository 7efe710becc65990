import FleetResponse.Worker.System

/-!
# Schedules

One fair order in which a worker and its clients move. Who can move joins the end of a queue; who is
at the front of the queue moves as far as it can, and leaves it.
-/

namespace FleetResponse.Worker

inductive Agent
  | worker
  | client (i : Nat)
deriving DecidableEq, Repr

structure Schedule (σ μ ρ : Type) where
  system : System σ μ ρ
  queue : List Agent
  quitting : List Nat

namespace Schedule

variable {σ μ ρ : Type}

def start (system : System σ μ ρ) : Schedule σ μ ρ :=
  ⟨system, [.worker], []⟩

def movesOf (sched : Schedule σ μ ρ) : Agent → List (Move μ)
  | .worker => [.start, .ready, .take, .finish, .close, .stop, .part, .signal]
  | .client i =>
      if sched.quitting.contains i then [.abandon i]
      else [.check i, .submit i, .push i, .collect i]

def canMove (b : Behaviour σ μ ρ) (sched : Schedule σ μ ρ) (agent : Agent) : Bool :=
  (sched.movesOf agent).any fun m => (sched.system.step b m).isSome

def moveAll (b : Behaviour σ μ ρ) (s : System σ μ ρ) (moves : List (Move μ)) : System σ μ ρ :=
  moves.foldl (fun s m => (s.step b m).getD s) s

def moveAgent (b : Behaviour σ μ ρ) (sched : Schedule σ μ ρ) (agent : Agent) : Schedule σ μ ρ :=
  let moves := sched.movesOf agent
  let rounds := match agent with
    | .worker => sched.system.mailbox.length + 2
    | .client _ => 1
  { sched with system := moveAll b sched.system (List.replicate rounds moves).flatten }

def refresh (b : Behaviour σ μ ρ) (sched : Schedule σ μ ρ) : Schedule σ μ ρ :=
  let agents := .worker :: (List.range sched.system.clients.length).map .client
  let able := agents.filter fun agent => !sched.queue.contains agent && sched.canMove b agent
  { sched with queue := sched.queue ++ able }

def turns (b : Behaviour σ μ ρ) : Nat → Schedule σ μ ρ → Schedule σ μ ρ
  | 0, sched => sched
  | n + 1, sched =>
      match sched.queue with
      | [] => sched
      | agent :: queue =>
          turns b n (({ sched with queue }.moveAgent b agent).refresh b)

/-- Lets everybody move until nobody can. An operation takes part in fewer than eight turns, its own
and those of the worker. -/
def settle (b : Behaviour σ μ ρ) (sched : Schedule σ μ ρ) : Schedule σ μ ρ :=
  let sched := sched.refresh b
  turns b (8 * (sched.system.clients.length + 1)) sched

def begin_ (sched : Schedule σ μ ρ) (operation : Operation μ) : Schedule σ μ ρ :=
  let clients := sched.system.clients ++ [⟨operation, .fresh⟩]
  { sched with
    system := { sched.system with clients }
    queue := sched.queue ++ [.client sched.system.clients.length] }

def quit (sched : Schedule σ μ ρ) (client : Nat) : Schedule σ μ ρ :=
  { sched with
    queue := if sched.queue.contains (.client client) then sched.queue
      else sched.queue ++ [.client client]
    quitting := client :: sched.quitting }

end Schedule

end FleetResponse.Worker
