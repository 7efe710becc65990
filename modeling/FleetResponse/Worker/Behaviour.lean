import FleetResponse.Worker.Error

namespace FleetResponse.Worker

inductive Lifecycle
  | starting
  | running
  | stopping
  | stopped
  | failed
deriving DecidableEq, Repr

namespace Lifecycle

def name : Lifecycle → String
  | starting => "Starting"
  | running => "Running"
  | stopping => "Stopping"
  | stopped => "Stopped"
  | failed => "Failed"

def ofName? (name : String) : Option Lifecycle :=
  [starting, running, stopping, stopped, failed].find? fun lifecycle => lifecycle.name = name

def advance (lifecycle next : Lifecycle) : Lifecycle :=
  if lifecycle = failed then failed else next

end Lifecycle

structure Context where
  identity : String
  processed : Nat
  lifecycle : Lifecycle
deriving DecidableEq, Repr

structure Turn (σ ρ : Type) where
  content : σ
  lifecycle : Lifecycle
  reply : Option ρ
  failure : Option WorkerError
  notes : List String

structure Behaviour (σ μ ρ : Type) where
  startFailure : Option WorkerError
  /-- The handling of a message, or nothing as long as it cannot go on. -/
  handle : Context → μ → σ → Option (Turn σ ρ)

end FleetResponse.Worker
