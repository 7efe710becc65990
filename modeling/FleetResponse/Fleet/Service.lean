import FleetResponse.Worker.Error

namespace FleetResponse

structure Service (σ : Type) where
  content : σ
  running : Bool
  handled : Nat

namespace Service

variable {σ α : Type}

def start (content : σ) : Service σ :=
  ⟨content, true, 0⟩

def ask (service : Service σ) (handle : σ → α × σ) : Except WorkerError α × Service σ :=
  if service.running then
    let (answer, content) := handle service.content
    (.ok answer, ⟨content, true, service.handled + 1⟩)
  else (.error .stopped, service)

def shutdown (service : Service σ) : Service σ :=
  { service with running := false }

end Service

end FleetResponse
