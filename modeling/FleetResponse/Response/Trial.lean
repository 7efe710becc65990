import FleetResponse.Fleet

namespace FleetResponse

structure Faults where
  query : Option DirectoryError
  setStatus : Option (Nat × DirectoryError)
  stopDirectoryAt : Option Nat
  quarantine : Option QuarantineError
  notify : Option NotifyError
  ghosts : List Device

def Faults.changeFailure? (faults : Faults) (change : Nat) : Option DirectoryError :=
  match faults.setStatus with
  | some (position, e) => if position = change then some e else none
  | none => none

structure Trial where
  fleet : Fleet
  calls : List Call
  changes : Nat

namespace Trial

def start (fleet : Fleet) : Trial :=
  ⟨fleet, [], 0⟩

def orFleet (trial : Trial) (request : Call) (failure : Option request.Answer) :
    request.Answer × Trial :=
  match failure with
  | some answer => (answer, trial)
  | none =>
      let (answer, fleet) := trial.fleet.answer request
      (answer, { trial with fleet })

def noted (trial : Trial) (request : Call) : Trial :=
  { trial with calls := trial.calls ++ [request] }

def beforeChange (trial : Trial) (faults : Faults) (change : Nat) : Trial :=
  if faults.stopDirectoryAt = some change then
    { trial with fleet := { trial.fleet with directory := trial.fleet.directory.shutdown } }
  else trial

def answer (faults : Faults) (trial : Trial) : (request : Call) → request.Answer × Trial
  | .query filter =>
      let (found, trial) := (trial.noted (.query filter)).orFleet (.query filter)
        (faults.query.map .error)
      (found.map (· ++ faults.ghosts), trial)
  | .setStatus id status =>
      let change := trial.changes
      let trial := { trial.noted (.setStatus id status) with changes := change + 1 }
      match faults.changeFailure? change with
      | some e => (.error e, trial)
      | none => (trial.beforeChange faults change).orFleet (.setStatus id status) none
  | .quarantine devices window reason =>
      (trial.noted (.quarantine devices window reason)).orFleet
        (.quarantine devices window reason) (faults.quarantine.map .error)
  | .notify batch =>
      (trial.noted (.notify batch)).orFleet (.notify batch) (faults.notify.map .error)

def capabilities (faults : Faults) : Capabilities Trial where
  answer request trial := trial.answer faults request
  log event trial := { trial with fleet := Fleet.capabilities.log event trial.fleet }

end Trial

end FleetResponse
