import FleetResponse.Fleet
import FleetResponse.Response

namespace FleetResponse

namespace Interleaving

variable {α σ : Type}

def turn (caps : Capabilities σ) (i : Nat) (programs : List (Program α)) (s : σ) :
    List (Program α) × σ :=
  match programs[i]? with
  | none => (programs, s)
  | some program =>
      let (program, s) := program.step caps s
      (programs.set i program, s)

def run (caps : Capabilities σ) : List Nat → List (Program α) → σ → List (Program α) × σ
  | [], programs, s => (programs, s)
  | i :: schedule, programs, s =>
      let (programs, s) := turn caps i programs s
      run caps schedule programs s

def rounds (count size : Nat) : List Nat :=
  (List.replicate count (List.range size)).flatten

end Interleaving

namespace Fleet

/-- Runs the responses to some incidents in turns. A response makes one call for each device that it
suspends, and three others. -/
def respondTogether (fleet : Fleet) (incidents : List Incident) :
    List (Except ResponseError Summary) × Fleet :=
  let turns := fleet.directory.content.devices.length + 4
  let (programs, fleet) := Interleaving.run capabilities
    (Interleaving.rounds turns incidents.length) (incidents.map Incident.respond) fleet
  (programs.filterMap Program.result?, fleet)

end Fleet

end FleetResponse
