import FleetResponse.Worker.Counter
import FleetResponse.Worker.Schedule

namespace FleetResponse.Worker

def traceLine : TraceEvent Counter Counter.Message → String
  | .started lifecycle => "start " ++ lifecycle.name
  | .handling _ message processed => "handle " ++ message.name ++ " #" ++ toString processed
  | .noted text => text
  | .stopping lifecycle processed counter =>
      "stop " ++ lifecycle.name ++ " #" ++ toString processed ++ " value " ++ toString counter.value

def isShownPlain : TraceEvent Counter Counter.Message → Bool
  | .started _ => false
  | .stopping _ _ _ => false
  | _ => true

inductive ScriptStep
  | operate (operation : Operation Counter.Message)
  | look
  | release (permits : Nat)
  | abort (step : Nat)
  | dropHandle

structure Script where
  behaviour : Behaviour Counter Counter.Message Counter.Reply
  schedule : Schedule Counter Counter.Message Counter.Reply
  begun : List Nat
  settled : List Nat
  traced : Nat

inductive ScriptAnswer
  | plain
  | noHandle
  | state (closed : Bool)
  | aborted (was : Bool)

structure ScriptReport where
  finished : List (Nat × Result Counter.Reply)
  trace : List (TraceEvent Counter Counter.Message)

namespace Script

def start (behaviour : Behaviour Counter Counter.Message Counter.Reply) (name : String)
    (mailboxSize : Nat) (value : Int) : Script :=
  ⟨behaviour, .start (.spawn (name ++ "_#") mailboxSize ⟨value, 0⟩), [], [], 0⟩

def describe (identity : String) (closed : Bool) : String :=
  "ActorHandle \x7b actor_id: \"" ++ identity ++ "\", closed: "
    ++ (if closed then "true" else "false") ++ " \x7d"

def system (script : Script) : System Counter Counter.Message Counter.Reply :=
  script.schedule.system

def openOperation? (script : Script) (step : Nat) : Option Nat := do
  let i ← script.begun.idxOf? step
  let client ← script.system.clients[i]?
  if client.stage.isOpen && !script.schedule.quitting.contains i then some i else none

def disturb (script : Script) (system : System Counter Counter.Message Counter.Reply) : Script :=
  { script with schedule := { script.schedule with system }.refresh script.behaviour }

def act (script : Script) (number : Nat) : ScriptStep → ScriptAnswer × Script
  | .operate operation =>
      if script.system.handles = 0 then (.noHandle, script)
      else (.plain, { script with
        schedule := script.schedule.begin_ operation
        begun := script.begun ++ [number] })
  | .look =>
      if script.system.handles = 0 then (.noHandle, script)
      else (.state script.system.isClosed, script)
  | .release permits =>
      let content := script.system.content
      (.plain, script.disturb { script.system with
        content := { content with permits := content.permits + permits } })
  | .abort step =>
      match script.openOperation? step with
      | none => (.aborted false, script)
      | some i => (.aborted true, { script with
        schedule := script.schedule.quit i
        settled := i :: script.settled })
  | .dropHandle =>
      match script.system.step script.behaviour .dropHandle with
      | none => (.plain, script)
      | some system => (.plain, script.disturb system)

def settle (script : Script) : Script :=
  { script with schedule := script.schedule.settle script.behaviour }

def newlyFinished (script : Script) : List (Nat × Nat × Result Counter.Reply) :=
  (script.begun.zip script.system.clients).zipIdx.filterMap fun ((step, client), i) =>
    match client.stage with
    | .finished result => if script.settled.contains i then none else some (i, step, result)
    | _ => none

def report (script : Script) : ScriptReport × Script :=
  let finished := script.newlyFinished
  (⟨finished.map (·.2), script.system.trace.drop script.traced⟩,
   { script with
      settled := finished.map (·.1) ++ script.settled
      traced := script.system.trace.length })

def pending (script : Script) : List Nat :=
  script.begun.zipIdx.filterMap fun (step, i) =>
    if script.settled.contains i then none else some step

end Script

end FleetResponse.Worker
