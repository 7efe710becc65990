import FleetResponse.Worker.System

namespace FleetResponse.Worker

structure Counter where
  value : Int
  permits : Nat
deriving DecidableEq, Repr

namespace Counter

inductive Message
  | add (n : Int)
  | hold
  | context
  | mark (text : String)
  | drop
  | fail (text : String)
  | stop
  | crash (text : String)
  | other (name : String)
deriving DecidableEq, Repr

def Message.name : Message → String
  | add _ => "add"
  | hold => "hold"
  | context => "ctx"
  | mark _ => "mark"
  | drop => "drop"
  | fail _ => "fail"
  | stop => "stop"
  | crash _ => "crash"
  | other name => name

inductive Reply
  | value (n : Int)
  | context (context : Context)
deriving DecidableEq, Repr

def replyValue (context : Context) (counter : Counter) (notes : List String) :
    Turn Counter Reply :=
  ⟨counter, context.lifecycle, some (.value counter.value), none, notes⟩

def failWith (context : Context) (counter : Counter) (error : WorkerError) : Turn Counter Reply :=
  ⟨counter, context.lifecycle, none, some error, []⟩

def handle (context : Context) (message : Message) (counter : Counter) :
    Option (Turn Counter Reply) :=
  match message with
  | .add n => some (replyValue context { counter with value := counter.value + n } [])
  | .hold =>
      match counter.permits with
      | 0 => none
      | permits + 1 => some (replyValue context ⟨counter.value + 1, permits⟩ ["held"])
  | .context => some ⟨counter, context.lifecycle, some (.context context), none, []⟩
  | .mark text =>
      let lifecycle := (Lifecycle.ofName? text).getD .failed
      some (replyValue { context with lifecycle } counter [])
  | .drop => some ⟨counter, context.lifecycle, none, none, []⟩
  | .fail text => some (failWith context counter (.internal text []))
  | .stop => some (failWith context counter .stopped)
  | .crash text => some (failWith context counter (.permanent text))
  | .other _ => some (replyValue context counter [])

def behaviour (startFailure : Option WorkerError) : Behaviour Counter Message Reply :=
  ⟨startFailure, handle⟩

end Counter

end FleetResponse.Worker
