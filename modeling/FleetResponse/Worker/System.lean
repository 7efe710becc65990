import FleetResponse.Worker.Behaviour

/-!
# Workers and their clients

A worker takes messages from a bounded mailbox, in the order in which they got there. Clients send
messages, call (which is sending and waiting for the reply), ask the worker to shut down, and wait
for it to stop; a request to shut down travels through the same mailbox. Clients that find the
mailbox full stand in line for a free slot.

The steps are as small as the points at which clients and worker can be interrupted. A client may
give up before each of its steps.
-/

namespace FleetResponse.Worker

inductive Operation (μ : Type)
  | call (message : μ)
  | send (message : μ)
  | shutdown
  | awaitStop
deriving DecidableEq, Repr

inductive Result (ρ : Type)
  | replied (reply : ρ)
  | sent
  | shutDown
  | stopped
  | failed (error : WorkerError)
deriving DecidableEq, Repr

inductive Stage (ρ : Type)
  | fresh
  | admitted
  | waiting
  | granted
  | awaitingReply
  | answered (reply : Option ρ)
  | awaitingStop
  | finished (result : Result ρ)
  | abandoned
deriving DecidableEq, Repr

namespace Stage

def isOpen {ρ : Type} : Stage ρ → Bool
  | finished _ => false
  | abandoned => false
  | _ => true

end Stage

structure Client (μ ρ : Type) where
  operation : Operation μ
  stage : Stage ρ
deriving DecidableEq, Repr

inductive Envelope (μ : Type)
  | request (client : Nat) (message : μ)
  | shutdown
deriving DecidableEq, Repr

-- The mailbox is open until a worker that left its loop, or could not start, has closed it.
inductive Activity (μ : Type)
  | starting
  | preparing
  | broken
  | idle
  | handling (client : Nat) (message : μ)
  | leaving
  | stopping
  | parting
  | ended
  | stopped
deriving DecidableEq, Repr

inductive TraceEvent (σ μ : Type)
  | started (lifecycle : Lifecycle)
  | handling (client : Nat) (message : μ) (processed : Nat)
  | noted (text : String)
  | stopping (lifecycle : Lifecycle) (processed : Nat) (content : σ)

structure System (σ μ ρ : Type) where
  content : σ
  context : Context
  activity : Activity μ
  mailbox : List (Envelope μ)
  free : Nat
  line : List Nat
  closing : Bool
  closed : Bool
  clients : List (Client μ ρ)
  handles : Nat
  trace : List (TraceEvent σ μ)

inductive Move (μ : Type)
  | begin_ (operation : Operation μ)
  | check (client : Nat)
  | submit (client : Nat)
  | push (client : Nat)
  | collect (client : Nat)
  | abandon (client : Nat)
  | cloneHandle
  | dropHandle
  | start
  | ready
  | take
  | finish
  | close
  | stop
  | part
  | signal
deriving DecidableEq, Repr

namespace System

variable {σ μ ρ : Type}

def spawn (identity : String) (mailboxSize : Nat) (content : σ) : System σ μ ρ where
  content
  context := ⟨identity, 0, .starting⟩
  activity := .starting
  mailbox := []
  free := max mailboxSize 1
  line := []
  closing := false
  closed := false
  clients := []
  handles := 1
  trace := []

def isStopped (s : System σ μ ρ) : Bool :=
  match s.activity with
  | .stopped => true
  | _ => false

def isClosed (s : System σ μ ρ) : Bool :=
  s.closing || s.closed

def handleCount (s : System σ μ ρ) : Nat :=
  s.handles + s.clients.countP (·.stage.isOpen)

def setStage (s : System σ μ ρ) (client : Nat) (stage : Stage ρ) : System σ μ ρ :=
  { s with clients := s.clients.modify client ({ · with stage }) }

/-! ## Steps of a client -/

/-- The end of an operation that the mailbox refused. Who wants the worker to stop only has to wait
for it. -/
def refuse (s : System σ μ ρ) (client : Nat) : Operation μ → System σ μ ρ
  | .call _ => s.setStage client (.finished (.failed .stopped))
  | .send _ => s.setStage client (.finished (.failed .stopped))
  | .shutdown => s.setStage client .awaitingStop
  | .awaitStop => s.setStage client .awaitingStop

def checkStep (s : System σ μ ρ) (client : Nat) : Operation μ → System σ μ ρ
  | .call m =>
      if s.closing then s.refuse client (.call m) else s.setStage client .admitted
  | .send m =>
      if s.closing then s.refuse client (.send m) else s.setStage client .admitted
  | .shutdown =>
      if s.closing then s.refuse client .shutdown
      else { s with closing := true }.setStage client .admitted
  | .awaitStop => s.setStage client .awaitingStop

def mail (s : System σ μ ρ) (envelope : Envelope μ) : System σ μ ρ :=
  { s with mailbox := s.mailbox ++ [envelope] }

def enqueue (s : System σ μ ρ) (client : Nat) : Operation μ → System σ μ ρ
  | .call m => (s.mail (.request client m)).setStage client .awaitingReply
  | .send m => (s.mail (.request client m)).setStage client (.finished .sent)
  | .shutdown => (s.mail .shutdown).setStage client .awaitingStop
  | .awaitStop => s

def submitStep (s : System σ μ ρ) (client : Nat) (operation : Operation μ) : System σ μ ρ :=
  if s.closed then s.refuse client operation
  else if 0 < s.free then { s with free := s.free - 1 }.enqueue client operation
  else { s with line := s.line ++ [client] }.setStage client .waiting

def freeSlot (s : System σ μ ρ) : System σ μ ρ :=
  match s.line with
  | [] => { s with free := s.free + 1 }
  | client :: line => { s with line }.setStage client .granted

def collectStep? (s : System σ μ ρ) (client : Nat) (c : Client μ ρ) : Option (System σ μ ρ) :=
  match c.stage, c.operation with
  | .answered (some reply), _ => some (s.setStage client (.finished (.replied reply)))
  | .answered none, _ => some (s.setStage client (.finished (.failed .stopped)))
  | .awaitingStop, .shutdown =>
      if s.isStopped then some (s.setStage client (.finished .shutDown)) else none
  | .awaitingStop, _ =>
      if s.isStopped then some (s.setStage client (.finished .stopped)) else none
  | _, _ => none

/-- A client that gives up leaves the line, or gives its slot back. What it put into the mailbox
stays there. -/
def abandonStep? (s : System σ μ ρ) (client : Nat) (c : Client μ ρ) : Option (System σ μ ρ) :=
  match c.stage with
  | .finished _ => none
  | .abandoned => none
  | .waiting => some ({ s with line := s.line.erase client }.setStage client .abandoned)
  | .granted => some ((s.setStage client .abandoned).freeSlot)
  | _ => some (s.setStage client .abandoned)

/-! ## Steps of the worker -/

def answer (s : System σ μ ρ) (client : Nat) (reply : Option ρ) : System σ μ ρ :=
  match s.clients[client]? with
  | some c =>
      match c.stage with
      | .awaitingReply => s.setStage client (.answered reply)
      | _ => s
  | none => s

def discard (s : System σ μ ρ) : List (Envelope μ) → System σ μ ρ
  | [] => s
  | .request client _ :: envelopes => (s.answer client none).discard envelopes
  | .shutdown :: envelopes => s.discard envelopes

def closeMailbox (s : System σ μ ρ) : System σ μ ρ :=
  { s with closed := true, mailbox := [], line := [] }.discard s.mailbox

def traced (s : System σ μ ρ) (events : List (TraceEvent σ μ)) : System σ μ ρ :=
  { s with trace := s.trace ++ events }

def setLifecycle (s : System σ μ ρ) (lifecycle : Lifecycle) : System σ μ ρ :=
  { s with context := { s.context with lifecycle } }

def startStep (s : System σ μ ρ) : System σ μ ρ :=
  { s with activity := .preparing }.traced [.started s.context.lifecycle]

def readyStep (b : Behaviour σ μ ρ) (s : System σ μ ρ) : System σ μ ρ :=
  match b.startFailure with
  | none => { s with activity := .idle }.setLifecycle .running
  | some _ => { s with activity := .broken }

/-- The next envelope. Without one, and without a handle that could bring one, the worker leaves. -/
def takeStep? (s : System σ μ ρ) : Option (System σ μ ρ) :=
  match s.mailbox with
  | .request client message :: mailbox =>
      let context := { s.context with processed := s.context.processed + 1 }
      some ({ { s with mailbox }.freeSlot with
        context
        activity := .handling client message }.traced
          [.handling client message context.processed])
  | .shutdown :: mailbox => some { { s with mailbox }.freeSlot with activity := .leaving }
  | [] => if s.handleCount = 0 then some { s with activity := .leaving } else none

def finishStep (s : System σ μ ρ) (client : Nat) (turn : Turn σ ρ) : System σ μ ρ :=
  let s := { s with content := turn.content }.traced (turn.notes.map .noted)
  let s := s.setLifecycle turn.lifecycle
  let s := s.answer client turn.reply
  if turn.failure.any (·.isPermanent) then { s with activity := .leaving }.setLifecycle .failed
  else { s with activity := .idle }

def closeStep (s : System σ μ ρ) : System σ μ ρ :=
  { s.closeMailbox with activity := .stopping }.setLifecycle
    (s.context.lifecycle.advance .stopping)

def shutStep (s : System σ μ ρ) : System σ μ ρ :=
  { s.closeMailbox with activity := .ended }

def stopStep (s : System σ μ ρ) : System σ μ ρ :=
  { s with activity := .parting }.traced
    [.stopping s.context.lifecycle s.context.processed s.content]

def partStep (s : System σ μ ρ) : System σ μ ρ :=
  { s with activity := .ended }.setLifecycle (s.context.lifecycle.advance .stopped)

/-! ## All steps -/

def step (b : Behaviour σ μ ρ) (s : System σ μ ρ) : Move μ → Option (System σ μ ρ)
  | .begin_ operation =>
      if s.handleCount = 0 then none
      else some { s with clients := s.clients ++ [⟨operation, .fresh⟩] }
  | .check client => do
      let c ← s.clients[client]?
      match c.stage with
      | .fresh => some (s.checkStep client c.operation)
      | _ => none
  | .submit client => do
      let c ← s.clients[client]?
      match c.stage with
      | .admitted => some (s.submitStep client c.operation)
      | _ => none
  | .push client => do
      let c ← s.clients[client]?
      match c.stage with
      | .granted =>
          if s.closed then some (s.refuse client c.operation)
          else some (s.enqueue client c.operation)
      | .waiting => if s.closed then some (s.refuse client c.operation) else none
      | _ => none
  | .collect client => do
      let c ← s.clients[client]?
      s.collectStep? client c
  | .abandon client => do
      let c ← s.clients[client]?
      s.abandonStep? client c
  | .cloneHandle =>
      if s.handleCount = 0 then none else some { s with handles := s.handles + 1 }
  | .dropHandle => if s.handles = 0 then none else some { s with handles := s.handles - 1 }
  | .start =>
      match s.activity with
      | .starting => some s.startStep
      | _ => none
  | .ready =>
      match s.activity with
      | .preparing => some (s.readyStep b)
      | _ => none
  | .take =>
      match s.activity with
      | .idle => s.takeStep?
      | _ => none
  | .finish =>
      match s.activity with
      | .handling client message =>
          (b.handle s.context message s.content).map fun turn => s.finishStep client turn
      | _ => none
  | .close =>
      match s.activity with
      | .leaving => some s.closeStep
      | .broken => some s.shutStep
      | _ => none
  | .stop =>
      match s.activity with
      | .stopping => some s.stopStep
      | _ => none
  | .part =>
      match s.activity with
      | .parting => some s.partStep
      | _ => none
  | .signal =>
      match s.activity with
      | .ended => some { s with activity := .stopped }
      | _ => none

def steps (b : Behaviour σ μ ρ) (s : System σ μ ρ) : List (Move μ) → Option (System σ μ ρ)
  | [] => some s
  | m :: moves => (s.step b m).bind fun s => s.steps b moves

end System

end FleetResponse.Worker
