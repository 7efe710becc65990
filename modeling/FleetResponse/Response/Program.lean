import FleetResponse.Device.Error
import FleetResponse.Device.Filter
import FleetResponse.Log.Event
import FleetResponse.Notice
import FleetResponse.Reading.Error

/-!
# Programs over the capabilities

A response uses three capabilities: it finds devices and changes their status, it sets readings
aside, and it sends notices. A program is what it does with them, call by call, whatever the answers
are.
-/

namespace FleetResponse

inductive Call
  | query (filter : DeviceFilter)
  | setStatus (id : DeviceId) (status : DeviceStatus)
  | quarantine (devices : List DeviceId) (window : Window) (reason : String)
  | notify (batch : List Notice)
deriving DecidableEq

abbrev Call.Answer : Call → Type
  | query _ => Except DirectoryError (List Device)
  | setStatus _ _ => Except DirectoryError Unit
  | quarantine _ _ _ => Except QuarantineError Nat
  | notify _ => Except NotifyError Unit

inductive Program (α : Type) : Type
  | done (result : α)
  | call (request : Call) (next : request.Answer → Program α)
  | note (event : LogEvent) (next : Program α)

structure Capabilities (σ : Type) where
  answer : (request : Call) → σ → request.Answer × σ
  log : LogEvent → σ → σ

namespace Program

variable {α β σ : Type}

def bind : Program α → (α → Program β) → Program β
  | done result, f => f result
  | call request next, f => call request fun answer => (next answer).bind f
  | note event next, f => note event (next.bind f)

def run (caps : Capabilities σ) : Program α → σ → α × σ
  | done result, s => (result, s)
  | call request next, s =>
      let (answer, s) := caps.answer request s
      (next answer).run caps s
  | note event next, s => next.run caps (caps.log event s)

def step (caps : Capabilities σ) : Program α → σ → Program α × σ
  | done result, s => (done result, s)
  | call request next, s =>
      let (answer, s) := caps.answer request s
      (next answer, s)
  | note event next, s => next.step caps (caps.log event s)

def result? : Program α → Option α
  | done result => some result
  | call _ _ => none
  | note _ next => next.result?

end Program

end FleetResponse
