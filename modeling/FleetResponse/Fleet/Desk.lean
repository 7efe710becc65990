import FleetResponse.Device.Directory
import FleetResponse.Notice
import FleetResponse.Reading.Store
import FleetResponse.Worker.System

/-!
# Desks

A store sits at a desk, behind its worker, and any number of clients ask it for something at the
same time. What the store can answer without a look at its content does not go to the worker.
-/

namespace FleetResponse

open Worker

structure Reply {μ : Type} (Answer : μ → Type) where
  request : μ
  answer : Answer request

structure Store (σ μ : Type) (Answer : μ → Type) where
  empty : σ
  handle : σ → (request : μ) → Answer request × σ
  atOnce? : (request : μ) → Option (Answer request)

namespace Store

variable {σ μ : Type} {Answer : μ → Type}

def turn (store : Store σ μ Answer) (context : Context) (request : μ) (content : σ) :
    Turn σ (Reply Answer) :=
  let (answer, content) := store.handle content request
  ⟨content, context.lifecycle, some ⟨request, answer⟩, none, []⟩

def behaviour (store : Store σ μ Answer) : Behaviour σ μ (Reply Answer) :=
  ⟨none, fun context request content => some (store.turn context request content)⟩

end Store

structure Desk (σ μ : Type) (Answer : μ → Type) where
  system : System σ μ (Reply Answer)
  atOnce : List (Reply Answer)

namespace Desk

variable {σ μ : Type} {Answer : μ → Type}

def start (store : Store σ μ Answer) (identity : String) (mailboxSize : Nat) :
    Desk σ μ Answer :=
  ⟨.spawn identity mailboxSize store.empty, []⟩

def move (store : Store σ μ Answer) (desk : Desk σ μ Answer) (m : Move μ) :
    Option (Desk σ μ Answer) :=
  (desk.system.step store.behaviour m).map fun system => { desk with system }

/-- Clients wait for the answers to what they ask: a store offers no operation that sends a request
and goes on. -/
def step (store : Store σ μ Answer) (desk : Desk σ μ Answer) : Move μ → Option (Desk σ μ Answer)
  | .begin_ (.call request) =>
      match store.atOnce? request with
      | some answer =>
          if desk.system.handleCount = 0 then none
          else some { desk with atOnce := desk.atOnce ++ [⟨request, answer⟩] }
      | none => desk.move store (.begin_ (.call request))
  | .begin_ (.send _) => none
  | m => desk.move store m

def run (store : Store σ μ Answer) (desk : Desk σ μ Answer) :
    List (Move μ) → Option (Desk σ μ Answer)
  | [] => some desk
  | m :: moves => (desk.step store m).bind fun desk => desk.run store moves

end Desk

/-! ## The stores in memory -/

def Directory.store : Store Directory Directory.Request Directory.Request.Answer :=
  ⟨.empty, Directory.handle, fun _ => none⟩

def ReadingStore.atOnce? : (request : ReadingStore.Request) → Option request.Answer
  | .quarantineWindow devices _ _ => if devices.isEmpty then some (0 : Nat) else none
  | _ => none

def ReadingStore.store : Store ReadingStore ReadingStore.Request ReadingStore.Request.Answer :=
  ⟨.empty, ReadingStore.handle, ReadingStore.atOnce?⟩

def Outbox.store : Store Outbox Outbox.Request Outbox.Request.Answer :=
  ⟨.empty, Outbox.handle, fun _ => none⟩

end FleetResponse
