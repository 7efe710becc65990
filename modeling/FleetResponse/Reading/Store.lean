import FleetResponse.Reading
import FleetResponse.Reading.Error

namespace FleetResponse

structure ReadingStore where
  readings : List (ReadingId × Reading)
deriving DecidableEq

structure Quality where
  accepted : Nat
  quarantined : Nat
deriving DecidableEq, Repr

namespace ReadingStore

def empty : ReadingStore :=
  ⟨[]⟩

def record (store : ReadingStore) (r : Reading) : ReadingStore :=
  if store.readings.any (·.1 = r.id) then
    ⟨store.readings.map fun entry => if entry.1 = r.id then (r.id, r.stored) else entry⟩
  else ⟨store.readings ++ [(r.id, r.stored)]⟩

def get (store : ReadingStore) (id : ReadingId) : Except QuarantineError Reading :=
  match store.readings.lookup id with
  | some r => .ok r
  | none => .error (.notFound id)

/-- Sets one reading aside, whatever its status is. -/
def quarantine (store : ReadingStore) (id : ReadingId) (reason : String) :
    Except QuarantineError ReadingStore :=
  match store.readings.lookup id with
  | none => .error (.notFound id)
  | some _ => .ok ⟨store.readings.map fun entry =>
      if entry.1 = id then (entry.1, entry.2.quarantined reason) else entry⟩

def affects (devices : List DeviceId) (window : Window) (r : Reading) : Bool :=
  r.status = .accepted && devices.contains r.device && window.contains r.timestamp

def quarantineWindow (store : ReadingStore) (devices : List DeviceId) (window : Window)
    (reason : String) : Nat × ReadingStore :=
  (store.readings.countP fun entry => affects devices window entry.2,
   ⟨store.readings.map fun entry =>
      if affects devices window entry.2 then (entry.1, entry.2.quarantined reason) else entry⟩)

def count (store : ReadingStore) (devices : List DeviceId) (status : ReadingStatus) : Nat :=
  store.readings.countP fun entry => devices.contains entry.2.device && entry.2.status = status

def quality (store : ReadingStore) (devices : List DeviceId) : Quality :=
  ⟨store.count devices .accepted, store.count devices .quarantined⟩

/-! ## Requests -/

inductive Request
  | record (reading : Reading)
  | get (id : ReadingId)
  | quarantine (id : ReadingId) (reason : String)
  | quarantineWindow (devices : List DeviceId) (window : Window) (reason : String)
  | quality (devices : List DeviceId)

abbrev Request.Answer : Request → Type
  | record _ => Unit
  | get _ => Except QuarantineError Reading
  | quarantine _ _ => Except QuarantineError Unit
  | quarantineWindow _ _ _ => Nat
  | quality _ => Quality

def handle (store : ReadingStore) : (request : Request) → request.Answer × ReadingStore
  | .record r => ((), store.record r)
  | .get id => (store.get id, store)
  | .quarantine id reason =>
      match store.quarantine id reason with
      | .ok after => (.ok (), after)
      | .error error => (.error error, store)
  | .quarantineWindow devices window reason => store.quarantineWindow devices window reason
  | .quality devices => (store.quality devices, store)

end ReadingStore

end FleetResponse
