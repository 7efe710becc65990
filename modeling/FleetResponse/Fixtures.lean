import FleetResponse.Json.Reader
import FleetResponse.Reading

namespace FleetResponse

structure Fixtures where
  devices : List Device
  readings : List Reading
deriving DecidableEq

namespace Fixtures

def empty : Fixtures :=
  ⟨[], []⟩

def fields : List Json.Field :=
  [⟨"devices", .defaulted⟩, ⟨"readings", .defaulted⟩]

def listOf? {α : Type} (read : Json → Option α) : Option Json → Option (List α)
  | none => some []
  | some v => v.asArray?.bind fun items => items.mapM read

def ofJson? (v : Json) : Option Fixtures :=
  match Json.fields? fields v with
  | some [devices, readings] => do
      return ⟨← listOf? Device.ofJson? devices, ← listOf? Reading.ofJson? readings⟩
  | _ => none

def parse? (document : String) : Option Fixtures :=
  (Json.parse? document).bind ofJson?

end Fixtures

end FleetResponse
