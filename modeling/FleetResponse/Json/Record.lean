import FleetResponse.Json.Value

namespace FleetResponse.Json

inductive Presence
  | required
  | optional
  | defaulted
deriving DecidableEq, Repr

structure Field where
  name : String
  presence : Presence
deriving DecidableEq, Repr

namespace Field

def mayMissByName (field : Field) : Bool :=
  field.presence != .required

def mayMissAtEnd (field : Field) : Bool :=
  field.presence == .defaulted

end Field

def named (name : String) (members : List (Option String × Json)) : List Json :=
  members.filterMap fun (key, value) => if key = some name then some value else none

def fieldByName (members : List (Option String × Json)) (field : Field) : Option (Option Json) :=
  match named field.name members with
  | [] => if field.mayMissByName then some none else none
  | [value] => some (some value)
  | _ :: _ :: _ => none

def fieldsInOrder : List Field → List Json → Option (List (Option Json))
  | [], [] => some []
  | [], _ :: _ => none
  | field :: fields, [] =>
      if field.mayMissAtEnd then (fieldsInOrder fields []).map (none :: ·) else none
  | _ :: fields, value :: values => (fieldsInOrder fields values).map (some value :: ·)

def fields? (fields : List Field) : Json → Option (List (Option Json))
  | .object members =>
      if members.all fun (key, _) => key.isSome then fields.mapM (fieldByName members) else none
  | .array values => fieldsInOrder fields values
  | _ => none

end FleetResponse.Json
