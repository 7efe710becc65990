import FleetResponse.Ident.Base32
import FleetResponse.Text.Cut

namespace FleetResponse

inductive IdentKind
  | device
  | reading
  | scitizen
deriving DecidableEq, Repr

namespace IdentKind

def label : IdentKind → String
  | device => "dev"
  | reading => "rdg"
  | scitizen => "sci"

end IdentKind

structure Ident (kind : IdentKind) where
  value : BitVec 128
deriving DecidableEq, Repr

abbrev DeviceId := Ident .device
abbrev ReadingId := Ident .reading
abbrev ScitizenId := Ident .scitizen

inductive IdentError
  | empty
  | missingSeparator
  | wrongLabel (expected actual : String)
  | malformed (fault : Base32.Fault)
deriving DecidableEq, Repr

namespace IdentError

def message : IdentError → String
  | empty => "ID cannot be empty"
  | missingSeparator => "ID missing underscore separator"
  | wrongLabel expected actual =>
      "invalid ID prefix: expected '" ++ expected ++ "', got '" ++ actual ++ "'"
  | malformed fault => "invalid ULID: " ++ fault.message

def isWrongLabel : IdentError → Bool
  | wrongLabel _ _ => true
  | _ => false

end IdentError

namespace Ident

variable {kind : IdentKind}

/-- The number of base 32 digits of an identifier: five bits each, and three in the first. -/
def width : Nat := 26

def ofNat (kind : IdentKind) (n : Nat) : Ident kind :=
  ⟨BitVec.ofNat 128 n⟩

def toNat (id : Ident kind) : Nat :=
  id.value.toNat

def parse (kind : IdentKind) (text : String) : Except IdentError (Ident kind) :=
  if text.toList = [] then .error .empty
  else match Text.cut? '_' text.toList with
    | none => .error .missingSeparator
    | some (label, code) =>
        if String.ofList label = kind.label then
          match Base32.read width code with
          | .error fault => .error (.malformed fault)
          | .ok n => .ok (ofNat kind n)
        else .error (.wrongLabel kind.label (String.ofList label))

def text (id : Ident kind) : String :=
  kind.label ++ "_" ++ String.ofList (Base32.render width id.toNat)

instance : Ord (Ident kind) where
  compare a b := compare a.toNat b.toNat

def le (a b : Ident kind) : Bool :=
  (compare a b).isLE

def sorted (ids : List (Ident kind)) : List (Ident kind) :=
  (ids.mergeSort le).eraseReps

end Ident

end FleetResponse
