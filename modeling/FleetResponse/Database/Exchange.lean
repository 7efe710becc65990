import FleetResponse.Database.Error
import FleetResponse.Database.Statement
import FleetResponse.Time.Micros

namespace FleetResponse.Database

inductive Value
  | null
  | text (text : String)
  | texts (texts : List String)
  | int4 (n : Int32)
  | int8 (n : Int64)
  | double (bits : UInt64)
  /-- Microseconds since the year 2000. -/
  | timestamp (micros : Int)
deriving DecidableEq, Repr

namespace Value

def ofTimestamp (t : Timestamp) : Value :=
  .timestamp t.micros

def ofOptionalText (text : Option String) : Value :=
  text.elim .null .text

end Value

abbrev Row := List (String × Value)

inductive Reply
  | failed (source : String)
  | affected (count : Nat)
  | rows (found : List Row)
deriving DecidableEq, Repr

structure Query where
  statement : Statement
  params : List Value
deriving DecidableEq, Repr

namespace Row

-- Why a value is none of its column's type is not repeated.
def unreadable (row : Row) (column : String) : DatabaseError :=
  .unreadable column (match row.lookup column with
    | none => "no column found for name: " ++ column
    | some _ => "error occurred while decoding column \"" ++ column ++ "\"")

def text (row : Row) (column : String) : Except DatabaseError String :=
  match row.lookup column with
  | some (.text text) => .ok text
  | _ => .error (row.unreadable column)

def int4 (row : Row) (column : String) : Except DatabaseError Int32 :=
  match row.lookup column with
  | some (.int4 n) => .ok n
  | _ => .error (row.unreadable column)

def int8 (row : Row) (column : String) : Except DatabaseError Int64 :=
  match row.lookup column with
  | some (.int8 n) => .ok n
  | _ => .error (row.unreadable column)

def timestamp (row : Row) (column : String) : Except DatabaseError Timestamp :=
  match row.lookup column with
  | some (.timestamp micros) =>
      match Timestamp.ofMicros? micros with
      | some t => .ok t
      | none => .error (row.unreadable column)
  | _ => .error (row.unreadable column)

end Row

namespace Reply

def count : Reply → Except DatabaseError Nat
  | failed source => .error (.query source)
  | affected n => .ok n
  | rows found => .ok found.length

def result : Reply → Except DatabaseError (List Row)
  | failed source => .error (.query source)
  | affected _ => .ok []
  | rows found => .ok found

end Reply

inductive Exchange (α : Type) : Type
  | known (answer : α)
  | ask (query : Query) (read : Reply → α)

structure Server (σ : Type) where
  reply : Query → σ → Reply × σ

namespace Exchange

variable {α σ : Type}

def run (server : Server σ) : Exchange α → σ → α × σ
  | known answer, s => (answer, s)
  | ask query read, s =>
      let (reply, s) := server.reply query s
      (read reply, s)

end Exchange

/-! ## Scripted servers -/

structure Session where
  replies : List Reply
  sent : List Query
deriving DecidableEq, Repr

namespace Session

def start (replies : List Reply) : Session :=
  ⟨replies, []⟩

def server : Server Session where
  reply query session :=
    (session.replies.headD (.affected 0), ⟨session.replies.tail, session.sent ++ [query]⟩)

end Session

end FleetResponse.Database
