import FleetResponse.Json.Value

namespace FleetResponse

inductive LogLevel
  | error
  | warn
  | info
  | debug
  | trace
deriving DecidableEq, Repr

namespace LogLevel

def name : LogLevel → String
  | error => "ERROR"
  | warn => "WARN"
  | info => "INFO"
  | debug => "DEBUG"
  | trace => "TRACE"

def rank : LogLevel → Nat
  | error => 1
  | warn => 2
  | info => 3
  | debug => 4
  | trace => 5

end LogLevel

structure LogEvent where
  level : LogLevel
  message : String
  fields : List (String × Json)

namespace LogEvent

def info (message : String) (fields : List (String × Json)) : LogEvent :=
  ⟨.info, message, fields⟩

def json (event : LogEvent) : Json :=
  .record (("message", .text event.message) :: event.fields)

end LogEvent

structure LogFilter where
  rank : Nat
deriving DecidableEq, Repr

namespace LogFilter

/-- The filter of a level's name or of `off`, in any case. A text that names nothing lets errors
pass. -/
def ofName (name : String) : LogFilter :=
  if name.toLower = "off" then ⟨0⟩
  else match [LogLevel.error, .warn, .info, .debug, .trace].find? fun level =>
      level.name = name.toUpper with
    | some level => ⟨level.rank⟩
    | none => ⟨LogLevel.error.rank⟩

def admits (filter : LogFilter) (event : LogEvent) : Bool :=
  event.level.rank ≤ filter.rank

end LogFilter

end FleetResponse
