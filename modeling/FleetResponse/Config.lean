import FleetResponse.Text.Blank
import FleetResponse.Text.Numeral

namespace FleetResponse

abbrev Environment := String → Option String

inductive LogFormat
  | json
  | pretty
deriving DecidableEq, Repr

namespace LogFormat

def name : LogFormat → String
  | json => "json"
  | pretty => "pretty"

def ofName? (name : String) : Option LogFormat :=
  [json, pretty].find? fun format => format.name = name.toLower

end LogFormat

structure PoolConfig where
  url : String
  maxConnections : Nat
  minConnections : Nat
  acquireTimeout : Nat
  idleTimeout : Nat
  maxLifetime : Nat
deriving DecidableEq, Repr

namespace PoolConfig

def ofUrl (url : String) : PoolConfig :=
  ⟨url, 10, 1, 5, 600, 1800⟩

/-- A number of connections, or the given one where the variable is missing or holds no number
below 2^32. -/
def connections (env : Environment) (name : String) (fallback : Nat) : Nat :=
  match (env name).map fun text => Text.unsigned 4294967296 text.toList with
  | some (.ok n) => n
  | _ => fallback

def ofEnvironment? (env : Environment) : Option PoolConfig :=
  match env "DATABASE_URL" with
  | none => none
  | some url =>
      if Text.allBlank url.toList then none
      else
        let pool := ofUrl url
        some { pool with
          maxConnections := connections env "DB_MAX_CONNECTIONS" pool.maxConnections
          minConnections := connections env "DB_MIN_CONNECTIONS" pool.minConnections }

end PoolConfig

structure Config where
  logLevel : String
  logFormat : LogFormat
  mailboxSize : Nat
  database : Option PoolConfig
  mailboxSize_pos : 0 < mailboxSize
deriving DecidableEq, Repr

inductive ConfigError
  | unknownLogFormat (text : String)
  | invalidMailboxSize (text : String) (error : Text.NumeralError)
  | zeroMailboxSize
deriving DecidableEq, Repr

namespace ConfigError

def message : ConfigError → String
  | unknownLogFormat text =>
      "unknown log format '" ++ text.toLower ++ "', expected 'json' or 'pretty'"
  | invalidMailboxSize text _ => "invalid ROOTSTOCK_MAILBOX_SIZE '" ++ text ++ "'"
  | zeroMailboxSize => "ROOTSTOCK_MAILBOX_SIZE must be at least 1"

def causes : ConfigError → List String
  | invalidMailboxSize _ error => [error.message]
  | _ => []

end ConfigError

namespace Config

def defaultMailboxSize : Nat := 64

def logFormatOf (env : Environment) : Except ConfigError LogFormat :=
  match env "ROOTSTOCK_LOG_FORMAT" with
  | none => .ok .json
  | some text =>
      match LogFormat.ofName? text with
      | some format => .ok format
      | none => .error (.unknownLogFormat text)

def mailboxSizeOf (env : Environment) : Except ConfigError Nat :=
  match env "ROOTSTOCK_MAILBOX_SIZE" with
  | none => .ok defaultMailboxSize
  | some text =>
      match Text.unsigned 18446744073709551616 text.toList with
      | .ok n => .ok n
      | .error error => .error (.invalidMailboxSize text error)

def ofEnvironment (env : Environment) : Except ConfigError Config := do
  let logFormat ← logFormatOf env
  let mailboxSize ← mailboxSizeOf env
  if h : 0 < mailboxSize then
    return {
      logLevel := (env "ROOTSTOCK_LOG_LEVEL").getD "info"
      logFormat
      mailboxSize
      database := PoolConfig.ofEnvironment? env
      mailboxSize_pos := h }
  else throw .zeroMailboxSize

end Config

end FleetResponse
