import FleetResponse.CommandLine
import FleetResponse.Database.Schema
import FleetResponse.Json.Printer
import FleetResponse.Launch.Stores
import FleetResponse.Log.Worker

namespace FleetResponse

open CommandLine (Arguments)
open Database (Server Exchange Backend)

structure Surroundings (σ : Type) where
  env : Environment
  file : String → Option String
  server : Except String (Server σ)

structure Report (σ : Type) where
  outcome : Except LaunchError Summary
  log : List LogEvent
  logFormat : LogFormat
  server : σ

namespace Report

variable {σ : Type}

def output (report : Report σ) : String :=
  match report.outcome with
  | .ok summary => summary.json.renderIndented ++ "\n"
  | .error _ => ""

def exitCode (report : Report σ) : Nat :=
  match report.outcome with
  | .ok _ => 0
  | .error e => if e.isCrash then 101 else 1

def error? (report : Report σ) : Option LaunchError :=
  match report.outcome with
  | .ok _ => none
  | .error e => if e.isCrash then none else some e

end Report

structure Journal (σ : Type) where
  log : List LogEvent
  server : σ

abbrev Launch (σ α : Type) := ExceptT LaunchError (StateM (Journal σ)) α

namespace Launch

variable {σ τ α : Type}

def noteAll (events : List LogEvent) : Launch σ Unit :=
  modify fun journal => { journal with log := journal.log ++ events }

def note (event : LogEvent) : Launch σ Unit :=
  noteAll [event]

def orThrow : Except LaunchError α → Launch σ α
  | .ok a => pure a
  | .error e => throw e

def spawn (identity : String) (mailboxSize : Nat) : Launch σ Unit := do
  if mailboxLimit < mailboxSize then throw .oversizedMailbox
  note (WorkerLog.spawned identity mailboxSize)

/-! ## Preparations -/

def readFixtures (surroundings : Surroundings σ) : Option String → Launch σ Fixtures
  | none => pure .empty
  | some path =>
      match surroundings.file path with
      | none => throw (.unreadableFixtures path)
      | some document =>
          match Fixtures.parse? document with
          | none => throw (.malformedFixtures path)
          | some fixtures => pure fixtures

def perform (server : Server σ) (exchange : Exchange (Except DatabaseError α)) : Launch σ α := do
  let journal ← get
  let (answer, s) := exchange.run server journal.server
  set { journal with server := s }
  orThrow (answer.mapError .database)

/-- Connects to the database. A pool without connections never gets one. -/
def connect (surroundings : Surroundings σ) (pool : PoolConfig) : Launch σ (Server σ) := do
  note (.info "Connecting to database" [("max_connections", .nat pool.maxConnections),
    ("min_connections", .nat pool.minConnections)])
  match surroundings.server with
  | .error source => throw (.database (.connect source))
  | .ok server =>
      if pool.maxConnections = 0 then
        throw (.database (.connect "pool timed out while waiting for an open connection"))
      note (.info "Database connection pool established" [])
      return server

def migrate (server : Server σ) : Launch σ Unit := do
  note (.info "Running database migrations" [])
  note (.info "Loaded migrations" [])
  perform server Database.migrate
  note (.info "Database migrations complete" [])

/-! ## Stores and response -/

def respond (stores : Stores τ) (fixtures : Fixtures) (incident : Incident) (s : τ) :
    Except LaunchError (Except ResponseError Summary) × τ :=
  match stores.load fixtures s with
  | (.error e, s) => (.error e, s)
  | (.ok (), s) =>
      let (outcome, s) := incident.respond.run stores.capabilities s
      (.ok outcome, s)

def notifier : String := WorkerLog.identity "notifier" 0

def deviceDirectory : String := WorkerLog.identity "device_directory" 1

def readingStore : String := WorkerLog.identity "reading_store" 2

def inMemory (mailboxSize : Nat) (fixtures : Fixtures) (incident : Incident) :
    Launch σ (Except ResponseError Summary) := do
  spawn deviceDirectory mailboxSize
  spawn readingStore mailboxSize
  let (result, fleet) := respond Fleet.stores fixtures incident .empty
  noteAll fleet.log
  let outcome ← orThrow result
  noteAll (WorkerLog.stopped notifier fleet.outbox.handled)
  noteAll (WorkerLog.stopped deviceDirectory fleet.directory.handled)
  noteAll (WorkerLog.stopped readingStore fleet.readings.handled)
  return outcome

def overDatabase (surroundings : Surroundings σ) (pool : PoolConfig) (fixtures : Fixtures)
    (arguments : Arguments) : Launch σ (Except ResponseError Summary) := do
  let server ← connect surroundings pool
  perform server Database.checkHealth
  if arguments.migrate then migrate server
  let journal ← get
  let (result, backend) := respond (Backend.stores server) fixtures arguments.incident
    (.start journal.server)
  set { journal with server := backend.server }
  noteAll backend.log
  let outcome ← orThrow result
  noteAll (WorkerLog.stopped notifier backend.outbox.handled)
  return outcome

def conclude : Except ResponseError Summary → Launch σ Summary
  | .ok summary => pure summary
  | .error e => do
      note ⟨.error, "Incident response failed",
        [("step", .text e.step), ("error", .text e.message)]⟩
      throw (.response e)

def backendName (config : Config) : String :=
  if config.database.isSome then "postgres" else "memory"

def steps (surroundings : Surroundings σ) (config : Config) (arguments : Arguments) :
    Launch σ Summary := do
  note (.info "Starting incident response" [("mailbox_size", .nat config.mailboxSize),
    ("backend", .text (backendName config))])
  let fixtures ← readFixtures surroundings arguments.fixtures
  spawn notifier config.mailboxSize
  let outcome ← match config.database with
    | none => inMemory config.mailboxSize fixtures arguments.incident
    | some pool => overDatabase surroundings pool fixtures arguments
  conclude outcome

def logFilter (env : Environment) (config : Config) : LogFilter :=
  .ofName ((env "RUST_LOG").getD config.logLevel)

def variableNames : List String :=
  ["RUST_LOG", "ROOTSTOCK_LOG_LEVEL", "ROOTSTOCK_LOG_FORMAT", "ROOTSTOCK_MAILBOX_SIZE",
   "DATABASE_URL", "DB_MAX_CONNECTIONS", "DB_MIN_CONNECTIONS"]

def execute (surroundings : Surroundings σ) (arguments : Arguments) (server : σ) : Report σ :=
  match Config.ofEnvironment surroundings.env with
  | .error e => ⟨.error (.config e), [], .json, server⟩
  | .ok config =>
      let (outcome, journal) := (steps surroundings config arguments).run.run ⟨[], server⟩
      ⟨outcome, journal.log.filter (logFilter surroundings.env config).admits,
        config.logFormat, journal.server⟩

end Launch

end FleetResponse
