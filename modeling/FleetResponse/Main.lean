import FleetResponse.Launch

open FleetResponse

namespace FleetResponse.Shell

def logLine (format : LogFormat) (event : LogEvent) : String :=
  match format with
  | .json => (Json.record [("level", .text event.level.name), ("fields", event.json)]).render
  | .pretty => event.level.name ++ " " ++ event.json.render

def readEnvironment : IO Environment := do
  let found ← Launch.variableNames.mapM fun name => return (name, ← IO.getEnv name)
  return fun name => (found.lookup name).join

def readFile? (path : String) : IO (Option String) := do
  try return some (← IO.FS.readFile path) catch _ => return none

def launch (arguments : CommandLine.Arguments) : IO UInt32 := do
  let env ← readEnvironment
  let fixtures ← match arguments.fixtures with
    | none => pure none
    | some path => readFile? path
  let surroundings : Surroundings Unit := ⟨env, fun _ => fixtures, .error "no client"⟩
  let report := Launch.execute surroundings arguments ()
  for event in report.log do
    IO.eprintln (logLine report.logFormat event)
  IO.print report.output
  if let .error e := report.outcome then
    IO.eprintln (if e.isCrash then e.message else "Error: " ++ e.message)
  return report.exitCode.toUInt32

end FleetResponse.Shell

def main (words : List String) : IO UInt32 := do
  match CommandLine.Invocation.ofWords? words with
  | none =>
      IO.eprintln CommandLine.usage
      return 2
  | some .version =>
      IO.println CommandLine.version
      return 0
  | some .help =>
      IO.print CommandLine.help
      return 0
  | some (.run arguments) => Shell.launch arguments
