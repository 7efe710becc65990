import FleetResponse.Response.Incident

namespace FleetResponse.CommandLine

def program : String := "incident-response"

def version : String := program ++ " 0.1.0"

inductive Setting
  | className
  | firmwareMin
  | firmwareMax
  | since
  | till
  | reason
  | fixtures
deriving DecidableEq, Repr

namespace Setting

def all : List Setting :=
  [className, firmwareMin, firmwareMax, since, till, reason, fixtures]

def name : Setting → String
  | className => "class"
  | firmwareMin => "firmware-min"
  | firmwareMax => "firmware-max"
  | since => "since"
  | till => "until"
  | reason => "reason"
  | fixtures => "fixtures"

def ofName? (name : String) : Option Setting :=
  all.find? fun setting => setting.name = name

def purpose : Setting → String
  | className => "Device class to respond to (exact match)"
  | firmwareMin => "Lowest vulnerable firmware version, inclusive"
  | firmwareMax => "Highest vulnerable firmware version, inclusive"
  | since => "Start of the vulnerability window (RFC 3339)"
  | till => "End of the vulnerability window (RFC 3339)"
  | reason => "Reason shown to owners and stored on quarantined readings"
  | fixtures => "JSON file of devices and readings to load before running"

def placeholder (setting : Setting) : String :=
  "<" ++ (setting.name.map fun c => if c = '-' then '_' else c).toUpper ++ ">"

def isRequired (setting : Setting) : Bool :=
  setting != fixtures

def accepts (setting : Setting) (value : String) : Bool :=
  match setting with
  | since | till => (Timestamp.parse? value).isSome
  | fixtures => value ≠ ""
  | _ => true

end Setting

structure Arguments where
  incident : Incident
  fixtures : Option String
  migrate : Bool
deriving DecidableEq, Repr

structure Given where
  values : List (Setting × String)
  migrate : Bool
deriving DecidableEq, Repr

namespace Given

def nothing : Given :=
  ⟨[], false⟩

def take? (given : Given) (setting : Setting) (value : String) : Option Given :=
  if (given.values.lookup setting).isSome || !setting.accepts value then none
  else some { given with values := (setting, value) :: given.values }

def takeMigrate? (given : Given) : Option Given :=
  if given.migrate then none else some { given with migrate := true }

def arguments? (given : Given) : Option Arguments := do
  let value (setting : Setting) := given.values.lookup setting
  return {
    incident := {
      className := ← value .className
      firmwareMin := ← value .firmwareMin
      firmwareMax := ← value .firmwareMax
      windowStart := ← (value .since).bind Timestamp.parse?
      windowEnd := ← (value .till).bind Timestamp.parse?
      reason := ← value .reason }
    fixtures := value .fixtures
    migrate := given.migrate }

end Given

/-! ## Words -/

inductive Word
  | assign (setting : Setting) (value : Option String)
  | migrate
  | version
  | help
  | optionsEnd
  | plain
  | unknown
deriving DecidableEq, Repr

namespace Word

def ofFlag : String → Word
  | "migrate" => .migrate
  | "version" => .version
  | "help" => .help
  | _ => .unknown

def ofName (name : String) (value : Option String) : Word :=
  match Setting.ofName? name, value with
  | some setting, value => .assign setting value
  | none, none => ofFlag name
  | none, some _ => .unknown

/-- An option of a letter. The letters after it are not looked at, since both options end the
reading. -/
def ofLetter : Char → Word
  | 'V' => .version
  | 'h' => .help
  | _ => .unknown

def of (word : String) : Word :=
  match word.toList with
  | ['-', '-'] => .optionsEnd
  | '-' :: '-' :: cs =>
      match Text.cut? '=' cs with
      | some (name, value) => ofName (String.ofList name) (some (String.ofList value))
      | none => ofName (String.ofList cs) none
  | '-' :: c :: _ => ofLetter c
  | _ => .plain

end Word

inductive Invocation
  | run (arguments : Arguments)
  | version
  | help
deriving DecidableEq, Repr

namespace Invocation

def ofRest? : Given → List String → Option Invocation
  | given, [] => given.arguments?.map .run
  | given, word :: words =>
      match Word.of word with
      | .assign setting (some value) => do ofRest? (← given.take? setting value) words
      | .assign setting none =>
          match words with
          | [] => none
          | value :: rest =>
              if Word.of value = .plain then do ofRest? (← given.take? setting value) rest
              else none
      | .migrate => do ofRest? (← given.takeMigrate?) words
      | .version => some .version
      | .help => some .help
      | .optionsEnd => if words.isEmpty then given.arguments?.map .run else none
      | .plain => none
      | .unknown => none

def ofWords? (words : List String) : Option Invocation :=
  ofRest? .nothing words

end Invocation

/-! ## Help -/

def synopsis (settings : List Setting) : String :=
  " ".intercalate (settings.map fun setting => "--" ++ setting.name ++ " " ++ setting.placeholder)

def usage : String :=
  "Usage: " ++ program ++ " [OPTIONS] " ++ synopsis (Setting.all.filter Setting.isRequired)

def helpLine (option purpose : String) : String :=
  "  " ++ option ++ String.ofList (List.replicate (35 - option.length) ' ') ++ purpose ++ "\n"

def help : String :=
  "Suspend devices running vulnerable firmware, quarantine their readings and notify their owners"
    ++ "\n\n" ++ usage ++ "\n\nOptions:\n"
    ++ String.join (Setting.all.map fun setting =>
        helpLine ("    " ++ synopsis [setting]) setting.purpose)
    ++ helpLine "    --migrate" "Apply schema migrations before running (Postgres only)"
    ++ helpLine "-h, --help" "Print help"
    ++ helpLine "-V, --version" "Print version"

end FleetResponse.CommandLine
