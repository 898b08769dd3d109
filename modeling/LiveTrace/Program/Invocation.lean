import LiveTrace.CommandLine
import LiveTrace.Trace.Tag
import LiveTrace.Verbosity.Target
/-!
# LiveTrace.Program.Invocation

What the program is asked to do on its command line: settings that go before those of the
configuration, and one action.
-/

namespace LiveTrace

/-- What the program does with a daemon. -/
inductive Action
  /-- Print the APIs. -/
  | apis
  /-- Print the levels. -/
  | levels
  /-- Set a level. -/
  | setLevel (target : VerbosityTarget) (level : VerbosityLevel)
  /-- Print trace events. -/
  | trace (selections : List TraceSelection)
  /-- Print what the daemon says of the client session. -/
  | session (refreshToken : Bool)
  deriving Inhabited

/-- What the program is asked to do. -/
structure Invocation where
  /-- Host and port. -/
  host : Option String
  /-- Access token. -/
  token : Option String
  /-- Path of the configuration. -/
  config : Option String
  /-- Whether to show trace events that the monitoring API caused. -/
  showMonitorEvents : Bool
  /-- Whether to record the log and print it at the end. -/
  log : Bool
  action : Action
  deriving Inhabited

namespace Invocation

open CommandLine

/-! ## What the command line may say -/

/-- Print the levels. -/
def getCommand : Command := .mk "get" [.help] []

/-- Set a level. -/
def setCommand : Command :=
  .mk "set" [.help, .value "target" VerbosityTarget.parse, .value "level" VerbosityLevel.parse] []

/-- The commands on levels. -/
def verbosityCommand : Command := .mk "verbosity" [.help] [getCommand, setCommand, .help]

/-- Print the APIs. -/
def apisCommand : Command := .mk "apis" [.help] []

/-- Print trace events. -/
def traceCommand : Command := .mk "trace" [.help, .values "selections" TraceSelection.parse] []

/-- Print what the daemon says of the client session. -/
def sessionCommand : Command := .mk "session" [.help, .flag "refresh-token"] []

/-- Name of the program. -/
def programName : String := "hookscope"

/-- Every command. -/
def commands : Command :=
  .mk programName
    [.help, .version, .option "host", .option "token", .nonemptyOption "config",
      .flag "show-monitor-events", .flag "log"]
    [apisCommand, verbosityCommand, traceCommand, sessionCommand, .help]

/-! ## Reading -/

/-- The values of an argument, in their own form. -/
def readAll {ε α : Type} (read : String → Except ε α) (values : List String) :
    Except Stop (List α) :=
  values.mapM fun s => (read s).mapError fun _ => .malformedValue

/-- The value of an argument, in its own form. -/
def readOne {ε α : Type} (read : String → Except ε α) (r : Reading) (name : String) :
    Except Stop α :=
  match r.value? name with
  | some s => (read s).mapError fun _ => .malformedValue
  | none => .error .missingArgument

/-- The action that a command line asks for. -/
def actionOf (r : Reading) : Except Stop Action :=
  match r.path with
  | ["apis"] => .ok .apis
  | ["verbosity", "get"] => .ok .levels
  | ["verbosity", "set"] => do
    let target ← readOne VerbosityTarget.parse r "target"
    let level ← readOne VerbosityLevel.parse r "level"
    .ok (.setLevel target level)
  | ["trace"] => (readAll TraceSelection.parse (r.values "selections")).map .trace
  | ["session"] => .ok (.session (r.has "refresh-token"))
  | _ => .error .missingSubcommand

/-- Read the words after the name of the program. Where they give no host or token, those of the
environment are taken. -/
def parse (host token : Option String) (words : List String) : Except Stop Invocation := do
  let defaults := (host.map fun s => ("host", s)).toList ++
    (token.map fun s => ("token", s)).toList
  let r ← CommandLine.read commands defaults words
  let action ← actionOf r
  .ok {
    host := r.value? "host"
    token := r.value? "token"
    config := r.value? "config"
    showMonitorEvents := r.has "show-monitor-events"
    log := r.has "log"
    action }

end Invocation

end LiveTrace
