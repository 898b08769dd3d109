import LiveTrace.Config.File
import LiveTrace.Dotenv
import LiveTrace.Monitor
import LiveTrace.Program.Commands
import LiveTrace.Program.Invocation
import LiveTrace.Text.Visible
/-!
# LiveTrace.Program.Run

The program from its start to its end (`Program.run`): the environment and the command line are
read, then the configuration; a session is opened, the action is performed, and the session is
closed. What the program finds around it is a `Setting`, and what it leaves behind a `Run`.
-/

namespace LiveTrace

universe u v

namespace Program

/-- What the program finds around it. -/
structure Setting where
  environment : Environment
  /-- Text of the file that adds variables to the environment, if there is one. -/
  dotenv : Option String
  /-- Directory of the user, where the environment names none. -/
  home : String
  /-- What stands at a path. -/
  file : String → FileContent
  /-- Whether the output goes to a terminal. -/
  terminal : Bool
  /-- The time of day that log entries are printed with. -/
  time : String

/-- How the program ends. -/
inductive Ending
  /-- The variables cannot be added to the environment. -/
  | broken
  /-- The action was performed. -/
  | done
  /-- The command line does not ask for an action. -/
  | stopped (reason : CommandLine.Stop)
  /-- Something failed. -/
  | failed (report : Report)
  /-- The program waits for events. -/
  | waiting
  deriving Inhabited

/-- Exit code; none while the program waits. -/
def Ending.exitCode? : Ending → Option Nat
  | broken => some 101
  | done => some 0
  | stopped reason => some reason.exitCode
  | failed _ => some 1
  | waiting => none

/-- What the program leaves behind. -/
structure Run (γ : Type u) (τ : Type v) where
  ending : Ending
  /-- What was printed. -/
  output : String
  /-- Path and text of the configuration to create, if there was none. -/
  created : Option (String × String)
  /-- The monitor, if a connection was attempted. -/
  monitor : Option (Monitor γ τ)

/-! ## Environment and configuration -/

/-- Variable with the host. -/
def hostVariable : String := "HOOKSCOPE_HOST"

/-- Variable with the access token. -/
def tokenVariable : String := "HOOKSCOPE_TOKEN"

/-- Variable with the directory of the user. -/
def homeVariable : String := "HOME"

/-- The environment together with the file that adds to it, if it can hold them. -/
def Setting.variables? (s : Setting) : Option Environment :=
  match s.dotenv with
  | some text => Dotenv.load? s.environment text
  | none => some s.environment

/-- The command line together with the variables. -/
def invocation (env : Environment) (words : List String) :
    Except CommandLine.Stop Invocation :=
  Invocation.parse (env.get? hostVariable) (env.get? tokenVariable) words

/-- Name of the configuration in the directory of the user. -/
def configName : String := ".hookscope.toml"

/-- The directory of the user. An empty variable names none. -/
def Setting.userDirectory (s : Setting) (env : Environment) : String :=
  ((env.get? homeVariable).filter (· ≠ "")).getD s.home

/-- Path of the configuration. -/
def configPath (s : Setting) (env : Environment) (i : Invocation) : String :=
  i.config.getD (s.userDirectory env ++ "/" ++ configName)

/-- What is reported of a configuration that cannot be used; the path is told if it is the file
that fails. -/
def configReport (path : String) : ConfigError → Report
  | .malformed => ⟨ConfigError.malformed.message, []⟩
  | e => ⟨e.message ++ ": " ++ Text.quote path, []⟩

/-- The configuration with the settings of the command line in front. -/
def configured (c : Config) (i : Invocation) : Config :=
  { c with
    connection := ⟨i.host.getD c.connection.host, i.token <|> c.connection.token⟩
    monitor := { c.monitor with
      showMonitorEvents := c.monitor.showMonitorEvents || i.showMonitorEvents }
    log := { c.log with enabled := c.log.enabled || i.log } }

/-- Where a configuration connects to. -/
def target (c : Config) : ConnectTarget := .new c.connection.host c.connection.token

/-! ## Actions -/

variable {γ : Type u} {τ : Type v} [Channel τ]

/-- How the program ends after a command without a value. -/
def endingOf : Except Report Unit → Ending
  | .ok () => .done
  | .error report => .failed report

/-- How the program ends after printing events. -/
def endingOfTrace : Except Report Commands.StreamEnd → Ending
  | .ok .stopped => .done
  | .ok .waiting => .waiting
  | .error report => .failed report

/-- Perform an action: what is printed, how the program ends, and the session afterwards. -/
def perform (console : Console) (depths : RenderDepths) (s : Session τ) :
    Action → String × Ending × Session τ
  | .apis => plain (Commands.showApis s console)
  | .levels => plain (Commands.showVerbosity s console)
  | .setLevel target level => plain (Commands.setVerbosity s console target level)
  | .session refreshToken => plain (Commands.showSession s console refreshToken)
  | .trace selections =>
    let o := Commands.trace s console depths selections
    (o.output, endingOfTrace o.result, o.session)
where
  /-- What comes of a command without a value. -/
  plain (o : Outcome τ Unit) : String × Ending × Session τ :=
    (o.output, endingOf o.result, o.session)

/-- The log as it is printed. -/
def logText (console : Console) (time : String) (s : Session τ) : String :=
  String.join (s.feed.entries.map fun e => console.logEntry e time)

/-- Perform an action on the session of a monitor, print the log if that is asked for, and close
the session, with whatever success. A program that waits keeps it open. -/
def act (setting : Setting) (i : Invocation) (c : Config) (m : Monitor γ τ) (s : Session τ) :
    String × Ending × Monitor γ τ :=
  let console := Console.new c.style setting.terminal c.monitor.showPermissions
  let (output, ending, s) := perform console c.depths s i.action
  let m := { m with session := some s }
  match ending with
  | .waiting => (output, ending, m)
  | _ =>
    let log := if i.log then logText console setting.time s else ""
    (output ++ log, ending, m.disconnect.2)

/-! ## The program -/

/-- What is reported when no session can be opened. -/
def connectReport (t : ConnectTarget) (e : MonitorError) : Report :=
  ⟨"Failed to connect to " ++ t.host, [e.message]⟩

/-- Open a session and perform the action. -/
def runConfigured [Connector γ τ] (setting : Setting) (connector : γ) (i : Invocation)
    (c : Config) (created : Option (String × String)) : Run γ τ :=
  match (Monitor.new connector c.session).connect (target c) with
  | (.error e, m) => ⟨.failed (connectReport (target c) e), "", created, some m⟩
  | (.ok (), m) =>
    match m.session with
    | none => ⟨.failed (connectReport (target c) .notConnected), "", created, some m⟩
    | some s =>
      let (output, ending, m) := act setting i c m s
      ⟨ending, output, created, some m⟩

/-- The program and its version. -/
def versionText : String := Invocation.programName ++ " 0.0.2\n"

/-- What is printed when the command line does not ask for an action. -/
def stopText : CommandLine.Stop → String
  | .version => versionText
  | _ => ""

/-- Run the program with its variables and the words of its command line. -/
def runWith [Connector γ τ] (setting : Setting) (connector : γ) (env : Environment)
    (words : List String) : Run γ τ :=
  match invocation env words with
  | .error reason => ⟨.stopped reason, stopText reason, none, none⟩
  | .ok i =>
    let path := configPath setting env i
    match Config.load (setting.file path) with
    | .error e => ⟨.failed (configReport path e), "", none, none⟩
    | .ok loaded =>
      runConfigured setting connector i (configured loaded.config i)
        (loaded.created.map fun text => (path, text))

/-- Run the program with the words of its command line. -/
def run [Connector γ τ] (setting : Setting) (connector : γ) (words : List String) : Run γ τ :=
  match setting.variables? with
  | none => ⟨.broken, "", none, none⟩
  | some env => runWith setting connector env words

end Program

end LiveTrace
