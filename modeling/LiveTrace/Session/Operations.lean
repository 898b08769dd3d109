import LiveTrace.Session.Basic
/-!
# LiveTrace.Session.Operations

What an operator can do with a session: ask the daemon for its APIs and levels, set a level, select
trace modes, ask for the client session, and close it. Each operation gives its result and the
session afterwards, which goes on after a failure.
-/

namespace LiveTrace.Session

universe u

variable {τ : Type u} [Channel τ]

/-! ## Discovery -/

/-- Arguments that ask for APIs and levels. -/
def discoveryArgs : Json := .object [("apis", .bool true), ("verbosity", .bool true)]

/-- Arguments that ask for levels. -/
def levelsArgs : Json := .object [("verbosity", .bool true)]

/-- Call the verb that tells about the daemon. -/
def querySnapshot (s : Session τ) (args : Json) : Except MonitorError Snapshot × Session τ :=
  let (reply, s) := s.call "get" args
  (reply.bind (s.readBody "get" Snapshot.ofJson), s)

/-- What the log keeps of a failure: the reply of a daemon that refused, or else the message. -/
def failureBody : MonitorError → Json
  | .call (.rejected reply) => reply.toJson.sorted
  | e => .string e.message

/-- Apply reported levels: how many. -/
def applyLevels (s : Session τ) : Option (List (String × Json)) → Nat × Session τ
  | none => (0, s)
  | some levels =>
    let (applied, verbosity) := s.verbosity.applyReported s.options.monitorApi levels
    (applied, { s with verbosity })

/-- Merge descriptions of APIs: what was added. -/
def mergeApis (s : Session τ) : Option (List (String × ApiDocument)) → MergeReport × Session τ
  | none => (⟨[], []⟩, s)
  | some apis =>
    let (report, registry) := s.registry.merge s.options.monitorApi apis
    (report, { s with registry })

/-- Ask the daemon for its APIs and levels and take them over. A failure is logged. -/
def discover (s : Session τ) : Except MonitorError MergeReport × Session τ :=
  match s.querySnapshot discoveryArgs with
  | (.error e, s) => (.error e, s.log (LogFeed.errorEntry "can't get apis" (failureBody e)))
  | (.ok snapshot, s) =>
    let (report, s) := s.mergeApis snapshot.apis
    (.ok report, (s.applyLevels snapshot.verbosity).2)

/-- A session that has asked the daemon for its APIs and levels, with whatever success. -/
def opened (channel : τ) (config : SessionConfig) : Session τ :=
  (new channel config).discover.2

/-! ## Verbosity -/

/-- Ask the daemon for its levels and take them over: how many. -/
def refreshVerbosity (s : Session τ) : Except MonitorError Nat × Session τ :=
  match s.querySnapshot levelsArgs with
  | (.error e, s) => (.error e, s)
  | (.ok snapshot, s) =>
    let (applied, s) := s.applyLevels snapshot.verbosity
    (.ok applied, s)

/-- Set the level of a target, then ask for every level, whether or not that succeeded. Only what
the daemon reports is displayed. Nothing is sent while a guard is held. -/
def setVerbosity (s : Session τ) (target : VerbosityTarget) (level : VerbosityLevel) :
    Except MonitorError Unit × Session τ :=
  match s.verbosity.select target level with
  | (none, verbosity) => (.ok (), { s with verbosity })
  | (some command, verbosity) =>
    let (written, s) := { s with verbosity }.call "set" command.args
    let (refreshed, s) := s.refreshVerbosity
    let s := { s with verbosity := (s.verbosity.settle target).2 }
    match written with
    | .error e => (.error e, s)
    | .ok _ => (refreshed.map fun _ => (), s)

/-! ## Traces -/

/-- Send a command, and note that it was acknowledged if it was. -/
def sendCommand (s : Session τ) (command : TraceCommand) :
    Except MonitorError Unit × Session τ :=
  match s.call "trace" command.args with
  | (.error e, s) => (.error e, s)
  | (.ok _, s) => (.ok (), { s with traces := s.traces.confirm command })

/-- Send commands one after the other, each whatever became of those before it: the first
failure. -/
def sendCommands (s : Session τ) : List TraceCommand → Except MonitorError Unit × Session τ
  | [] => (.ok (), s)
  | command :: rest =>
    let (first, s) := s.sendCommand command
    let (others, s) := s.sendCommands rest
    match first with
    | .error e => (.error e, s)
    | .ok () => (others, s)

/-- Select a trace mode: an active mode is dropped before another is added. The selection stays on
display when a command fails, so that selecting it again does nothing. -/
def selectTrace (s : Session τ) (tag : TraceTag) (mode : TraceMode) :
    Except MonitorError Unit × Session τ :=
  let (commands, traces) := s.traces.select tag mode
  { s with traces }.sendCommands commands

/-- Retract every subscription by one command, and display every tag as off. -/
def untraceAll (s : Session τ) : Except MonitorError Unit × Session τ :=
  let (result, s) := s.call "trace" TraceCommand.dropAll.args
  let s := { s with traces := s.traces.resetAll }
  match result with
  | .error e => (.error e, s)
  | .ok _ => (.ok (), { s with traces := s.traces.confirm .dropAll })

/-! ## The session itself -/

/-- Ask for the client session, renewing its token if so wished. -/
def sessionInfo (s : Session τ) (refreshToken : Bool) :
    Except MonitorError SessionInfo × Session τ :=
  let (reply, s) := s.call "session" (.object [("refresh-token", .bool refreshToken)])
  (reply.bind (s.readBody "session" SessionInfo.ofJson), s)

/-- Retract every subscription unless the channel is closed, then close the channel. -/
def close (s : Session τ) : Except MonitorError Unit × Session τ :=
  let (untraced, s) := if s.state = .closed then (.ok (), s) else s.untraceAll
  (untraced, { s.mapChannel Channel.close with state := .closed })

/-- Close the channel without retracting anything. -/
def abandon (s : Session τ) : Session τ := s.mapChannel Channel.close

end LiveTrace.Session
