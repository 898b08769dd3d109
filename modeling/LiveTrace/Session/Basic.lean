import LiveTrace.Log.Caller
import LiveTrace.Registry.Merge
import LiveTrace.Trace.Event
import LiveTrace.Trace.Subscriptions
import LiveTrace.Verbosity.State
/-!
# LiveTrace.Session.Basic

Sessions. A session holds a channel to a daemon and all that was learned through it: the registry
of APIs, verbosity levels, trace subscriptions, the log and the most recent trace events. This
module has the type, and the one way in which a session calls the daemon (`Session.call`); the
operations are in `LiveTrace.Session.Operations` and `LiveTrace.Session.Events`.
-/

namespace LiveTrace

universe u

/-- Settings of a session. -/
structure SessionConfig where
  /-- Name of the monitoring API at the daemon. -/
  monitorApi : String
  /-- Whether to keep trace events that the monitoring API caused. -/
  showMonitorEvents : Bool
  /-- Whether the log records entries. -/
  logEnabled : Bool
  /-- How many entries the log keeps. -/
  maxLogEntries : Nat
  /-- How many trace events are kept. -/
  maxTraceEvents : Nat
  deriving DecidableEq, Inhabited

namespace SessionConfig

/-- Trace events kept unless said otherwise. -/
def defaultMaxTraceEvents : Nat := 500

/-- The settings in use unless said otherwise. -/
def default : SessionConfig :=
  ⟨defaultMonitorApi, false, false, LogFeed.defaultCapacity, defaultMaxTraceEvents⟩

end SessionConfig

/-- State of the connection to a daemon. -/
inductive ConnectionState
  /-- There was no connection so far. -/
  | disconnected
  /-- Connected to the daemon at a url. -/
  | connected (url : String)
  /-- The connection was closed by either side, or could not be made. -/
  | closed
  deriving DecidableEq, Inhabited

/-- The state in a line of text. -/
def ConnectionState.text : ConnectionState → String
  | disconnected => "Disconnected"
  | connected url => "Connected " ++ url
  | closed => "Connection Closed"

/-- The client session as the daemon knows it. -/
structure SessionInfo where
  /-- Identifier of the session. -/
  uuid : String
  /-- Token in use. -/
  token : String
  /-- Seconds that a session lasts. -/
  timeout : Int
  /-- Seconds that are left of it. -/
  remain : Int
  deriving DecidableEq, Inhabited

namespace SessionInfo

/-- The fields of a client session. -/
def rules : List FieldRule :=
  [.requiredString "uuid", .requiredString "token", .requiredInt "timeout", .requiredInt "remain"]

/-- The client session with the given fields. -/
def ofFields (fields : List (String × Json)) : SessionInfo where
  uuid := Record.string fields "uuid" ""
  token := Record.string fields "token" ""
  timeout := Record.int fields "timeout"
  remain := Record.int fields "remain"

/-- Read a client session. -/
def ofJson (v : Json) : Except Mismatch SessionInfo :=
  (Record.fields? "SessionInfo" rules v).map ofFields

/-- The client session as an object. -/
def toJson (i : SessionInfo) : Json :=
  .object [("uuid", .string i.uuid), ("token", .string i.token), ("timeout", .int i.timeout),
    ("remain", .int i.remain)]

end SessionInfo

/-- A session with a daemon. -/
structure Session (τ : Type u) where
  /-- The channel to the daemon, and the log. -/
  caller : Caller τ
  registry : Registry
  verbosity : VerbosityState
  traces : TraceSubscriptions
  /-- The most recent trace events. -/
  kept : Recent TraceEvent
  options : ClassifyOptions
  state : ConnectionState

namespace Session

variable {τ : Type u}

/-- A session that has not talked to the daemon. -/
def new [Channel τ] (channel : τ) (config : SessionConfig) : Session τ where
  caller := ⟨channel, .new config.logEnabled config.maxLogEntries⟩
  registry := .empty
  verbosity := .empty
  traces := .empty
  kept := .new config.maxTraceEvents
  options := ⟨config.monitorApi, config.showMonitorEvents⟩
  state := .connected (Channel.url channel)

/-- The channel to the daemon. -/
def channel (s : Session τ) : τ := s.caller.channel

/-- The log. -/
def feed (s : Session τ) : LogFeed := s.caller.feed

/-- Url of the daemon. -/
def url [Channel τ] (s : Session τ) : String := Channel.url s.channel

/-- Apply a function to the channel. -/
def mapChannel (f : τ → τ) (s : Session τ) : Session τ :=
  { s with caller := { s.caller with channel := f s.caller.channel } }

/-- Apply a function to the log. -/
def mapFeed (f : LogFeed → LogFeed) (s : Session τ) : Session τ :=
  { s with caller := { s.caller with feed := f s.caller.feed } }

/-- Record an entry in the log. -/
def log (s : Session τ) (e : LogEntry) : Session τ := s.mapFeed fun f => f.push e

/-- A verb of the monitoring API. -/
def apiVerb (s : Session τ) (verb : String) : String := s.options.monitorApi ++ "/" ++ verb

variable [Channel τ]

/-- Note that the channel is closed; it is reported once. -/
def markClosed (s : Session τ) : Session τ :=
  if s.state = .closed then s
  else { s with state := .closed }.log ⟨.error, "connection closed", s.url⟩

/-- Call a verb of the monitoring API. -/
def call (s : Session τ) (verb : String) (args : Json) :
    Except MonitorError Reply × Session τ :=
  let (outcome, caller) := s.caller.call (s.apiVerb verb) args
  let s := { s with caller }
  match outcome with
  | .ok reply => (.ok reply, s)
  | .error failure => (.error (.call failure), if failure.isClosed then s.markClosed else s)

/-- Read the body of a reply to a verb of the monitoring API. -/
def readBody {α : Type} (s : Session τ) (verb : String) (read : Json → Except Mismatch α)
    (reply : Reply) : Except MonitorError α :=
  (read reply.body).mapError fun e => .response (s.apiVerb verb) e.message

end Session

end LiveTrace
