import LiveTrace.Json.Record
import LiveTrace.Wire.Reply
/-!
# LiveTrace.Trace.Event

Trace events, and the classification of what the daemon pushes. A trace event carries a descriptor
under one of the keys `request`, `service`, `daemon` and `event`; of several the first in this
order counts (`TraceKind.all`). Events that the monitoring API caused itself are suppressed unless
they are asked for.
-/

namespace LiveTrace

/-- The kinds of descriptors. -/
inductive TraceKind
  | request
  | service
  | daemon
  | event
  deriving DecidableEq, Inhabited

namespace TraceKind

/-- Every kind; where several are present the first counts. -/
def all : List TraceKind := [request, service, daemon, event]

/-- Key of the descriptor in a trace event. -/
def key : TraceKind → String
  | request => "request"
  | service => "service"
  | daemon => "daemon"
  | event => "event"

/-- Fields of the descriptor. -/
def rules : TraceKind → List FieldRule
  | request => [.requiredString "api", .requiredString "verb", .requiredInt "index",
      .requiredString "action"]
  | service | daemon => [.requiredString "api", .requiredString "action"]
  | event => [.requiredString "name", .requiredString "action"]

end TraceKind

/-- What a trace event is about. -/
inductive TraceVariant
  /-- A request that an API handles; the daemon numbers requests. -/
  | request (api verb : String) (index : Int) (action : String)
  /-- Activity of an API as a service. -/
  | service (api action : String)
  /-- A call from an API to the daemon. -/
  | daemon (api action : String)
  /-- Activity of an event `api/name`. -/
  | event (name action : String)
  deriving DecidableEq, Inhabited

namespace TraceVariant

/-- The kind of descriptor. -/
def kind : TraceVariant → TraceKind
  | request .. => .request
  | service .. => .service
  | daemon .. => .daemon
  | event .. => .event

/-- The descriptor in a line of text. -/
def text : TraceVariant → String
  | request api verb index action =>
    api ++ "/" ++ verb ++ "  [" ++ toString index ++ "] " ++ action
  | service api action => api ++ "@" ++ action
  | daemon api action => api ++ ":" ++ action
  | event name action => name ++ "!" ++ action

/-- Whether the monitoring API itself caused the event. -/
def isSelfGenerated (monitorApi : String) : TraceVariant → Bool
  | request api .. | service api _ | daemon api _ => api == monitorApi
  | event name _ => (monitorApi.toList ++ ['/']).isPrefixOf name.toList

/-- The descriptor with the given fields. -/
def ofFields (fields : List (String × Json)) : TraceKind → TraceVariant
  | .request => .request (Record.string fields "api" "") (Record.string fields "verb" "")
      (Record.int fields "index") (Record.string fields "action" "")
  | .service => .service (Record.string fields "api" "") (Record.string fields "action" "")
  | .daemon => .daemon (Record.string fields "api" "") (Record.string fields "action" "")
  | .event => .event (Record.string fields "name" "") (Record.string fields "action" "")

/-- Read a descriptor. -/
def ofJson (kind : TraceKind) (v : Json) : Except Mismatch TraceVariant :=
  (Record.fields? kind.key kind.rules v).map fun fields => ofFields fields kind

end TraceVariant

/-- A trace event. -/
structure TraceEvent where
  /-- Time at the daemon. -/
  time : String
  /-- Tag of the subscription that asked for the event, if it is given. -/
  subscription : Option String
  variant : TraceVariant
  /-- The fields of the descriptor. -/
  descriptor : List (String × Json)
  /-- What was traced. -/
  data : Option Json
  deriving Inhabited

/-- What decides how pushed events are classified. -/
structure ClassifyOptions where
  /-- Name of the monitoring API. -/
  monitorApi : String
  /-- Whether to keep events that the monitoring API caused. -/
  showMonitorEvents : Bool
  deriving DecidableEq, Inhabited

/-- Usual name of the monitoring API. -/
def defaultMonitorApi : String := "monitor"

/-- Name of the pushed events that carry trace events. -/
def ClassifyOptions.traceEventName (o : ClassifyOptions) : String := o.monitorApi ++ "/trace"

/-- What a pushed event turns out to be. -/
inductive Classification
  /-- A trace event to show. -/
  | trace (event : TraceEvent)
  /-- A trace event that the monitoring API caused. -/
  | suppressed (variant : TraceVariant)
  /-- An event of another name. -/
  | unexpected (push : PushEvent)
  /-- An event with the name of trace events that is none. -/
  | malformed (reason : String)
  deriving Inhabited

namespace Classification

/-- The first kind of descriptor that is present, with its value. -/
def descriptor? (data : List (String × Json)) : Option (TraceKind × Json) :=
  TraceKind.all.findSome? fun kind =>
    (Entries.lookup? kind.key data).map fun v => (kind, v)

/-- The time of a trace event as a text; it may be a text or any other value. -/
def timeText : Option Json → String
  | some (.string s) => s
  | some .null | none => ""
  | some v => v.compact

/-- The trace event with a given descriptor. -/
def traceEvent (data descriptor : List (String × Json)) (variant : TraceVariant) : TraceEvent where
  time := timeText (Entries.lookup? "time" data)
  subscription := (Entries.lookup? "tag" data).bind Json.asString?
  variant := variant
  descriptor := descriptor
  data := Entries.lookup? "data" data

/-- Classify the payload of a trace event. -/
def ofPayload (options : ClassifyOptions) (data : List (String × Json)) : Classification :=
  match descriptor? data with
  | none =>
    .malformed ("trace event matches none of " ++
      String.intercalate ", " (TraceKind.all.map TraceKind.key))
  | some (kind, .object descriptor) =>
    match TraceVariant.ofJson kind (.object descriptor) with
    | .error e => .malformed ("invalid " ++ kind.key ++ " descriptor: " ++ e.message)
    | .ok variant =>
      if !options.showMonitorEvents && variant.isSelfGenerated options.monitorApi then
        .suppressed variant
      else .trace (traceEvent data descriptor variant)
  | some (kind, _) => .malformed (kind.key ++ " descriptor is not an object")

/-- Classify a pushed event. -/
def ofPush (options : ClassifyOptions) (push : PushEvent) : Classification :=
  if push.event = options.traceEventName then
    match push.data with
    | some (.object data) => ofPayload options data
    | _ => .malformed "trace event without object payload"
  else .unexpected push

end Classification

end LiveTrace
