import LiveTrace.Session.Basic
/-!
# LiveTrace.Session.Events

Pushed events in a session. Every pushed event is logged and classified, and trace events to show
are kept.
-/

namespace LiveTrace

universe u

/-- What waiting for the next event of a session comes to. -/
inductive NextEvent
  /-- An event arrived. -/
  | classified (event : Classification)
  /-- The channel is closed and every event was handled. -/
  | ended
  /-- No event has arrived so far. -/
  | pending
  deriving Inhabited

namespace Session

variable {τ : Type u}

/-- The entry of a pushed event. -/
def pushEntry (options : ClassifyOptions) (push : PushEvent) : LogEntry :=
  if push.event = options.traceEventName then ⟨.trace, "trace event", push.toJson.pretty⟩
  else ⟨.event, "unexpected event!", push.toJson.pretty⟩

/-- Take over what a pushed event was classified as. -/
def note (s : Session τ) : Classification → Session τ
  | .trace event => { s with kept := s.kept.push event }
  | .malformed reason => s.log ⟨.error, "malformed trace event", reason⟩
  | .suppressed _ | .unexpected _ => s

/-- Log and classify a pushed event, and keep it if it is a trace event to show. -/
def handlePush (s : Session τ) (push : PushEvent) : Classification × Session τ :=
  let classification := Classification.ofPush s.options push
  (classification, (s.log (pushEntry s.options push)).note classification)

/-- Handle the next pushed event. -/
def nextEvent [Channel τ] (s : Session τ) : NextEvent × Session τ :=
  let (arrival, channel) := Channel.receive s.channel
  let s := s.mapChannel fun _ => channel
  match arrival with
  | .event push =>
    let (classification, s) := s.handlePush push
    (.classified classification, s)
  | .ended => (.ended, s.markClosed)
  | .pending => (.pending, s)

/-- Drop the trace events that were kept. -/
def clearTraceEvents (s : Session τ) : Session τ := { s with kept := s.kept.clear }

/-- Show or suppress trace events that the monitoring API caused. -/
def setShowMonitorEvents (s : Session τ) (shown : Bool) : Session τ :=
  { s with options := { s.options with showMonitorEvents := shown } }

end Session

end LiveTrace
