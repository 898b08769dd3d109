import LiveTrace.Monitor
import LiveTrace.Wire.Socket
/-!
# LiveTrace.Line.Scheduled

Lines with a scheduled end: once a verb was called a given number of times, the daemon pushes its
last events and severs the line. A `Site` opens such lines at one address.
-/

namespace LiveTrace

/-- What a daemon does after calls of a verb. -/
structure Schedule where
  /-- The verb whose calls count, as `api/verb`. -/
  apiVerb : String
  /-- How many more calls come before the end. -/
  remaining : Nat
  /-- The events that are pushed at the end. -/
  events : List PushEvent
  deriving Inhabited

/-- A line to a daemon, with the end that is scheduled for it. -/
structure ScheduledLine where
  target : ConnectTarget
  line : Line Daemon
  schedule : Option Schedule
  deriving Inhabited

namespace ScheduledLine

/-- Push the last events and sever the line. -/
def finish (l : ScheduledLine) (events : List PushEvent) : ScheduledLine :=
  { l with
    line := (events.foldl (fun line push => (line.push push).2) l.line).sever
    schedule := none }

/-- Count a call that reached the daemon. -/
def count (l : ScheduledLine) (apiVerb : String) : ScheduledLine :=
  match l.schedule with
  | none => l
  | some s =>
    if s.apiVerb = apiVerb then
      if s.remaining ≤ 1 then l.finish s.events
      else { l with schedule := some { s with remaining := s.remaining - 1 } }
    else l

/-- Call the daemon. -/
def call (l : ScheduledLine) (apiVerb : String) (args : Json) : Settlement × ScheduledLine :=
  if l.line.closed then (.error .closed, l)
  else
    let (settlement, line) := l.line.call apiVerb args
    (settlement, { l with line }.count apiVerb)

instance : Channel ScheduledLine where
  url l := Channel.url l.line
  call := call
  close l := { l with line := Channel.close l.line }
  receive l :=
    let (arrival, line) := Channel.receive l.line
    (arrival, { l with line })
  queued l := Channel.queued l.line
  release l := { l with line := Channel.release l.line }

end ScheduledLine

/-- A daemon at an address. -/
structure Site where
  address : String
  daemon : Daemon
  schedule : Option Schedule
  deriving Inhabited

/-- Only a target at the address of the site, with a token that a request can carry, is reached. -/
instance : Connector Site ScheduledLine where
  connect s target :=
    if target.address = s.address ∧ Socket.canRequest target then
      .ok ⟨target, .new target.url s.daemon, s.schedule⟩
    else .error (.connect target.url "connection refused")

end LiveTrace
