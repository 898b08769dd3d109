import LiveTrace.Json.Printer
import LiveTrace.Recent
/-!
# LiveTrace.Log.Feed

The log of a session: what was called, answered and pushed, and what went wrong. A feed that is
switched off drops entries; otherwise it keeps the most recent ones.
-/

namespace LiveTrace

/-- Kinds of log entries. -/
inductive LogKind
  /-- A call was sent. -/
  | call
  /-- A call succeeded. -/
  | retok
  /-- A call was refused, or the channel failed. -/
  | reterr
  /-- A trace event arrived. -/
  | trace
  /-- Another event arrived. -/
  | event
  /-- Something else went wrong. -/
  | error
  deriving DecidableEq, Inhabited

/-- Short name of a kind. -/
def LogKind.name : LogKind → String
  | call => "call"
  | retok => "retok"
  | reterr => "reterr"
  | trace => "trace"
  | event => "event"
  | error => "error"

/-- An entry of the log. -/
structure LogEntry where
  kind : LogKind
  /-- What happened, in two or three words. -/
  tag : String
  content : String
  deriving DecidableEq, Inhabited

/-- The log of a session. -/
structure LogFeed where
  recent : Recent LogEntry
  /-- Whether entries are recorded. -/
  enabled : Bool
  deriving Inhabited

namespace LogFeed

/-- Entries kept unless said otherwise. -/
def defaultCapacity : Nat := 1000

/-- A feed without entries. -/
def new (enabled : Bool) (capacity : Nat) : LogFeed := ⟨.new capacity, enabled⟩

/-- The feed in use unless said otherwise. -/
def default : LogFeed := new false defaultCapacity

/-- The entries, oldest first. -/
def entries (f : LogFeed) : List LogEntry := f.recent.items

/-- Record an entry, unless the feed is switched off. -/
def push (f : LogFeed) (e : LogEntry) : LogFeed :=
  if f.enabled then { f with recent := f.recent.push e } else f

/-- Record entries one after the other. -/
def pushAll (f : LogFeed) (l : List LogEntry) : LogFeed := l.foldl push f

/-- An error entry with a JSON value as its content. -/
def errorEntry (tag : String) (body : Json) : LogEntry := ⟨.error, tag, body.pretty⟩

/-- Switch recording on or off. -/
def setEnabled (f : LogFeed) (enabled : Bool) : LogFeed := { f with enabled }

/-- Drop every entry. -/
def clear (f : LogFeed) : LogFeed := { f with recent := f.recent.clear }

end LogFeed

end LiveTrace
