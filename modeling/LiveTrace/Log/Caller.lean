import LiveTrace.Channel
import LiveTrace.Log.Feed
/-!
# LiveTrace.Log.Caller

Calls with a log. Every call leaves an entry when it is sent and one when it is settled, and a
reply that does not accept becomes a failure of the call.
-/

namespace LiveTrace

universe u

/-- A channel, and the log of what goes over it. -/
structure Caller (τ : Type u) where
  channel : τ
  feed : LogFeed

namespace Caller

variable {τ : Type u}

/-- How a call reads in the log. -/
def callText (apiVerb : String) (args : Json) : String := apiVerb ++ "(" ++ args.pretty ++ ")"

/-- The entry of a call that is sent. -/
def sendEntry (apiVerb : String) (args : Json) : LogEntry :=
  ⟨.call, "send request", callText apiVerb args⟩

/-- How a settlement reads in the log. -/
def settlementText : Settlement → String
  | .ok reply => reply.toJson.pretty
  | .error e => e.message

/-- The outcome of a call. -/
def outcome : Settlement → Except CallFailure Reply
  | .ok reply => if reply.isSuccess then .ok reply else .error (.rejected reply)
  | .error e => .error (.channel e)

/-- The entry of a call that is settled. -/
def receiveEntry (apiVerb : String) (args : Json) (s : Settlement) : LogEntry :=
  let content := callText apiVerb args ++ " -> " ++ settlementText s
  match outcome s with
  | .ok _ => ⟨.retok, "receive success", content⟩
  | .error _ => ⟨.reterr, "receive error", content⟩

/-- Record an entry. -/
def log (c : Caller τ) (e : LogEntry) : Caller τ := { c with feed := c.feed.push e }

/-- Call a verb and wait until the call is settled. -/
def call [Channel τ] (c : Caller τ) (apiVerb : String) (args : Json) :
    Except CallFailure Reply × Caller τ :=
  let c := c.log (sendEntry apiVerb args)
  let (settlement, channel) := Channel.call c.channel apiVerb args
  (outcome settlement, { c with channel }.log (receiveEntry apiVerb args settlement))

end Caller

end LiveTrace
