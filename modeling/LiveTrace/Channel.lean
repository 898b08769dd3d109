import LiveTrace.Failure
import LiveTrace.Text.Basic
/-!
# LiveTrace.Channel

Channels to a daemon, and where to connect to one. Whoever holds a channel can call verbs, wait for
pushed events and close the channel; a call is settled before the next one is issued.
-/

namespace LiveTrace

universe u

/-- What waiting for the next pushed event comes to. -/
inductive Arrival
  /-- An event has arrived. -/
  | event (push : PushEvent)
  /-- The channel is closed and every event was taken. -/
  | ended
  /-- No event has arrived so far. -/
  | pending
  deriving Inhabited

/-- A connected channel to a daemon. -/
class Channel (τ : Type u) where
  /-- Url of the daemon. -/
  url : τ → String
  /-- Call a verb and wait until the call is settled. -/
  call : τ → (apiVerb : String) → (args : Json) → Settlement × τ
  /-- Close the channel. -/
  close : τ → τ
  /-- Take the next pushed event. -/
  receive : τ → Arrival × τ
  /-- How many pushed events have arrived and were not taken. -/
  queued : τ → Nat
  /-- Stop listening for pushed events, for ever. -/
  release : τ → τ

/-! ## Targets -/

/-- Address of a daemon and the token to present. -/
structure ConnectTarget where
  /-- Host and port. -/
  host : String
  /-- Access token, passed on as it is. -/
  token : Option String
  deriving DecidableEq, Inhabited

namespace ConnectTarget

/-- A target; an empty token counts as none. -/
def new (host : String) (token : Option String) : ConnectTarget :=
  ⟨host, token.filter fun t => !t.isEmpty⟩

/-- Drop every occurrence of the scheme of daemon urls from the front. -/
def stripSchemes (cs : List Char) : List Char :=
  match cs with
  | 'w' :: 's' :: ':' :: '/' :: '/' :: rest => stripSchemes rest
  | cs => cs

/-- The address without scheme and closing slashes. -/
def address (t : ConnectTarget) : String :=
  String.ofList (Text.dropWhileEnd (· == '/') (stripSchemes t.host.toList))

/-- Path and query of the request that opens the connection. -/
def path (t : ConnectTarget) : String :=
  match t.token with
  | some token => "/api?token=" ++ token
  | none => "/api"

/-- Url of the daemon. -/
def url (t : ConnectTarget) : String := "ws://" ++ t.address ++ t.path

end ConnectTarget

end LiveTrace
