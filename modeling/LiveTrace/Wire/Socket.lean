import LiveTrace.Channel
import LiveTrace.Failure
import LiveTrace.Wire.Frame
import LiveTrace.Wire.Reply
/-!
# LiveTrace.Wire.Socket

The client's end of a websocket connection. Calls go out with an identifier and wait in a table of
pending calls until a reply with that identifier arrives. What arrives is read as long as the
connection lasts: replies settle calls, pushed events are delivered, and anything else is ignored.
When the connection ends in any way, every pending call fails, and so does every later one at once.

The things that can happen to a connection are the `Socket.Step`s; they may come in any order.
-/

namespace LiveTrace

/-- The client's end of a connection. -/
structure Socket where
  url : String
  /-- Number of calls so far. Calls are known by their number, from 0. -/
  issued : Nat
  /-- The calls that wait for a reply, by identifier, oldest first. -/
  pending : List (String × Nat)
  /-- The calls that are settled, with their settlements, oldest first. -/
  settled : List (Nat × Settlement)
  /-- Whether calls fail at once. -/
  closed : Bool
  /-- Whether what arrives is read. -/
  reading : Bool
  /-- The latest token. -/
  token : Option String
  /-- The pushed events, oldest first. -/
  events : List PushEvent
  deriving Inhabited

namespace Socket

/-! ## Opening a connection -/

/-- The protocol offered to the daemon. -/
def protocol : String := "x-afb-ws-json1"

/-- Whether a character may occur in the token of a url. -/
def isTokenChar (c : Char) : Bool :=
  0x20 < c.toNat && c.toNat != 0x7F && c != '"' && c != '<' && c != '>'

/-- Whether a connection to a target can be asked for. -/
def canRequest (t : ConnectTarget) : Bool := t.token.all fun token => token.toList.all isTokenChar

/-- What is asked of the daemon: the path up to a `#`. -/
def requestPath (t : ConnectTarget) : String :=
  String.ofList (t.path.toList.takeWhile fun c => c != '#')

/-- A connection that was just opened. -/
def opened (t : ConnectTarget) : Socket := ⟨t.url, 0, [], [], false, true, t.token, []⟩

/-! ## Calls -/

/-- Number of identifiers, which have 64 bits. -/
def identifiers : Nat := 0x10000000000000000

/-- The identifier of a call, as text; they count from 1. -/
def identifier (n : Nat) : String := toString ((n + 1) % identifiers)

/-- Settle the call of an identifier, if one is pending. -/
def settle (s : Socket) (id : String) (outcome : Settlement) : Socket :=
  match Entries.lookup? id s.pending with
  | some n =>
    { s with
      pending := s.pending.filter fun e => e.1 != id
      settled := s.settled ++ [(n, outcome)] }
  | none => s

/-- Let every pending call fail, and every later one at once. -/
def failAll (s : Socket) : Socket :=
  { s with
    pending := []
    settled := s.settled ++ s.pending.map fun e => (e.2, .error .closed)
    closed := true }

/-- The message of the next call. -/
def callFrame (s : Socket) (apiVerb : String) (args : Json) : Frame :=
  .call (identifier s.issued) apiVerb args

/-- Issue a call: the message that leaves, if the connection is not closed. -/
def call (s : Socket) (apiVerb : String) (args : Json) : Option Frame × Socket :=
  if s.closed then
    (none, { s with
      issued := s.issued + 1
      settled := s.settled ++ [(s.issued, .error .closed)] })
  else
    (some (s.callFrame apiVerb args), { s with
      issued := s.issued + 1
      pending := s.pending ++ [(identifier s.issued, s.issued)] })

/-- The message of call `n` cannot be handed over for writing: the call settles itself, unless it
was settled meanwhile. -/
def unsent (s : Socket) (n : Nat) : Socket := s.settle (identifier n) (.error .closed)

/-! ## What arrives -/

/-- The token that a reply announces. -/
def announced (r : Reply) : Option String := r.request.token

/-- Take a reply: its token replaces the one in use, and the call it answers is settled. A reply
without the form of one settles the call too. -/
def receiveReply (s : Socket) (id : String) (v : Json) (rejected : Bool) : Socket :=
  match Reply.ofJson v rejected with
  | .ok r => { s with token := announced r <|> s.token }.settle id (.ok r)
  | .error e => s.settle id (.error (.violation e.message))

/-- Take a message. -/
def receiveFrame (s : Socket) : Frame → Socket
  | .success id reply => s.receiveReply id reply false
  | .failure id reply => s.receiveReply id reply true
  | .event name message => { s with events := s.events ++ [.ofMessage name message] }
  | .call .. => s

/-- Take a text, as long as what arrives is read. -/
def receive (s : Socket) (text : String) : Socket :=
  if s.reading then
    match Frame.decode text with
    | .ok f => s.receiveFrame f
    | .error _ => s
  else s

/-! ## The end of a connection -/

/-- Stop reading, and let calls fail. -/
def stop (s : Socket) : Socket := { s.failAll with reading := false }

/-! ## Steps -/

/-- The things that can happen to a connection. -/
inductive Step
  /-- A call is issued. -/
  | call (apiVerb : String) (args : Json)
  /-- The message of a call cannot be handed over. -/
  | unsent (n : Nat)
  /-- A text arrives. -/
  | text (text : String)
  /-- Something other than a text arrives. -/
  | noise
  /-- The daemon closes the connection, or it breaks. -/
  | ended
  /-- A message cannot be written. -/
  | writeFailed
  /-- The client closes the connection. -/
  | close
  /-- The client lets go of the connection. -/
  | drop
  deriving Inhabited

/-- A connection after a step. -/
def step (s : Socket) : Step → Socket
  | .call apiVerb args => (s.call apiVerb args).2
  | .unsent n => s.unsent n
  | .text text => s.receive text
  | .noise => s
  | .ended => if s.reading then s.stop else s
  | .writeFailed => s.failAll
  | .close | .drop => s.stop

/-- A connection after steps. -/
def run (s : Socket) (steps : List Step) : Socket := steps.foldl step s

end Socket

end LiveTrace
