import LiveTrace.Channel
/-!
# LiveTrace.Line

Channels in memory. A `Line` connects a session to a peer that answers its calls (`Peer`). It
records the calls that reach the peer, and the peer's side can push events and sever the line.
-/

namespace LiveTrace

universe u

/-- Something that answers calls. -/
class Peer (β : Type u) where
  answer : β → (apiVerb : String) → (args : Json) → Settlement × β

/-- A channel in memory to a peer. -/
structure Line (β : Type u) where
  url : String
  peer : β
  /-- The calls that reached the peer, oldest first. -/
  calls : List (String × Json)
  /-- Whether either side closed the line. -/
  closed : Bool
  /-- Pushed events that were not taken so far. -/
  queue : List PushEvent
  /-- Whether the peer can still push. -/
  source : Bool
  /-- Whether someone may still take events. -/
  listening : Bool
  deriving Inhabited

namespace Line

variable {β : Type u}

/-- An open line on which nothing has happened. -/
def new (url : String) (peer : β) : Line β := ⟨url, peer, [], false, [], true, true⟩

/-- Call the peer; a closed line settles the call itself. -/
def call [Peer β] (l : Line β) (apiVerb : String) (args : Json) : Settlement × Line β :=
  if l.closed then (.error .closed, l)
  else
    let (settlement, peer) := Peer.answer l.peer apiVerb args
    (settlement, { l with peer, calls := l.calls ++ [(apiVerb, args)] })

/-- Take the next pushed event. -/
def receive (l : Line β) : Arrival × Line β :=
  match l.queue with
  | push :: queue => (.event push, { l with queue })
  | [] => (if l.source then .pending else .ended, l)

instance [Peer β] : Channel (Line β) where
  url := Line.url
  call := call
  close l := { l with closed := true }
  receive := receive
  queued l := l.queue.length
  release l := { l with queue := [], listening := false }

/-! ## The peer's side -/

/-- Push an event: whether the channel took it. -/
def push (l : Line β) (p : PushEvent) : Bool × Line β :=
  if l.source && l.listening then (true, { l with queue := l.queue ++ [p] }) else (false, l)

/-- Sever the line: calls fail, and the events end after those that were pushed. -/
def sever (l : Line β) : Line β := { l with closed := true, source := false }

/-- Apply a function to the peer. -/
def mapPeer (f : β → β) (l : Line β) : Line β := { l with peer := f l.peer }

end Line

/-! ## Prepared settlements -/

/-- A peer that settles calls as was prepared, whatever they ask. -/
structure Script where
  settlements : List Settlement
  deriving Inhabited

/-- The next settlement; without one the call fails as on a closed channel. -/
def Script.next (s : Script) : Settlement × Script :=
  match s.settlements with
  | settlement :: settlements => (settlement, { s with settlements })
  | [] => (.error .closed, s)

instance : Peer Script where
  answer s _ _ := s.next

end LiveTrace
