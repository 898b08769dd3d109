import LiveTrace.Json.Record
/-!
# LiveTrace.Wire.Reply

What the daemon sends: replies to calls, and events that it pushes to its clients. A reply has a
status block and an optional body; it is accepted if it came as a success and its status says so too
(`Reply.isSuccess`). A `null` body counts as none.
-/

namespace LiveTrace

/-! ## Replies -/

/-- Status block of a reply. -/
structure ReplyRequest where
  /-- `success`, or the kind of failure. -/
  status : String
  /-- Explanation of the status. -/
  info : Option String
  /-- Token that replaces the one in use. -/
  token : Option String
  /-- Identifier of the client session. -/
  uuid : Option String
  deriving DecidableEq, Inhabited

/-- Reply to a call. -/
structure Reply where
  /-- Kind of message, as named by the daemon. -/
  jtype : Option String
  request : ReplyRequest
  /-- Body of the reply. -/
  response : Option Json
  /-- Whether the reply came as a failure. -/
  rejected : Bool
  deriving Inhabited

namespace ReplyRequest

/-- A status block that says nothing. -/
def blank : ReplyRequest := ⟨"", none, none, none⟩

/-- The fields of a status block. -/
def rules : List FieldRule :=
  [.string "status", .optionalString "info", .optionalString "token", .optionalString "uuid"]

/-- The status block with the given fields. -/
def ofFields (fields : List (String × Json)) : ReplyRequest where
  status := Record.string fields "status" ""
  info := Record.string? fields "info"
  token := Record.string? fields "token"
  uuid := Record.string? fields "uuid"

/-- Read a status block. -/
def ofJson (v : Json) : Except Mismatch ReplyRequest :=
  (Record.fields? "ReplyRequest" rules v).map ofFields

/-- A field with a text, if there is one. -/
def optionalField (name : String) (s : Option String) : List (String × Json) :=
  (s.map fun s => (name, Json.string s)).toList

/-- Write a status block, without the fields that are absent. -/
def toJson (r : ReplyRequest) : Json :=
  .object (("status", .string r.status) :: (optionalField "info" r.info ++
    optionalField "token" r.token ++ optionalField "uuid" r.uuid))

end ReplyRequest

namespace Reply

/-- Status of an accepted request. -/
def statusSuccess : String := "success"

/-- Kind of message of replies. -/
def kind : String := "afb-reply"

/-- An accepting reply. -/
def success (response : Option Json) : Reply :=
  ⟨some kind, ⟨statusSuccess, none, none, none⟩, response, false⟩

/-- A refusing reply. -/
def failure (status : String) (info : Option String) : Reply :=
  ⟨some kind, ⟨status, info, none, none⟩, none, true⟩

/-- Whether the daemon accepted the request. -/
def isSuccess (r : Reply) : Bool := !r.rejected && r.request.status == statusSuccess

/-- The body, `null` if there is none. -/
def body (r : Reply) : Json := r.response.getD .null

/-- The fields of a reply. Whether it is rejected is not among them. -/
def rules : List FieldRule :=
  [.optionalString "jtype",
   ⟨"request", fun v => (ReplyRequest.ofJson v).map fun _ => (), false⟩,
   .any "response"]

/-- The status block among the fields of a reply. -/
def requestOf (fields : List (String × Json)) : ReplyRequest :=
  match Entries.lookup? "request" fields with
  | none => .blank
  | some v =>
    match ReplyRequest.ofJson v with
    | .ok r => r
    | .error _ => .blank

/-- The reply with the given fields. -/
def ofFields (fields : List (String × Json)) (rejected : Bool) : Reply where
  jtype := Record.string? fields "jtype"
  request := requestOf fields
  response := Record.value? fields "response"
  rejected := rejected

/-- Read a reply that came as a failure or not. -/
def ofJson (v : Json) (rejected : Bool) : Except Mismatch Reply :=
  (Record.fields? "Reply" rules v).map fun fields => ofFields fields rejected

/-- Write a reply, without the fields that are absent. -/
def toJson (r : Reply) : Json :=
  .object (ReplyRequest.optionalField "jtype" r.jtype ++
    ("request", r.request.toJson) :: (r.response.map fun v => ("response", v)).toList)

end Reply

/-! ## Pushed events -/

/-- An event pushed by the daemon. -/
structure PushEvent where
  /-- Name of the event, such as `monitor/trace`. -/
  event : String
  /-- What the event carries. -/
  data : Option Json
  deriving Inhabited

namespace PushEvent

/-- The event of a pushed message. The message is an object that holds the payload in its field
`data`, or else is the payload itself; the name that came with the message counts, whatever the
message says. -/
def ofMessage (name : String) : Json → PushEvent
  | .object fields => ⟨name, Entries.lookup? "data" fields⟩
  | .null => ⟨name, none⟩
  | payload => ⟨name, some payload⟩

/-- The fields of a pushed event. -/
def rules : List FieldRule := [.requiredString "event", .any "data"]

/-- Read a pushed event. -/
def ofJson (v : Json) : Except Mismatch PushEvent :=
  (Record.fields? "PushEvent" rules v).map fun fields =>
    ⟨Record.string fields "event" "", Record.value? fields "data"⟩

/-- Write a pushed event, without a payload that is absent. -/
def toJson (p : PushEvent) : Json :=
  .object (("event", .string p.event) :: (p.data.map fun v => ("data", v)).toList)

end PushEvent

end LiveTrace
