import LiveTrace.Json.Printer
import LiveTrace.Json.Reader
/-!
# LiveTrace.Wire.Frame

Messages between client and daemon. Every message is a JSON array that begins with a code:

* `[2, id, "api/verb", args]` is a call,
* `[3, id, reply]` and `[4, id, reply]` answer the call `id`, by success or by failure,
* `[5, event, message]` is an event pushed to the client.

`Frame.encode` writes such a message and `Frame.decode` reads one. A reader is lenient in three
ways: an identifier may be a number, which then counts by its text, a missing last part counts as
`null`, and elements after the last part are ignored.
-/

namespace LiveTrace

/-- A message between client and daemon. -/
inductive Frame
  /-- Invoke a verb of an API. -/
  | call (id apiVerb : String) (args : Json)
  /-- The call `id` succeeded. -/
  | success (id : String) (reply : Json)
  /-- The call `id` failed. -/
  | failure (id : String) (reply : Json)
  /-- The daemon pushes an event. -/
  | event (name : String) (message : Json)
  deriving Inhabited

/-- Why a text is not a message. -/
inductive FrameError
  /-- The text is not a JSON array. -/
  | notAnArray
  /-- The first element is no unsigned integer. -/
  | missingCode (text : String)
  /-- The second element is neither a string nor a number. -/
  | missingIdentifier (text : String)
  /-- The third element of a call is not a string. -/
  | callWithoutVerb (found : Json)
  /-- The first element is none of the codes. -/
  | unknownCode (code : Nat)
  deriving Inhabited

namespace Frame

/-- The elements of the message. -/
def items : Frame → List Json
  | .call id apiVerb args => [.int 2, .string id, .string apiVerb, args]
  | .success id reply => [.int 3, .string id, reply]
  | .failure id reply => [.int 4, .string id, reply]
  | .event name message => [.int 5, .string name, message]

/-- The text of the message. -/
def encode (f : Frame) : String := (Json.array f.items).compact

/-- An identifier; a number counts by its text. -/
def identifier? : Json → Option String
  | .string s => some s
  | .number n => some (String.ofList n.text)
  | _ => none

/-- The next part of a message, `null` where it is missing. -/
def payload (items : List Json) : Json := items.headD .null

/-- The message whose code is `code`, given the elements after the identifier. -/
def ofParts (code : Nat) (id : String) (rest : List Json) : Except FrameError Frame :=
  match code with
  | 2 =>
    match payload rest with
    | .string apiVerb => .ok (.call id apiVerb (payload rest.tail))
    | found => .error (.callWithoutVerb found)
  | 3 => .ok (.success id (payload rest))
  | 4 => .ok (.failure id (payload rest))
  | 5 => .ok (.event id (payload rest))
  | code => .error (.unknownCode code)

/-- The message of a list of elements, `text` being quoted if a leading element is missing. -/
def ofItems (text : String) (items : List Json) : Except FrameError Frame :=
  match (items.head?).bind Json.asNat64? with
  | none => .error (.missingCode text)
  | some code =>
    match (items.tail.head?).bind identifier? with
    | none => .error (.missingIdentifier text)
    | some id => ofParts code id items.tail.tail

/-- The message that a text stands for. -/
def decode (text : String) : Except FrameError Frame :=
  match Json.read? text with
  | some (.array items) => ofItems text items
  | _ => .error .notAnArray

end Frame

/-- What the operator is told; nothing is said of a text that is not a JSON array. -/
def FrameError.message? : FrameError → Option String
  | .notAnArray => none
  | .missingCode text => some ("missing message code: " ++ text)
  | .missingIdentifier text => some ("missing message identifier: " ++ text)
  | .callWithoutVerb found => some ("call without api/verb: " ++ found.compact)
  | .unknownCode code => some ("unknown message code " ++ toString code)

end LiveTrace
