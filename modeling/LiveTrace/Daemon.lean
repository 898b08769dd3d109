import LiveTrace.Line
import LiveTrace.Table
import LiveTrace.Text.Basic
/-!
# LiveTrace.Daemon

A daemon in memory. It answers the verbs of the monitoring API as a real daemon does: it tells its
APIs and levels (`get`), sets levels (`set`), adds and drops trace subscriptions (`trace`) and tells
about the client session (`session`). Calls of given verbs can be made to fail.

Levels are stored as numbers from 0 to 3.
-/

namespace LiveTrace

/-- A daemon in memory. -/
structure Daemon where
  /-- Descriptions of the APIs by name. -/
  apis : Table String Json
  /-- Levels of the APIs by name. -/
  levels : Table String Int
  /-- Level of the daemon itself. -/
  globalLevel : Int
  /-- Tags of the trace subscriptions. -/
  traces : Table String Unit
  /-- The calls that fail, as `api/verb`. -/
  failing : List String
  /-- Token of the client session. -/
  token : String
  /-- How often the token was renewed; after the highest number counting begins anew. -/
  refreshes : UInt32
  deriving Inhabited

namespace Daemon

/-! ## Daemons to start from -/

/-- Name of the monitoring API. -/
def monitorApi : String := "monitor"

/-- Level of everything at the start. -/
def initialLevel : Int := 1

/-- Add an API with its description, `null` for none. -/
def withApi (d : Daemon) (name : String) (description : Json) : Daemon :=
  { d with
    apis := d.apis.insert name description
    levels := d.levels.insert name initialLevel }

/-- Description of the monitoring API. -/
def monitorDescription : Json :=
  .ofFields [
    ("info", .object [("description", .string "monitoring of bindings and internals")]),
    ("paths", .ofFields (["/get", "/set", "/trace", "/session"].map fun p => (p, .object [])))]

/-- A daemon with the monitoring API only. -/
def new : Daemon :=
  withApi ⟨.empty, .empty, initialLevel, .empty, [], "HELLO", 0⟩ monitorApi
    monitorDescription

/-- Description of an API that adds numbers. -/
def calculatorDescription : Json :=
  .object [
    ("info", .object [("description", .string "Calculator")]),
    ("paths", .object [("/add", .object [("get", .object [("responses", .object [("200",
      .object [("description", .string "adds numbers")])])])])])]

/-- A daemon with one more API, which has one verb. -/
def calculator : Daemon := new.withApi "calc" calculatorDescription

/-- Let calls of a verb fail. -/
def fail (d : Daemon) (apiVerb : String) : Daemon := { d with failing := apiVerb :: d.failing }

/-- Let calls of a verb succeed again. -/
def recover (d : Daemon) (apiVerb : String) : Daemon :=
  { d with failing := d.failing.filter fun v => v != apiVerb }

/-! ## Looking at a daemon -/

/-- Tags of the trace subscriptions, ascending. -/
def traceTags (d : Daemon) : List String := d.traces.keys

/-- Level of an API, or of the daemon for the empty name. -/
def level? (d : Daemon) (name : String) : Option Int :=
  if name = "" then some d.globalLevel else d.levels.get? name

/-! ## Levels -/

/-- The value that tells a client a level. -/
def encodeLevel (n : Int) : Json :=
  if n = 0 then .string "error"
  else if n = 1 then .string "warning"
  else if n = 2 then .string "info"
  else if n = 3 then .string "debug"
  else .int n

/-- The number of a named level. -/
def levelOfName? (name : String) : Option Int :=
  if name = "error" then some 0
  else if name = "warning" ∨ name = "notice" then some 1
  else if name = "info" then some 2
  else if name = "debug" then some 3
  else none

/-- The level that a client asks for: a name in letters of either case, or a number that is brought
into range. -/
def decodeLevel? : Json → Option Int
  | .string s => levelOfName? (Text.lowerAscii s)
  | v => v.asInt64?.map fun n => max 0 (min n 3)

/-- Set the level of the daemon, of every API (`*`) or of one; APIs that are not known are passed
over. -/
def setLevel (d : Daemon) (name : String) (level : Int) : Daemon :=
  if name = "" then { d with globalLevel := level }
  else if name = "*" then { d with levels := d.levels.mapValues fun _ => level }
  else if d.levels.contains name then { d with levels := d.levels.insert name level }
  else d

/-- Set the levels of an object, name by name. Any other value is a level for the daemon and every
API. Levels that are not understood are passed over. -/
def setLevels (d : Daemon) : Json → Daemon
  | .object levels =>
    levels.foldl (fun d e =>
      match decodeLevel? e.2 with
      | some level => d.setLevel e.1 level
      | none => d) d
  | v =>
    match decodeLevel? v with
    | some level => (d.setLevel "" level).setLevel "*" level
    | none => d

/-! ## Verbs -/

/-- Whether a part of the answer is asked for. -/
def isAsked : Option Json → Bool
  | none | some .null | some (.bool false) => false
  | some _ => true

/-- The levels, that of the daemon under the empty name. -/
def levelsAnswer (d : Daemon) : Json :=
  .ofFields (("", encodeLevel d.globalLevel) ::
    d.levels.entries.map fun e => (e.1, encodeLevel e.2))

/-- Tell the APIs and levels that are asked for. -/
def get (d : Daemon) (args : Json) : Json :=
  .object ((if isAsked (args.get? "apis") then [("apis", .object d.apis.entries)] else []) ++
    (if isAsked (args.get? "verbosity") then [("verbosity", d.levelsAnswer)] else []))

/-- Set levels. -/
def set (d : Daemon) (args : Json) : Daemon :=
  match args.get? "verbosity" with
  | some levels => d.setLevels levels
  | none => d

/-- A refusal with its explanation. -/
def refuse (info : String) : Reply := .failure "failed" (some info)

/-- The tag of a subscription to add, which needs a name too. -/
def addedTag? (specification : Json) : Option String :=
  if (specification.get? "name").isSome then (specification.get? "tag").bind Json.asString?
  else none

/-- Drop every subscription, or the one of a tag. -/
def dropTraces (d : Daemon) : Option Json → Reply × Daemon
  | none => (.success none, d)
  | some (.bool true) => (.success none, { d with traces := .empty })
  | some specification =>
    let tag := ((specification.get? "tag").bind Json.asString?).getD ""
    if d.traces.contains tag then (.success none, { d with traces := d.traces.erase tag })
    else (refuse "tag not found", d)

/-- Add a subscription and then drop one or all, as is asked. -/
def trace (d : Daemon) (args : Json) : Reply × Daemon :=
  match args.get? "add" with
  | none => d.dropTraces (args.get? "drop")
  | some specification =>
    match addedTag? specification with
    | some tag => { d with traces := d.traces.insert tag () }.dropTraces (args.get? "drop")
    | none => (refuse "invalid add specification", d)

/-- Identifier of the client session. -/
def uuid : String := "5c3f0a60-2f4e-4c4e-9d61-2a3b4c5d6e7f"

/-- Renew the token. -/
def refreshToken (d : Daemon) : Daemon :=
  let refreshes := d.refreshes + 1
  { d with refreshes, token := "TOKEN-" ++ toString refreshes }

/-- What the daemon says of the client session; its reply announces the token too. -/
def sessionReply (d : Daemon) : Reply :=
  let reply := Reply.success (some (.ofFields [("uuid", .string uuid), ("token", .string d.token),
    ("timeout", .int 3600), ("remain", .int 3599)]))
  { reply with request := { reply.request with token := some d.token } }

/-- Tell about the client session, after renewing its token if so wished. -/
def session (d : Daemon) (args : Json) : Reply × Daemon :=
  let refresh := ((args.get? "refresh-token").bind Json.asBool?).getD false
  let d := if refresh then d.refreshToken else d
  (d.sessionReply, d)

/-- The verb of a call, if it is one of the monitoring API. -/
def verb? (apiVerb : String) : Option String := Text.strip? (monitorApi ++ "/") apiVerb

/-- Answer a call. -/
def handle (d : Daemon) (apiVerb : String) (args : Json) : Reply × Daemon :=
  if d.failing.contains apiVerb then (refuse "injected failure", d)
  else
    match verb? apiVerb with
    | some "get" => (.success (some (d.get args)), d)
    | some "set" => (.success none, d.set args)
    | some "trace" => d.trace args
    | some "session" => d.session args
    | _ => (.failure "unknown-verb" (some apiVerb), d)

instance : Peer Daemon where
  answer d apiVerb args :=
    let (reply, d) := d.handle apiVerb args
    (.ok reply, d)

end Daemon

/-- A line to a daemon. -/
def Daemon.line (d : Daemon) : Line Daemon := .new "mock://daemon/api" d

end LiveTrace
