import LiveTrace.Console.Span
/-!
# LiveTrace.Console.View

What the program prints of registries, levels, trace events, client sessions and log entries.
-/

namespace LiveTrace

/-! ## Trace events -/

namespace Tree

mutual

/-- The spans after a row's key or dash. -/
def restSpans (indent : Nat) : Tree → List Span
  | leaf kind text => [.plain [' '], .painted kind.role text, .plain ['\n']]
  | object rows => .plain ['\n'] :: rowSpans indent rows
  | array items => .plain ['\n'] :: itemSpans indent items

/-- The spans of the rows of an object. -/
def rowSpans (indent : Nat) : List (String × Tree) → List Span
  | [] => []
  | (key, t) :: rows =>
    .plain (indentation indent) :: .painted .key key.toList :: .plain [':'] ::
      (restSpans (indent + 2) t ++ rowSpans indent rows)

/-- The spans of the rows of an array. -/
def itemSpans (indent : Nat) : List Tree → List Span
  | [] => []
  | t :: items =>
    .plain (indentation indent) :: .plain ['-'] ::
      (restSpans (indent + 2) t ++ itemSpans indent items)

end

/-- The spans of a tree whose lines are indented. -/
def spans (indent : Nat) : Tree → List Span
  | leaf kind text => [.plain [' '], .painted kind.role text, .plain ['\n']]
  | object rows => rowSpans indent rows
  | array items => itemSpans indent items

end Tree

namespace TraceEvent

/-- Indentation of what a trace event holds. -/
def bodyIndent : Nat := 4

/-- The first line of a trace event: when, what kind, and in a few words what. -/
def header (e : TraceEvent) : List Span :=
  [.text (e.time ++ " " ++ Text.padRight 8 e.variant.kind.key ++ " "),
    .inRole .tag e.variant.text, .text "\n"]

/-- A trace event: its first line, then its descriptor and payload. -/
def spans (e : TraceEvent) (depths : RenderDepths) : List Span :=
  e.header ++ (e.tree depths).spans bodyIndent

end TraceEvent

/-! ## APIs and levels -/

namespace Operation

/-- An operation, and who may use it if that is asked for. -/
def spans (op : Operation) (showPermissions : Bool) : List Span :=
  .text ("    " ++ op.name ++ "  " ++ op.description ++ "\n") ::
    match op.permissions with
    | some p =>
      if showPermissions then [.text ("        permissions: " ++ p.compact ++ "\n")] else []
    | none => []

end Operation

/-- An API with its level on display and its operations. -/
def Api.spans (api : Api) (level : Option VerbosityLevel) (showPermissions : Bool) : List Span :=
  .inRole .key api.name ::
    .text ("  " ++ api.description ++ "  [" ++ (level.map VerbosityLevel.text).getD "-" ++ "]\n") ::
    api.operations.values.flatMap fun op => op.spans showPermissions

/-- Every API. -/
def Registry.spans (r : Registry) (levels : Levels) (showPermissions : Bool) : List Span :=
  if r.apis.isEmpty then [.text "no api\n"]
  else
    r.apis.values.flatMap fun api =>
      api.spans (levels.get? (.api api.name)) showPermissions

/-- The name of a target in a list of levels. -/
def VerbosityTarget.label : VerbosityTarget → String
  | .global => "(daemon)"
  | target => target.text

/-- The confirmed levels, that of the daemon first. -/
def VerbosityState.spans (s : VerbosityState) : List Span :=
  s.confirmed.entries.flatMap fun e =>
    [.column 20 .key e.1.label.toList, .text (" " ++ e.2.text ++ "\n")]

/-! ## Client session and log -/

/-- What the daemon says of the client session. -/
def SessionInfo.spans (i : SessionInfo) : List Span :=
  [("uuid", i.uuid), ("token", i.token), ("timeout", toString i.timeout),
    ("remain", toString i.remain)].flatMap fun e =>
    [.column 8 .key e.1.toList, .text (" " ++ e.2 ++ "\n")]

/-- The role of the tag of a log entry. -/
def LogKind.role : LogKind → Role
  | reterr | error | event => .error
  | call | retok | trace => .tag

/-- A log entry at a time of day. -/
def LogEntry.spans (e : LogEntry) (time : String) : List Span :=
  [.text (time ++ " [" ++ e.kind.name ++ "] "), .inRole e.kind.role e.tag,
    .text ("\n" ++ e.content ++ "\n")]

/-! ## Writing -/

namespace Console

/-- Write a text as an error. -/
def error (c : Console) (text : String) : String := c.write [.inRole .error text]

/-- Write every API with its level on display. -/
def registry (c : Console) (r : Registry) (s : VerbosityState) : String :=
  c.write (r.spans s.displayed c.showPermissions)

/-- Write the confirmed levels. -/
def verbosity (c : Console) (s : VerbosityState) : String := c.write s.spans

/-- Write a trace event. -/
def traceEvent (c : Console) (e : TraceEvent) (depths : RenderDepths) : String :=
  c.write (e.spans depths)

/-- Write what the daemon says of the client session. -/
def sessionInfo (c : Console) (i : SessionInfo) : String := c.write i.spans

/-- Write a log entry at a time of day. -/
def logEntry (c : Console) (e : LogEntry) (time : String) : String := c.write (e.spans time)

end Console

end LiveTrace
