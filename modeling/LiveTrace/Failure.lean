import LiveTrace.Wire.Reply
/-!
# LiveTrace.Failure

What can go wrong, and what the operator is told. The channel may fail (`ChannelError`), a call may
not succeed (`CallFailure`), and an operation of the monitor may be refused (`MonitorError`).
-/

namespace LiveTrace

/-- Failures of the channel to the daemon. -/
inductive ChannelError
  /-- The channel could not be opened. -/
  | connect (url reason : String)
  /-- The channel is closed; pending and later calls cannot complete. -/
  | closed
  /-- A message could not be written. -/
  | send (reason : String)
  /-- The daemon does not follow the protocol. -/
  | violation (reason : String)
  deriving DecidableEq, Inhabited

/-- What the operator is told. -/
def ChannelError.message : ChannelError → String
  | connect url reason => "failed to connect to " ++ url ++ ": " ++ reason
  | closed => "connection closed"
  | send reason => "failed to send frame: " ++ reason
  | violation reason => "protocol violation: " ++ reason

/-- The outcome of a call at the level of the channel: a reply, be it accepting or refusing, or a
failure of the channel itself. -/
abbrev Settlement := Except ChannelError Reply

/-- Why a call did not succeed. -/
inductive CallFailure
  /-- The daemon refused. -/
  | rejected (reply : Reply)
  /-- The channel failed before a reply arrived. -/
  | channel (error : ChannelError)
  deriving Inhabited

namespace CallFailure

/-- Status and explanation of a refusal. -/
def describe (r : ReplyRequest) : String :=
  match r.info with
  | some info => r.status ++ " (" ++ info ++ ")"
  | none => r.status

/-- What the operator is told. -/
def message : CallFailure → String
  | rejected reply => "request rejected: " ++ describe reply.request
  | channel error => error.message

/-- Whether the channel itself is gone. -/
def isClosed : CallFailure → Bool
  | channel .closed => true
  | _ => false

end CallFailure

/-- Failures of operations. -/
inductive MonitorError
  /-- No session is open. -/
  | notConnected
  /-- A text is not a trace tag. -/
  | invalidTag (text : String)
  /-- A text is not a trace mode. -/
  | invalidMode (text : String)
  /-- A text is not a verbosity level. -/
  | invalidLevel (text : String)
  /-- A text is not a verbosity target. -/
  | invalidTarget (text : String)
  /-- A call did not succeed. -/
  | call (failure : CallFailure)
  /-- The body of an accepted reply does not have the expected form. -/
  | response (apiVerb reason : String)
  /-- The channel could not be opened. -/
  | channel (error : ChannelError)
  deriving Inhabited

/-- What the operator is told. -/
def MonitorError.message : MonitorError → String
  | notConnected => "not connected"
  | invalidTag s => "invalid trace tag '" ++ s ++ "', expected <api-or-*>/<category>"
  | invalidMode s => "invalid trace mode '" ++ s ++ "'"
  | invalidLevel s => "invalid verbosity level '" ++ s ++ "'"
  | invalidTarget s => "invalid verbosity target '" ++ s ++ "', expected an api name, '*' or '-'"
  | call failure => failure.message
  | response apiVerb reason => "unexpected response to " ++ apiVerb ++ ": " ++ reason
  | channel error => error.message

end LiveTrace
