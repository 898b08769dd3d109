import LiveTrace.Channel
import LiveTrace.Daemon
import LiveTrace.Session.Operations
/-!
# LiveTrace.Monitor

Holder of the current session. There is at most one: connecting again abandons the session before,
and a connection that fails leaves none. The channels of earlier sessions stay in view, closed
(`Monitor.past`).
-/

namespace LiveTrace

universe u v

/-- Something that opens channels. -/
class Connector (γ : Type u) (τ : outParam (Type v)) where
  connect : γ → ConnectTarget → Except ChannelError τ

/-- The current session of a client. -/
structure Monitor (γ : Type u) (τ : Type v) where
  connector : γ
  /-- Settings of new sessions. -/
  config : SessionConfig
  session : Option (Session τ)
  /-- Whether the last connection was closed or could not be made. -/
  closed : Bool
  /-- Channels of earlier sessions, oldest first. -/
  past : List τ

namespace Monitor

variable {γ : Type u} {τ : Type v}

/-- No connection was attempted so far. -/
def new (connector : γ) (config : SessionConfig) : Monitor γ τ :=
  ⟨connector, config, none, false, []⟩

/-- State of the connection. -/
def state (m : Monitor γ τ) : ConnectionState :=
  match m.session with
  | some session => session.state
  | none => if m.closed then .closed else .disconnected

variable [Channel τ]

/-- Put a session aside that is done with. -/
def retire (m : Monitor γ τ) (session : Session τ) : Monitor γ τ :=
  { m with session := none, past := m.past ++ [Channel.release session.channel] }

/-- Abandon the current session, if there is one. -/
def abandon (m : Monitor γ τ) : Monitor γ τ :=
  match m.session with
  | some session => m.retire session.abandon
  | none => m

/-- Open a session in place of the current one, which is abandoned first. -/
def connect [Connector γ τ] (m : Monitor γ τ) (target : ConnectTarget) :
    Except MonitorError Unit × Monitor γ τ :=
  let m := m.abandon
  match Connector.connect m.connector target with
  | .error e => (.error (.channel e), { m with closed := true })
  | .ok channel =>
    (.ok (), { m with closed := false, session := some (.opened channel m.config) })

/-- Close the current session, retracting its subscriptions; without one nothing is done. -/
def disconnect (m : Monitor γ τ) : Except MonitorError Unit × Monitor γ τ :=
  match m.session with
  | none => (.ok (), m)
  | some session =>
    let (result, session) := session.close
    (result, { m.retire session with closed := true })

/-- Act on the current session. -/
def withSession {α : Type} (m : Monitor γ τ) (act : Session τ → Except MonitorError α × Session τ) :
    Except MonitorError α × Monitor γ τ :=
  match m.session with
  | none => (.error .notConnected, m)
  | some session =>
    let (result, session) := act session
    (result, { m with session := some session })

omit [Channel τ] in
/-- Every channel that was opened, oldest first. -/
def channels (m : Monitor γ τ) : List τ := m.past ++ (m.session.map Session.channel).toList

end Monitor

/-! ## Connections in memory -/

/-- Opens lines, each to a daemon of its own that starts alike, or refuses to. -/
structure Exchange where
  daemon : Daemon
  /-- Whether connections are refused. -/
  refusing : Bool
  deriving Inhabited

instance : Connector Exchange (Line Daemon) where
  connect x target :=
    if x.refusing then .error (.connect target.url "connection refused") else .ok x.daemon.line

end LiveTrace
