import Mathlib.Data.List.Induction
import LiveTrace.Monitor
import LiveTrace.Proofs.Session.Connection
import LiveTrace.Proofs.Session.Levels
/-!
# LiveTrace.Proofs.Monitor.Channels

**At most one live channel.** A run of a monitor is a list of steps: connecting, whether or not the
connector lets it, disconnecting, and anything that can be done with the current session or happen
to its channel. A step that ends a session closes its channel and puts it away, and no step touches
what was put away (`Monitor.IsStep.past`). So after every run all channels but the current one are
closed (`Monitor.one_live_channel`).
-/

namespace LiveTrace

universe u v w

/-! ### New sessions -/

/-- The APIs after a call that may tell some. -/
def Registry.heed (r : Registry) (monitorApi : String) (e : SettledCall) : Registry :=
  match e.snapshot? monitorApi with
  | some snapshot => (r.merge monitorApi (snapshot.apis.getD [])).2
  | none => r

namespace Session

variable {τ : Type u} [Channel τ]

/-- The call by which a new session asks its daemon what there is. -/
def discovery (channel : τ) (config : SessionConfig) : SettledCall :=
  (new channel config).settledCall "get" discoveryArgs

/-- Nothing was done with a session since it was opened: it has made one call, and what it knows is
what this call told. -/
structure IsFresh (s : Session τ) (channel : τ) (config : SessionConfig) : Prop where
  called : s.channel =
    (Channel.call channel (discovery channel config).apiVerb (discovery channel config).args).2
  traces : ∀ t, s.traces.mode t = .off ∧ s.traces.confirmedMode t = .off
  kept : s.kept.items = []
  registry : s.registry = Registry.empty.heed config.monitorApi (discovery channel config)
  verbosity : s.verbosity =
    VerbosityState.empty.heed config.monitorApi (discovery channel config)

omit [Channel τ] in
theorem registry_mergeApis (s : Session τ) (apis : Option (List (String × ApiDocument))) :
    (s.mergeApis apis).2.registry =
      (s.registry.merge s.options.monitorApi (apis.getD [])).2 := by cases apis <;> rfl

/-- Discovery heeds its call. -/
theorem registry_discover (s : Session τ) :
    s.discover.2.registry =
      s.registry.heed s.options.monitorApi (s.settledCall "get" discoveryArgs) := by
  have hregistry : (s.querySnapshot discoveryArgs).2.registry = s.registry := s.registry_call ..
  have hoptions : (s.querySnapshot discoveryArgs).2.options = s.options := s.options_call ..
  unfold discover Registry.heed
  rw [← querySnapshot_toOption, ← hregistry, ← hoptions]
  rcases s.querySnapshot discoveryArgs with ⟨e | snapshot, s'⟩
  · rfl
  · show ((s'.mergeApis snapshot.apis).2.applyLevels snapshot.verbosity).2.registry = _
    rw [snd_applyLevels]
    exact s'.registry_mergeApis snapshot.apis

theorem isFresh_opened (channel : τ) (config : SessionConfig) :
    (opened channel config).IsFresh channel config where
  called := (new channel config).channel_discover
  traces t := by
    rw [opened, traces_discover]
    exact ⟨rfl, rfl⟩
  kept := congrArg Recent.items (new channel config).kept_discover
  registry := (new channel config).registry_discover
  verbosity := (new channel config).verbosity_discover

end Session

namespace Monitor

variable {γ : Type u} {τ : Type v} {δ : Type w} [Channel τ]

/-! ### Connecting and disconnecting -/

@[simp] theorem session_abandon (m : Monitor γ τ) : m.abandon.session = none := by
  unfold abandon
  cases h : m.session with
  | none => exact h
  | some s => rfl

@[simp] theorem connector_abandon (m : Monitor γ τ) : m.abandon.connector = m.connector := by
  unfold abandon
  cases m.session <;> rfl

@[simp] theorem config_abandon (m : Monitor γ τ) : m.abandon.config = m.config := by
  unfold abandon
  cases m.session <;> rfl

theorem past_abandon (m : Monitor γ τ) :
    m.abandon.past =
      m.past ++ (m.session.map fun s => Channel.release (Channel.close s.channel)).toList := by
  unfold abandon
  cases m.session with
  | none => exact (List.append_nil _).symm
  | some s => rfl

theorem abandon_abandon (m : Monitor γ τ) : m.abandon.abandon = m.abandon := by
  rw [abandon, session_abandon]

/-- Connecting begins with abandoning the session that there is. -/
theorem connect_abandon [Connector γ τ] (m : Monitor γ τ) (target : ConnectTarget) :
    m.abandon.connect target = m.connect target := by
  rw [connect, abandon_abandon, connect]

theorem connect_of_refused [Connector γ τ] {m : Monitor γ τ} {target : ConnectTarget}
    {e : ChannelError} (h : Connector.connect m.connector target = .error e) :
    m.connect target = (.error (.channel e), { m.abandon with closed := true }) := by
  simp [connect, h]

theorem connect_of_accepted [Connector γ τ] {m : Monitor γ τ} {target : ConnectTarget} {c : τ}
    (h : Connector.connect m.connector target = .ok c) :
    m.connect target = (.ok (),
      { m.abandon with closed := false, session := some (.opened c m.config) }) := by
  simp [connect, h]

theorem disconnect_of_none {m : Monitor γ τ} (h : m.session = none) :
    m.disconnect = (.ok (), m) := by rw [disconnect, h]

theorem disconnect_of_some {m : Monitor γ τ} {s : Session τ} (h : m.session = some s) :
    m.disconnect = (s.close.1, { m.retire s.close.2 with closed := true }) := by
  rw [disconnect, h]

@[simp] theorem session_disconnect (m : Monitor γ τ) : m.disconnect.2.session = none := by
  cases h : m.session with
  | none => rw [disconnect_of_none h, h]
  | some s => rw [disconnect_of_some h, retire]

/-- Disconnecting again changes nothing. -/
theorem disconnect_disconnect (m : Monitor γ τ) :
    m.disconnect.2.disconnect = (.ok (), m.disconnect.2) :=
  disconnect_of_none m.session_disconnect

omit [Channel τ] in
theorem snd_withSession {α : Type} (m : Monitor γ τ)
    (act : Session τ → Except MonitorError α × Session τ) :
    (m.withSession act).2 = { m with session := m.session.map fun s => (act s).2 } := by
  unfold withSession
  cases h : m.session with
  | none =>
    show m = { m with session := none }
    rw [← h]
  | some s => rfl

/-! ### Steps -/

/-- What can happen to a monitor. -/
inductive Step (γ : Type u) (δ : Type w)
  | connect (target : ConnectTarget)
  | disconnect
  /-- Do something with the current session. -/
  | act (a : Session.Action)
  /-- Something happens to the current channel. -/
  | disturb (d : δ)
  /-- From now on another connector opens channels, or refuses to. -/
  | reach (connector : γ)

variable [Connector γ τ] [Surroundings δ τ]

/-- A monitor after a step. -/
def step (m : Monitor γ τ) : Step γ δ → Monitor γ τ
  | .connect target => (m.connect target).2
  | .disconnect => m.disconnect.2
  | .act a => (m.withSession fun s => (s.perform a).map .ok id).2
  | .disturb d =>
    { m with session := m.session.map (Session.mapChannel fun c => Surroundings.disturb c d) }
  | .reach connector => { m with connector }

/-- A monitor after a run. -/
def run (m : Monitor γ τ) (steps : List (Step γ δ)) : Monitor γ τ := steps.foldl step m

theorem run_concat (m : Monitor γ τ) (steps : List (Step γ δ)) (e : Step γ δ) :
    m.run (steps ++ [e]) = (m.run steps).step e := List.foldl_append

/-- **What a step comes to.** -/
inductive IsStep (m : Monitor γ τ) : Step γ δ → Monitor γ τ → Prop
  | refused {target : ConnectTarget} {e : ChannelError}
      (h : Connector.connect m.connector target = .error e) :
      IsStep m (.connect target) { m.abandon with closed := true }
  | accepted {target : ConnectTarget} {c : τ}
      (h : Connector.connect m.connector target = .ok c) :
      IsStep m (.connect target)
        { m.abandon with closed := false, session := some (.opened c m.config) }
  | idle (h : m.session = none) : IsStep m .disconnect m
  | closed {s : Session τ} (h : m.session = some s) :
      IsStep m .disconnect { m.retire s.close.2 with closed := true }
  | acted (a : Session.Action) :
      IsStep m (.act a) { m with session := m.session.map fun s => (s.perform a).2 }
  | disturbed (d : δ) :
      IsStep m (.disturb d)
        { m with session := m.session.map (Session.mapChannel fun c => Surroundings.disturb c d) }
  | reached (connector : γ) : IsStep m (.reach connector) { m with connector }

theorem isStep (m : Monitor γ τ) (e : Step γ δ) : m.IsStep e (m.step e) := by
  cases e with
  | connect target =>
    show m.IsStep (.connect target) (m.connect target).2
    cases h : Connector.connect m.connector target with
    | error e =>
      rw [connect_of_refused h]
      exact .refused h
    | ok c =>
      rw [connect_of_accepted h]
      exact .accepted h
  | disconnect =>
    show m.IsStep .disconnect m.disconnect.2
    cases h : m.session with
    | none =>
      rw [disconnect_of_none h]
      exact .idle h
    | some s =>
      rw [disconnect_of_some h]
      exact .closed h
  | act a =>
    show m.IsStep (.act a) (m.withSession _).2
    rw [snd_withSession]
    exact .acted a
  | disturb d => exact .disturbed d
  | reach connector => exact .reached connector

/-- What holds at first and is kept by every step holds after the run. -/
theorem run_induction {motive : Monitor γ τ → Prop} {m : Monitor γ τ} (start : motive m)
    (keep : ∀ {m m' : Monitor γ τ} {e : Step γ δ}, m.IsStep e m' → motive m → motive m')
    (steps : List (Step γ δ)) : motive (m.run steps) := by
  induction steps generalizing m with
  | nil => exact start
  | cons e rest ih => exact ih (keep (m.isStep e) start)

namespace IsStep

variable {m m' : Monitor γ τ} {e : Step γ δ}

theorem config (h : m.IsStep e m') : m'.config = m.config := by
  cases h with
  | refused | accepted => exact m.config_abandon
  | idle | closed | acted | disturbed | reached => rfl

/-- **A step that ends a session puts its channel away closed**, and nothing else happens to the
channels that were put away. -/
theorem past (h : m.IsStep e m') :
    m'.past = m.past ∨ ∃ c, m'.past = m.past ++ [Channel.release (Channel.close c)] := by
  have habandon : m.abandon.past = m.past ∨
      ∃ c, m.abandon.past = m.past ++ [Channel.release (Channel.close c)] := by
    rw [past_abandon]
    cases m.session with
    | none => exact .inl (List.append_nil _)
    | some s => exact .inr ⟨s.channel, rfl⟩
  cases h with
  | refused | accepted => exact habandon
  | @closed s =>
    refine .inr ⟨if s.state = .closed then s.channel else s.untraceAll.2.channel, ?_⟩
    rw [← s.channel_close]
    rfl
  | idle | acted | disturbed | reached => exact .inl rfl

end IsStep

/-! ### Channels in view -/

omit [Channel τ] [Connector γ τ] [Surroundings δ τ] in
theorem length_channels (m : Monitor γ τ) :
    m.channels.length = m.past.length + m.session.isSome.toNat := by
  rw [channels]
  cases m.session <;> simp

omit [Connector γ τ] [Surroundings δ τ] in
theorem length_past_abandon (m : Monitor γ τ) : m.abandon.past.length = m.channels.length := by
  rw [past_abandon, length_channels]
  cases m.session <;> simp

/-- Whether a step opens a channel. -/
def opens (m : Monitor γ τ) : Step γ δ → Bool
  | .connect target => (Connector.connect m.connector target).isOk
  | _ => false

/-- How many channels a run opens. -/
def openings (m : Monitor γ τ) : List (Step γ δ) → Nat
  | [] => 0
  | e :: rest => (m.opens e).toNat + (m.step e).openings rest

/-- Every channel that is opened stays in view. -/
theorem IsStep.length_channels {m m' : Monitor γ τ} {e : Step γ δ} (h : m.IsStep e m') :
    m'.channels.length = m.channels.length + (m.opens e).toNat := by
  rw [m'.length_channels]
  cases h with
  | refused h => simp [opens, h, Except.isOk, Except.toBool, length_past_abandon]
  | accepted h => simp [opens, h, Except.isOk, Except.toBool, length_past_abandon]
  | idle => simp [opens, m.length_channels]
  | closed h => simp [opens, m.length_channels, retire, h]
  | acted | disturbed | reached => simp [opens, m.length_channels]

theorem length_channels_run (m : Monitor γ τ) (steps : List (Step γ δ)) :
    (m.run steps).channels.length = m.channels.length + m.openings steps := by
  induction steps generalizing m with
  | nil => rfl
  | cons e rest ih =>
    show ((m.step e).run rest).channels.length = _
    rw [ih, (m.isStep e).length_channels, openings, Nat.add_assoc]

theorem config_run (m : Monitor γ τ) (steps : List (Step γ δ)) :
    (m.run steps).config = m.config :=
  run_induction (motive := fun m' => m'.config = m.config) rfl (fun h ih => h.config.trans ih) steps

/-- What was put away stays as it is. -/
theorem past_prefix_run (m : Monitor γ τ) (steps : List (Step γ δ)) :
    m.past <+: (m.run steps).past := by
  refine run_induction (motive := fun m' => m.past <+: m'.past) List.prefix_rfl
    (fun h ih => ?_) steps
  rcases h.past with h | ⟨c, h⟩
  · rwa [h]
  · rw [h]
    exact ih.trans (List.prefix_append _ _)

/-- What holds of closed channels holds of all that were put away. -/
theorem forall_past_run {P : τ → Prop} (hclosed : ∀ c, P (Channel.release (Channel.close c)))
    {m : Monitor γ τ} (hm : ∀ c ∈ m.past, P c) (steps : List (Step γ δ)) :
    ∀ c ∈ (m.run steps).past, P c := by
  refine run_induction (motive := fun m' => ∀ c ∈ m'.past, P c) hm (fun h ih c hc => ?_) steps
  rcases h.past with h | ⟨c', h⟩
  · rw [h] at hc
    exact ih c hc
  · rw [h, List.mem_append, List.mem_singleton] at hc
    rcases hc with hc | rfl
    · exact ih c hc
    · exact hclosed c'

/-! ### The state of the connection -/

/-- The current session, if there is one, was connected to a daemon. -/
def Started (m : Monitor γ τ) : Prop := ∀ s, m.session = some s → s.state ≠ .disconnected

/-- There is no session, and no connection was closed or refused. -/
def Untouched (m : Monitor γ τ) : Prop := m.session = none ∧ m.closed = false

omit [Channel τ] [Connector γ τ] [Surroundings δ τ] in
theorem state_eq_disconnected_iff {m : Monitor γ τ} (h : m.Started) :
    m.state = .disconnected ↔ m.Untouched := by
  unfold state Untouched
  cases hsession : m.session with
  | none => cases m.closed <;> simp
  | some s => simp [h s hsession]

omit [Channel τ] [Connector γ τ] [Surroundings δ τ] in
theorem state_of_closed {m : Monitor γ τ} (hsession : m.session = none) (hclosed : m.closed = true) :
    m.state = .closed := by
  rw [state, hsession, hclosed]
  rfl

namespace IsStep

variable {m m' : Monitor γ τ} {e : Step γ δ}

theorem started (h : m.IsStep e m') (hm : m.Started) : m'.Started := by
  intro s hs
  cases h with
  | refused => exact absurd hs (by simp)
  | @accepted target c =>
    cases hs
    exact Session.state_opened_ne c m.config
  | idle => exact hm s hs
  | closed => cases hs
  | acted a =>
    obtain ⟨s, hsession, rfl⟩ := Option.map_eq_some_iff.1 hs
    rcases Session.Onward.perform s a with h | h
    · rw [h]
      exact hm s hsession
    · rw [h]
      nofun
  | disturbed d =>
    obtain ⟨s, hsession, rfl⟩ := Option.map_eq_some_iff.1 hs
    exact hm s hsession
  | reached => exact hm s hs

/-- Connecting leaves its mark, and nothing else does. -/
theorem untouched_iff (h : m.IsStep e m') :
    m'.Untouched ↔ m.Untouched ∧ ∀ target, e ≠ .connect target := by
  cases h with
  | refused | accepted => simp [Untouched]
  | closed h => simp [Untouched, h]
  | idle | acted | disturbed | reached => simp [Untouched]

end IsStep

theorem started_run {m : Monitor γ τ} (hm : m.Started) (steps : List (Step γ δ)) :
    (m.run steps).Started := run_induction hm (fun h ih => h.started ih) steps

theorem untouched_run_iff (m : Monitor γ τ) (steps : List (Step γ δ)) :
    (m.run steps).Untouched ↔ m.Untouched ∧ ∀ target, .connect target ∉ steps := by
  induction steps using List.reverseRecOn with
  | nil => simp [run]
  | append_singleton steps e ih =>
    rw [run_concat, ((m.run steps).isStep e).untouched_iff, ih]
    simp only [List.mem_append, List.mem_singleton, not_or, forall_and, and_assoc, ne_eq,
      eq_comm]

/-! ### Lines -/

section Lines

variable {β : Type v} [Peer β] [Connector γ (Line β)] [Surroundings δ (Line β)]

/-- How a monitor connects to a target: the current channel is put away first, closed and otherwise
as it is, and then a new session takes its place, or none. -/
structure ConnectsAnew (m : Monitor γ (Line β)) (target : ConnectTarget) : Prop where
  abandons : m.abandon.session = none ∧ m.connect target = m.abandon.connect target
  closes : ∀ l ∈ m.abandon.channels, l.closed = true
  silent : ∀ s, m.session = some s → ∃ l, m.abandon.past = m.past ++ [l] ∧
    l.calls = s.channel.calls ∧ l.peer = s.channel.peer
  refused : ∀ e, Connector.connect m.connector target = .error e →
    (m.connect target).1 = .error (.channel e) ∧ (m.connect target).2.session = none ∧
      (m.connect target).2.state = .closed
  accepted : ∀ l, Connector.connect m.connector target = .ok l →
    (m.connect target).1 = .ok () ∧
      ∃ s, (m.connect target).2.session = some s ∧ s.IsFresh l m.config

theorem connectsAnew {m : Monitor γ (Line β)} (hpast : ∀ l ∈ m.past, l.closed = true)
    (target : ConnectTarget) : m.ConnectsAnew target where
  abandons := ⟨m.session_abandon, (m.connect_abandon target).symm⟩
  closes := by
    intro l hl
    rw [channels, past_abandon, session_abandon, Option.map_none, Option.toList_none,
      List.append_nil, List.mem_append] at hl
    rcases hl with hl | hl
    · exact hpast l hl
    · obtain ⟨s, -, rfl⟩ := Option.map_eq_some_iff.1 (Option.mem_toList.1 hl)
      rfl
  silent := by
    intro s hs
    rw [past_abandon, hs]
    exact ⟨_, rfl, rfl, rfl⟩
  refused := by
    intro e h
    rw [connect_of_refused h]
    exact ⟨rfl, m.session_abandon, state_of_closed m.session_abandon rfl⟩
  accepted := by
    intro l h
    rw [connect_of_accepted h]
    exact ⟨rfl, _, rfl, Session.isFresh_opened l m.config⟩

/-- **At most one live channel.** After any run of a monitor that starts without a session, be its
connections accepted or refused and whatever is done with its sessions or happens to their channels:
every channel that was opened is in view, all but that of the current session are closed, and those
stay as they are. Connecting puts the current channel away before it opens another; after a refusal
there is no session and the state is closed, and otherwise the new session knows only what its own
first call told. The state is disconnected until something is connected to. Disconnecting leaves no
session and, once something was connected to, a closed state; before that it does nothing, and
neither does disconnecting twice. The beginning of a run is one too, so this holds at every point. -/
theorem one_live_channel (x : γ) (config : SessionConfig) (steps : List (Step γ δ)) :
    let start : Monitor γ (Line β) := new x config
    let m := start.run steps
    m.channels.length = start.openings steps ∧ (∀ l ∈ m.past, l.closed = true) ∧
      (∀ more : List (Step γ δ), m.past <+: (m.run more).past) ∧
      m.config = config ∧ (∀ target, m.ConnectsAnew target) ∧
      (m.state = .disconnected ↔ ∀ target, .connect target ∉ steps) ∧
      m.disconnect.2.session = none ∧
      ((∃ target, .connect target ∈ steps) → m.disconnect.2.state = .closed) ∧
      ((∀ target, .connect target ∉ steps) → m.disconnect = (.ok (), m)) ∧
      m.disconnect.2.disconnect = (.ok (), m.disconnect.2) := by
  intro start m
  have hpast : ∀ l ∈ m.past, l.closed = true := forall_past_run (fun _ => rfl) nofun steps
  have huntouched : m.Untouched ↔ ∀ target, .connect target ∉ steps := by
    have h := start.untouched_run_iff steps
    rwa [and_iff_right (show start.Untouched from ⟨rfl, rfl⟩)] at h
  refine ⟨?_, hpast, m.past_prefix_run, start.config_run steps, connectsAnew hpast, ?_,
    m.session_disconnect, ?_, ?_, m.disconnect_disconnect⟩
  · have hcount := start.length_channels_run steps
    rwa [show start.channels.length = 0 from rfl, Nat.zero_add] at hcount
  · have hstarted : start.Started := by
      intro s hs
      cases hs
    rw [state_eq_disconnected_iff (started_run hstarted steps)]
    exact huntouched
  · rintro ⟨target, hmem⟩
    have hclosed : m.session = none → m.closed = true := by
      intro hnone
      refine eq_true_of_ne_false fun hopen => ?_
      exact huntouched.1 ⟨hnone, hopen⟩ target hmem
    refine state_of_closed m.session_disconnect ?_
    cases hsession : m.session with
    | none =>
      rw [disconnect_of_none hsession]
      exact hclosed hsession
    | some s => rw [disconnect_of_some hsession]
  · intro hnever
    exact disconnect_of_none (huntouched.2 hnever).1

end Lines

/-- A session that is replaced is not asked to retract anything. -/
theorem one_live_channel_replaced :
    let tag : TraceTag := ⟨some "calc", .request⟩
    let mode := (TraceMode.ofName? "all").getD .off
    let steps : List (Step Exchange Empty) :=
      [.connect (.new "localhost" none), .act (.trace (.select tag mode)),
        .connect (.new "localhost" none)]
    let m : Monitor Exchange (Line Daemon) := (new ⟨.calculator, false⟩ .default).run steps
    m.channels.length = 2 ∧ (∀ l ∈ m.past, l.closed = true) ∧
      m.past.map (fun l => l.calls.map Prod.fst) = [["monitor/get", "monitor/trace"]] ∧
      m.past.map (fun l => l.peer.traceTags) = [["calc/request"]] ∧
      m.disconnect.2.state = .closed := by
  intro tag mode steps m
  obtain ⟨hcount, hpast, -, -, -, -, -, hclosed, -⟩ :=
    one_live_channel (β := Daemon) (⟨.calculator, false⟩ : Exchange) .default steps
  refine ⟨hcount.trans (by decide +kernel), hpast, by decide +kernel, by decide +kernel,
    hclosed ⟨_, List.mem_cons_self⟩⟩

/-- Disconnecting does not close a monitor that never tried to connect. -/
theorem disconnect_unconnected :
    ¬ ∀ steps : List (Step Exchange Empty),
      ((new ⟨.calculator, false⟩ .default : Monitor Exchange (Line Daemon)).run
        steps).disconnect.2.state = .closed := by
  intro h
  have hnever := h []
  contradiction

end Monitor

end LiveTrace
