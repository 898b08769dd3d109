import LiveTrace.Proofs.Session.Action
/-!
# LiveTrace.Proofs.Session.Frame

**What an operation leaves alone, and what becomes of the channel.** A call touches the channel, the
log and the connection state only (`Session.call_frame`), and every other operation that talks to
the daemon is made of calls. So for each part of a session there is a lemma for each operation that
does not change it, and for each operation a lemma that gives the channel afterwards in terms of
what the calls do to it. Later proofs use these and never open an operation for a part that it does
not concern. What a channel keeps under everything that can be done with it, it keeps throughout
every run (`Session.Keeps.run`).
-/

namespace LiveTrace

universe u v

namespace Session

variable {τ : Type u}

/-! ### The log -/

@[simp] theorem traces_log (s : Session τ) (e : LogEntry) : (s.log e).traces = s.traces := rfl

@[simp] theorem verbosity_log (s : Session τ) (e : LogEntry) :
    (s.log e).verbosity = s.verbosity := rfl

@[simp] theorem options_log (s : Session τ) (e : LogEntry) : (s.log e).options = s.options := rfl

@[simp] theorem channel_log (s : Session τ) (e : LogEntry) : (s.log e).channel = s.channel := rfl

/-! ### Pushed events -/

@[simp] theorem traces_note (s : Session τ) (c : Classification) :
    (s.note c).traces = s.traces := by cases c <;> rfl

@[simp] theorem verbosity_note (s : Session τ) (c : Classification) :
    (s.note c).verbosity = s.verbosity := by cases c <;> rfl

@[simp] theorem options_note (s : Session τ) (c : Classification) :
    (s.note c).options = s.options := by cases c <;> rfl

@[simp] theorem channel_note (s : Session τ) (c : Classification) :
    (s.note c).channel = s.channel := by cases c <;> rfl

@[simp] theorem traces_handlePush (s : Session τ) (p : PushEvent) :
    (s.handlePush p).2.traces = s.traces := by simp [handlePush]

@[simp] theorem verbosity_handlePush (s : Session τ) (p : PushEvent) :
    (s.handlePush p).2.verbosity = s.verbosity := by simp [handlePush]

@[simp] theorem options_handlePush (s : Session τ) (p : PushEvent) :
    (s.handlePush p).2.options = s.options := by simp [handlePush]

@[simp] theorem channel_handlePush (s : Session τ) (p : PushEvent) :
    (s.handlePush p).2.channel = s.channel := by simp [handlePush]

variable [Channel τ]

/-! ### Calls -/

omit [Channel τ] in
theorem apiVerb_of_named {s : Session τ} (h : s.options.monitorApi = "monitor") (verb : String) :
    s.apiVerb verb = "monitor/" ++ verb := by
  rw [apiVerb, h]
  rfl

/-- Noting that the channel is closed touches the log and the state only. -/
theorem markClosed_frame (s : Session τ) :
    ∃ feed state, s.markClosed =
      { s with caller := ⟨s.channel, feed⟩, state := state } := by
  unfold markClosed
  split
  · exact ⟨s.feed, s.state, rfl⟩
  · exact ⟨_, .closed, rfl⟩

@[simp] theorem channel_markClosed (s : Session τ) : s.markClosed.channel = s.channel := by
  obtain ⟨feed, state, h⟩ := s.markClosed_frame
  rw [h]
  rfl

@[simp] theorem traces_markClosed (s : Session τ) : s.markClosed.traces = s.traces := by
  obtain ⟨feed, state, h⟩ := s.markClosed_frame
  rw [h]

@[simp] theorem verbosity_markClosed (s : Session τ) : s.markClosed.verbosity = s.verbosity := by
  obtain ⟨feed, state, h⟩ := s.markClosed_frame
  rw [h]

@[simp] theorem options_markClosed (s : Session τ) : s.markClosed.options = s.options := by
  obtain ⟨feed, state, h⟩ := s.markClosed_frame
  rw [h]

/-- The outcome of a call is what the channel says, and the session is told apart from it only by
its channel, its log and its connection state. -/
theorem call_frame (s : Session τ) (verb : String) (args : Json) :
    (s.call verb args).1 =
        (Caller.outcome (Channel.call s.channel (s.apiVerb verb) args).1).mapError .call ∧
      ∃ feed state, (s.call verb args).2 =
        { s with
          caller := ⟨(Channel.call s.channel (s.apiVerb verb) args).2, feed⟩
          state := state } := by
  have hcall : (s.caller.call (s.apiVerb verb) args).1 =
      Caller.outcome (Channel.call s.channel (s.apiVerb verb) args).1 := rfl
  have hchannel : (s.caller.call (s.apiVerb verb) args).2.channel =
      (Channel.call s.channel (s.apiVerb verb) args).2 := rfl
  unfold call
  rw [← hcall, ← hchannel]
  rcases s.caller.call (s.apiVerb verb) args with ⟨_ | reply, caller⟩
  · rename_i failure
    refine ⟨rfl, ?_⟩
    -- a failure tells whether the channel is closed, which is noted once
    by_cases hclosed : failure.isClosed = true
    · simp only [hclosed, if_true]
      exact markClosed_frame { s with caller }
    · simp only [hclosed]
      exact ⟨caller.feed, s.state, rfl⟩
  · exact ⟨rfl, caller.feed, s.state, rfl⟩

/-- The result of a call is told by the channel. -/
theorem fst_call (s : Session τ) (verb : String) (args : Json) :
    (s.call verb args).1 =
      (Caller.outcome (Channel.call s.channel (s.apiVerb verb) args).1).mapError .call :=
  (s.call_frame verb args).1

theorem isOk_call (s : Session τ) (verb : String) (args : Json) :
    (s.call verb args).1.isOk =
      (Caller.outcome (Channel.call s.channel (s.apiVerb verb) args).1).isOk := by
  rw [fst_call]
  cases Caller.outcome (Channel.call s.channel (s.apiVerb verb) args).1 <;> rfl

theorem channel_call (s : Session τ) (verb : String) (args : Json) :
    (s.call verb args).2.channel = (Channel.call s.channel (s.apiVerb verb) args).2 := by
  obtain ⟨-, feed, state, h⟩ := s.call_frame verb args
  rw [h]
  rfl

@[simp] theorem traces_call (s : Session τ) (verb : String) (args : Json) :
    (s.call verb args).2.traces = s.traces := by
  obtain ⟨-, feed, state, h⟩ := s.call_frame verb args
  rw [h]

@[simp] theorem verbosity_call (s : Session τ) (verb : String) (args : Json) :
    (s.call verb args).2.verbosity = s.verbosity := by
  obtain ⟨-, feed, state, h⟩ := s.call_frame verb args
  rw [h]

@[simp] theorem options_call (s : Session τ) (verb : String) (args : Json) :
    (s.call verb args).2.options = s.options := by
  obtain ⟨-, feed, state, h⟩ := s.call_frame verb args
  rw [h]

@[simp] theorem registry_call (s : Session τ) (verb : String) (args : Json) :
    (s.call verb args).2.registry = s.registry := by
  obtain ⟨-, feed, state, h⟩ := s.call_frame verb args
  rw [h]

@[simp] theorem kept_call (s : Session τ) (verb : String) (args : Json) :
    (s.call verb args).2.kept = s.kept := by
  obtain ⟨-, feed, state, h⟩ := s.call_frame verb args
  rw [h]

/-! ### Queries -/

@[simp] theorem snd_querySnapshot (s : Session τ) (args : Json) :
    (s.querySnapshot args).2 = (s.call "get" args).2 := rfl

@[simp] theorem snd_sessionInfo (s : Session τ) (refreshToken : Bool) :
    (s.sessionInfo refreshToken).2 =
      (s.call "session" (.object [("refresh-token", .bool refreshToken)])).2 := rfl

/-- Taking over a document changes the registry and the levels only. -/
theorem discover_frame (s : Session τ) :
    ∃ feed registry verbosity, s.discover.2 =
      { (s.call "get" discoveryArgs).2 with
        caller := ⟨(s.call "get" discoveryArgs).2.channel, feed⟩
        registry := registry
        verbosity := verbosity } := by
  rw [← snd_querySnapshot]
  unfold discover
  rcases s.querySnapshot discoveryArgs with ⟨e | snapshot, s'⟩
  · exact ⟨_, s'.registry, s'.verbosity, rfl⟩
  · obtain ⟨apis, levels⟩ := snapshot
    refine ⟨s'.feed, ?_⟩
    cases apis <;> cases levels <;> exact ⟨_, _, rfl⟩

@[simp] theorem traces_discover (s : Session τ) : s.discover.2.traces = s.traces := by
  obtain ⟨feed, registry, verbosity, h⟩ := s.discover_frame
  rw [h]
  exact s.traces_call ..

@[simp] theorem options_discover (s : Session τ) : s.discover.2.options = s.options := by
  obtain ⟨feed, registry, verbosity, h⟩ := s.discover_frame
  rw [h]
  exact s.options_call ..

@[simp] theorem kept_discover (s : Session τ) : s.discover.2.kept = s.kept := by
  obtain ⟨feed, registry, verbosity, h⟩ := s.discover_frame
  rw [h]
  exact s.kept_call ..

theorem channel_discover (s : Session τ) :
    s.discover.2.channel = (Channel.call s.channel (s.apiVerb "get") discoveryArgs).2 := by
  obtain ⟨feed, registry, verbosity, h⟩ := s.discover_frame
  rw [h]
  exact s.channel_call ..

/-- Reading the levels back changes the levels only. -/
theorem refreshVerbosity_frame (s : Session τ) :
    ∃ verbosity, s.refreshVerbosity.2 =
      { (s.call "get" levelsArgs).2 with verbosity := verbosity } := by
  rw [← snd_querySnapshot]
  unfold refreshVerbosity
  rcases s.querySnapshot levelsArgs with ⟨e | snapshot, s'⟩
  · exact ⟨s'.verbosity, rfl⟩
  · obtain ⟨apis, levels⟩ := snapshot
    cases levels <;> exact ⟨_, rfl⟩

@[simp] theorem traces_refreshVerbosity (s : Session τ) :
    s.refreshVerbosity.2.traces = s.traces := by
  obtain ⟨verbosity, h⟩ := s.refreshVerbosity_frame
  rw [h]
  exact s.traces_call ..

@[simp] theorem options_refreshVerbosity (s : Session τ) :
    s.refreshVerbosity.2.options = s.options := by
  obtain ⟨verbosity, h⟩ := s.refreshVerbosity_frame
  rw [h]
  exact s.options_call ..

theorem channel_refreshVerbosity (s : Session τ) :
    s.refreshVerbosity.2.channel = (Channel.call s.channel (s.apiVerb "get") levelsArgs).2 := by
  obtain ⟨verbosity, h⟩ := s.refreshVerbosity_frame
  rw [h]
  exact s.channel_call ..

/-! ### Setting a level -/

/-- Under a guard nothing is sent. -/
theorem setVerbosity_of_isHeld (s : Session τ) (h : s.verbosity.isHeld = true)
    (target : VerbosityTarget) (level : VerbosityLevel) :
    s.setVerbosity target level =
      (.ok (), { s with verbosity := (s.verbosity.select target level).2 }) := by
  unfold setVerbosity VerbosityState.select
  rw [if_pos h]

/-- A session that asks for a level: the level is pending. -/
def asking (s : Session τ) (target : VerbosityTarget) (level : VerbosityLevel) : Session τ :=
  { s with verbosity := { s.verbosity with
      pending := s.verbosity.pending.insert target level } }

/-- A session that has called for a level, and has not read the levels back so far. -/
def asked (s : Session τ) (target : VerbosityTarget) (level : VerbosityLevel) : Session τ :=
  ((s.asking target level).call "set" (VerbosityCommand.args ⟨target, level⟩)).2

@[simp] theorem options_asked (s : Session τ) (target : VerbosityTarget) (level : VerbosityLevel) :
    (s.asked target level).options = s.options := (s.asking target level).options_call ..

@[simp] theorem apiVerb_asked (s : Session τ) (target : VerbosityTarget) (level : VerbosityLevel)
    (verb : String) : (s.asked target level).apiVerb verb = s.apiVerb verb := by
  rw [apiVerb, options_asked, apiVerb]

/-- Without a guard the level is pending while it is sent and everything is read back. -/
theorem setVerbosity_of_not_isHeld (s : Session τ) (h : ¬ s.verbosity.isHeld = true)
    (target : VerbosityTarget) (level : VerbosityLevel) :
    (s.setVerbosity target level).2 =
      let refreshed := ((s.asking target level).call "set"
        (VerbosityCommand.args ⟨target, level⟩)).2.refreshVerbosity.2
      { refreshed with verbosity := (refreshed.verbosity.settle target).2 } := by
  unfold setVerbosity VerbosityState.select
  rw [if_neg h]
  -- the result depends on how the write went, the session does not
  rcases hset : (s.asking target level).call "set" (VerbosityCommand.args ⟨target, level⟩) with
    ⟨e | r, s'⟩ <;> unfold asking at hset <;> simp only [hset]

/-- The first failure of the two calls is the result. -/
theorem fst_setVerbosity_of_not_isHeld (s : Session τ) (h : ¬ s.verbosity.isHeld = true)
    (target : VerbosityTarget) (level : VerbosityLevel) :
    (s.setVerbosity target level).1 =
      let written := (s.asking target level).call "set" (VerbosityCommand.args ⟨target, level⟩)
      written.1.bind fun _ => written.2.refreshVerbosity.1.map fun _ => () := by
  unfold setVerbosity VerbosityState.select
  rw [if_neg h]
  rcases hset : (s.asking target level).call "set" (VerbosityCommand.args ⟨target, level⟩) with
    ⟨e | r, s'⟩ <;> unfold asking at hset <;> simp only [hset] <;> rfl

@[simp] theorem traces_setVerbosity (s : Session τ) (target : VerbosityTarget)
    (level : VerbosityLevel) : (s.setVerbosity target level).2.traces = s.traces := by
  by_cases h : s.verbosity.isHeld = true
  · rw [s.setVerbosity_of_isHeld h]
  · rw [s.setVerbosity_of_not_isHeld h]
    simp [asking]

@[simp] theorem options_setVerbosity (s : Session τ) (target : VerbosityTarget)
    (level : VerbosityLevel) : (s.setVerbosity target level).2.options = s.options := by
  by_cases h : s.verbosity.isHeld = true
  · rw [s.setVerbosity_of_isHeld h]
  · rw [s.setVerbosity_of_not_isHeld h]
    simp [asking]

/-! ### Waiting for events -/

/-- Waiting for an event takes it from the channel. -/
theorem nextEvent_frame (s : Session τ) :
    ∃ feed kept state, s.nextEvent.2 =
      { s with
        caller := ⟨(Channel.receive s.channel).2, feed⟩
        kept := kept
        state := state } := by
  unfold nextEvent
  rcases Channel.receive s.channel with ⟨push | _ | _, c⟩
  · simp only [handlePush]
    cases Classification.ofPush (s.mapChannel fun _ => c).options push <;> exact ⟨_, _, _, rfl⟩
  · obtain ⟨feed, state, h⟩ := (s.mapChannel fun _ => c).markClosed_frame
    exact ⟨feed, s.kept, state, h⟩
  · exact ⟨_, _, _, rfl⟩

@[simp] theorem traces_nextEvent (s : Session τ) : s.nextEvent.2.traces = s.traces := by
  obtain ⟨feed, kept, state, h⟩ := s.nextEvent_frame
  rw [h]

@[simp] theorem verbosity_nextEvent (s : Session τ) : s.nextEvent.2.verbosity = s.verbosity := by
  obtain ⟨feed, kept, state, h⟩ := s.nextEvent_frame
  rw [h]

@[simp] theorem options_nextEvent (s : Session τ) : s.nextEvent.2.options = s.options := by
  obtain ⟨feed, kept, state, h⟩ := s.nextEvent_frame
  rw [h]

theorem channel_nextEvent (s : Session τ) :
    s.nextEvent.2.channel = (Channel.receive s.channel).2 := by
  obtain ⟨feed, kept, state, h⟩ := s.nextEvent_frame
  rw [h]
  rfl

/-! ### Trace commands -/

theorem fst_sendCommand (s : Session τ) (c : TraceCommand) :
    (s.sendCommand c).1 = (s.call "trace" c.args).1.map fun _ => () := by
  unfold sendCommand
  rcases s.call "trace" c.args with ⟨e | r, s'⟩ <;> rfl

/-- A command is noted as acknowledged if and only if its call is accepted. -/
theorem snd_sendCommand (s : Session τ) (c : TraceCommand) :
    (s.sendCommand c).2 =
      { (s.call "trace" c.args).2 with
        traces := if (s.call "trace" c.args).1.isOk then s.traces.confirm c else s.traces } := by
  have htraces := s.traces_call "trace" c.args
  unfold sendCommand
  generalize s.call "trace" c.args = p at htraces ⊢
  rw [← htraces]
  obtain ⟨e | r, s'⟩ := p <;> rfl

theorem fst_untraceAll (s : Session τ) :
    s.untraceAll.1 = (s.call "trace" TraceCommand.dropAll.args).1.map fun _ => () := by
  unfold untraceAll
  rcases s.call "trace" TraceCommand.dropAll.args with ⟨e | r, s'⟩ <;> rfl

/-- Retracting everything displays every tag as off, and notes it if the call is accepted. -/
theorem snd_untraceAll (s : Session τ) :
    s.untraceAll.2 =
      { (s.call "trace" TraceCommand.dropAll.args).2 with
        traces := if (s.call "trace" TraceCommand.dropAll.args).1.isOk
          then s.traces.resetAll.confirm .dropAll else s.traces.resetAll } := by
  have htraces := s.traces_call "trace" TraceCommand.dropAll.args
  unfold untraceAll
  generalize s.call "trace" TraceCommand.dropAll.args = p at htraces ⊢
  rw [← htraces]
  obtain ⟨e | r, s'⟩ := p <;> rfl

theorem traces_sendCommand (s : Session τ) (c : TraceCommand) :
    (s.sendCommand c).2.traces =
      if (s.call "trace" c.args).1.isOk then s.traces.confirm c else s.traces :=
  congrArg Session.traces (s.snd_sendCommand c)

theorem traces_untraceAll (s : Session τ) :
    s.untraceAll.2.traces =
      if (s.call "trace" TraceCommand.dropAll.args).1.isOk
        then s.traces.resetAll.confirm .dropAll else s.traces.resetAll :=
  congrArg Session.traces s.snd_untraceAll

@[simp] theorem verbosity_sendCommand (s : Session τ) (c : TraceCommand) :
    (s.sendCommand c).2.verbosity = s.verbosity := by
  rw [snd_sendCommand]
  exact s.verbosity_call ..

@[simp] theorem options_sendCommand (s : Session τ) (c : TraceCommand) :
    (s.sendCommand c).2.options = s.options := by
  rw [snd_sendCommand]
  exact s.options_call ..

theorem channel_sendCommand (s : Session τ) (c : TraceCommand) :
    (s.sendCommand c).2.channel = (Channel.call s.channel (s.apiVerb "trace") c.args).2 := by
  rw [snd_sendCommand]
  exact s.channel_call ..

@[simp] theorem verbosity_untraceAll (s : Session τ) :
    s.untraceAll.2.verbosity = s.verbosity := by
  rw [snd_untraceAll]
  exact s.verbosity_call ..

@[simp] theorem options_untraceAll (s : Session τ) : s.untraceAll.2.options = s.options := by
  rw [snd_untraceAll]
  exact s.options_call ..

theorem channel_untraceAll (s : Session τ) :
    s.untraceAll.2.channel =
      (Channel.call s.channel (s.apiVerb "trace") TraceCommand.dropAll.args).2 := by
  rw [snd_untraceAll]
  exact s.channel_call ..

theorem sendCommands_cons (s : Session τ) (c : TraceCommand) (rest : List TraceCommand) :
    s.sendCommands (c :: rest) =
      ((s.sendCommand c).1.bind fun () => ((s.sendCommand c).2.sendCommands rest).1,
        ((s.sendCommand c).2.sendCommands rest).2) := by
  rw [sendCommands]
  rcases s.sendCommand c with ⟨e | r, s'⟩ <;> rfl

@[simp] theorem verbosity_sendCommands (s : Session τ) (l : List TraceCommand) :
    (s.sendCommands l).2.verbosity = s.verbosity := by
  induction l generalizing s with
  | nil => rfl
  | cons c rest ih => rw [sendCommands_cons, ih, verbosity_sendCommand]

@[simp] theorem options_sendCommands (s : Session τ) (l : List TraceCommand) :
    (s.sendCommands l).2.options = s.options := by
  induction l generalizing s with
  | nil => rfl
  | cons c rest ih => rw [sendCommands_cons, ih, options_sendCommand]

theorem trace_select (s : Session τ) (tag : TraceTag) (mode : TraceMode) :
    s.trace (.select tag mode) =
      sendCommands { s with traces := (s.traces.select tag mode).2 } (s.traces.plan tag mode) := by
  rw [← TraceSubscriptions.fst_select]
  rfl

@[simp] theorem verbosity_trace (s : Session τ) (a : TraceAction) :
    (s.trace a).2.verbosity = s.verbosity := by
  cases a with
  | select tag mode => exact verbosity_sendCommands ..
  | untraceAll => exact s.verbosity_untraceAll

@[simp] theorem options_trace (s : Session τ) (a : TraceAction) :
    (s.trace a).2.options = s.options := by
  cases a with
  | select tag mode => exact options_sendCommands ..
  | untraceAll => exact s.options_untraceAll

/-! ### Closing -/

/-- Closing is retracting everything, unless the channel is known to be closed, and closing the
channel. -/
theorem snd_close (s : Session τ) :
    s.close.2 = { (if s.state = .closed then s else s.untraceAll.2).mapChannel Channel.close with
      state := .closed } := by
  by_cases h : s.state = .closed <;> simp [close, h]

theorem fst_close (s : Session τ) :
    s.close.1 = if s.state = .closed then .ok () else s.untraceAll.1 := by
  by_cases h : s.state = .closed <;> simp [close, h]

theorem channel_close (s : Session τ) :
    s.close.2.channel =
      Channel.close (if s.state = .closed then s.channel else s.untraceAll.2.channel) := by
  rw [snd_close]
  split <;> rfl

/-! ### Every action -/

/-- No action renames the monitoring API. -/
theorem monitorApi_perform (s : Session τ) (a : Action) :
    (s.perform a).2.options.monitorApi = s.options.monitorApi := by
  cases a with
  | close =>
    show s.close.2.options.monitorApi = _
    rw [snd_close]
    split
    · rfl
    · exact congrArg ClassifyOptions.monitorApi s.options_untraceAll
  | setShowMonitorEvents shown => rfl
  | discover | setVerbosity | refreshVerbosity | trace | sessionInfo | nextEvent | handlePush =>
    simp [perform]
  | clearTraceEvents | setLogEnabled | clearLog | hold | release => rfl

/-! ### What channels keep -/

/-- Nothing that a session can do with its channel takes a property away from it. -/
structure Keeps (P : τ → Prop) : Prop where
  call : ∀ (c : τ) (apiVerb : String) (args : Json), P c → P (Channel.call c apiVerb args).2
  receive : ∀ c : τ, P c → P (Channel.receive c).2
  close : ∀ c : τ, P c → P (Channel.close c)

namespace Keeps

variable {P : τ → Prop} {s : Session τ}

theorem sendCommands (h : Keeps P) (hs : P s.channel) (l : List TraceCommand) :
    P (s.sendCommands l).2.channel := by
  induction l generalizing s with
  | nil => exact hs
  | cons c rest ih =>
    rw [sendCommands_cons]
    refine ih ?_
    rw [channel_sendCommand]
    exact h.call _ _ _ hs

theorem untraceAll (h : Keeps P) (hs : P s.channel) : P s.untraceAll.2.channel := by
  rw [channel_untraceAll]
  exact h.call _ _ _ hs

theorem setVerbosity (h : Keeps P) (hs : P s.channel) (target : VerbosityTarget)
    (level : VerbosityLevel) : P (s.setVerbosity target level).2.channel := by
  by_cases hguard : s.verbosity.isHeld = true
  · rw [setVerbosity_of_isHeld _ hguard]
    exact hs
  · rw [setVerbosity_of_not_isHeld _ hguard]
    show P (Session.refreshVerbosity _).2.channel
    rw [channel_refreshVerbosity, channel_call]
    exact h.call _ _ _ (h.call _ _ _ hs)

/-- **What channels keep is kept by every action.** -/
theorem perform (h : Keeps P) (hs : P s.channel) (a : Action) : P (s.perform a).2.channel := by
  cases a with
  | discover =>
    show P s.discover.2.channel
    rw [channel_discover]
    exact h.call _ _ _ hs
  | setVerbosity target level => exact h.setVerbosity hs target level
  | refreshVerbosity =>
    show P s.refreshVerbosity.2.channel
    rw [channel_refreshVerbosity]
    exact h.call _ _ _ hs
  | trace a =>
    cases a with
    | select tag mode =>
      show P (s.trace (.select tag mode)).2.channel
      have hselected : P ({ s with traces := (s.traces.select tag mode).2 } : Session τ).channel := hs
      rw [trace_select]
      exact h.sendCommands hselected _
    | untraceAll => exact h.untraceAll hs
  | sessionInfo refreshToken =>
    show P (s.sessionInfo refreshToken).2.channel
    rw [snd_sessionInfo, channel_call]
    exact h.call _ _ _ hs
  | nextEvent =>
    show P s.nextEvent.2.channel
    rw [channel_nextEvent]
    exact h.receive _ hs
  | handlePush push =>
    show P (s.handlePush push).2.channel
    rw [channel_handlePush]
    exact hs
  | close =>
    show P s.close.2.channel
    rw [snd_close]
    refine h.close _ ?_
    split
    · exact hs
    · exact h.untraceAll hs
  | clearTraceEvents | setShowMonitorEvents | setLogEnabled | clearLog | hold | release => exact hs

/-- What channels keep, also from what happens to them, is kept by every run. -/
theorem run {δ : Type v} [Surroundings δ τ] (h : Keeps P)
    (hdisturb : ∀ (c : τ) (d : δ), P c → P (Surroundings.disturb c d)) (hs : P s.channel)
    (steps : List (Step δ)) : P (s.run steps).channel := by
  refine run_induction (motive := fun s => P s.channel) s hs fun s hs e _ => ?_
  cases e with
  | act a => exact h.perform hs a
  | disturb d => exact hdisturb s.channel d hs

end Keeps

end Session

end LiveTrace
