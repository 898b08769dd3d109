import LiveTrace.Proofs.Session.Connection
/-!
# LiveTrace.Proofs.Session.Log

**What a session does to its log.** The entries that a session offers are not all in its log: a log
that is switched off drops them, and others are forgotten or cleared later. What an action does to
the log, whatever the log makes of it, is a list of changes (`Session.changes`), and the log after a
run is the log before it with the changes of all steps (`Session.feed_run`). A statement about what
is logged how often is one about this list.

One is made here: a session reports at most once that the connection was closed, and does so when it
finds the channel lost while it took it for open (`Session.countP_logHistory`).
-/

namespace LiveTrace

universe u v

/-- What can happen to a log. -/
inductive LogChange
  /-- An entry is offered, which a log that is switched off drops. -/
  | entry (e : LogEntry)
  | enable (enabled : Bool)
  | clear
  deriving DecidableEq, Inhabited

/-- Whether it is reported that the connection was closed. -/
def LogChange.isClosure : LogChange → Bool
  | entry e => e.tag = "connection closed"
  | enable _ | clear => false

namespace LogFeed

/-- A log after a change. -/
def change (f : LogFeed) : LogChange → LogFeed
  | .entry e => f.push e
  | .enable enabled => f.setEnabled enabled
  | .clear => f.clear

/-- A log after changes. -/
def changeAll (f : LogFeed) (l : List LogChange) : LogFeed := l.foldl change f

theorem changeAll_append (f : LogFeed) (l r : List LogChange) :
    f.changeAll (l ++ r) = (f.changeAll l).changeAll r := List.foldl_append

end LogFeed

namespace Session

variable {τ : Type u}

/-! ### Changes of an action -/

/-- The report that a connection was closed, unless it was known before. -/
def closureReport (state : ConnectionState) (url : String) : List LogChange :=
  if state = .closed then [] else [.entry ⟨.error, "connection closed", url⟩]

/-- The changes by a pushed event. -/
def pushChanges (s : Session τ) (push : PushEvent) : List LogChange :=
  .entry (pushEntry s.options push) ::
    match Classification.ofPush s.options push with
    | .malformed reason => [.entry ⟨.error, "malformed trace event", reason⟩]
    | .trace _ | .suppressed _ | .unexpected _ => []

theorem feed_handlePush (s : Session τ) (push : PushEvent) :
    (s.handlePush push).2.feed = s.feed.changeAll (s.pushChanges push) := by
  unfold handlePush pushChanges
  cases Classification.ofPush s.options push <;> rfl

variable [Channel τ]

theorem feed_markClosed (s : Session τ) :
    s.markClosed.feed = s.feed.changeAll (closureReport s.state s.url) := by
  unfold markClosed closureReport
  split <;> rfl

/-- The changes by a call: it is sent, it is settled, and it may find the channel closed. -/
def callChanges (s : Session τ) (verb : String) (args : Json) : List LogChange :=
  let settled := s.settledCall verb args
  [.entry (Caller.sendEntry settled.apiVerb args),
    .entry (Caller.receiveEntry settled.apiVerb args settled.settlement)] ++
    if settled.findsClosed then closureReport s.state (s.call verb args).2.url else []

theorem feed_call (s : Session τ) (verb : String) (args : Json) :
    (s.call verb args).2.feed = s.feed.changeAll (s.callChanges verb args) := by
  have hurl : (s.call verb args).2.url =
      Channel.url (Channel.call s.channel (s.apiVerb verb) args).2 :=
    congrArg Channel.url (s.channel_call verb args)
  rw [callChanges, hurl, LogFeed.changeAll_append, snd_call]
  split
  · exact feed_markClosed _
  · rfl

/-- The changes by commands that are sent one after the other. -/
def sendChanges (s : Session τ) : List TraceCommand → List LogChange
  | [] => []
  | c :: rest => s.callChanges "trace" c.args ++ (s.sendCommand c).2.sendChanges rest

theorem feed_sendCommands (s : Session τ) (l : List TraceCommand) :
    (s.sendCommands l).2.feed = s.feed.changeAll (s.sendChanges l) := by
  induction l generalizing s with
  | nil => rfl
  | cons c rest ih =>
    have hfirst : (s.sendCommand c).2.feed = s.feed.changeAll (s.callChanges "trace" c.args) := by
      rw [snd_sendCommand]
      exact s.feed_call ..
    rw [sendCommands_cons, ih, hfirst, sendChanges, LogFeed.changeAll_append]

/-- What an action does to the log. -/
def changes (s : Session τ) : Action → List LogChange
  | .discover => s.callChanges "get" discoveryArgs ++
      match (s.querySnapshot discoveryArgs).1 with
      | .error e => [.entry (LogFeed.errorEntry "can't get apis" (failureBody e))]
      | .ok _ => []
  | .setVerbosity target level =>
    if s.verbosity.isHeld then []
    else (s.asking target level).callChanges "set" (VerbosityCommand.args ⟨target, level⟩) ++
      (s.asked target level).callChanges "get" levelsArgs
  | .refreshVerbosity => s.callChanges "get" levelsArgs
  | .trace (.select tag mode) =>
    sendChanges { s with traces := (s.traces.select tag mode).2 } (s.traces.plan tag mode)
  | .trace .untraceAll => s.callChanges "trace" TraceCommand.dropAll.args
  | .sessionInfo refreshToken =>
    s.callChanges "session" (.object [("refresh-token", .bool refreshToken)])
  | .nextEvent =>
    match (Channel.receive s.channel).1 with
    | .event push => s.pushChanges push
    | .ended => closureReport s.state s.nextEvent.2.url
    | .pending => []
  | .handlePush push => s.pushChanges push
  | .clearTraceEvents | .setShowMonitorEvents _ | .hold | .release => []
  | .setLogEnabled enabled => [.enable enabled]
  | .clearLog => [.clear]
  | .close =>
    if s.state = .closed then [] else s.callChanges "trace" TraceCommand.dropAll.args

theorem feed_discover (s : Session τ) :
    s.discover.2.feed = s.feed.changeAll (s.changes .discover) := by
  have hcall : (s.querySnapshot discoveryArgs).2.feed =
      s.feed.changeAll (s.callChanges "get" discoveryArgs) := s.feed_call ..
  rw [changes, LogFeed.changeAll_append, ← hcall]
  unfold discover
  rcases s.querySnapshot discoveryArgs with ⟨e | snapshot, t⟩
  · rfl
  · obtain ⟨apis, levels⟩ := snapshot
    cases apis <;> cases levels <;> rfl

theorem feed_refreshVerbosity (s : Session τ) :
    s.refreshVerbosity.2.feed = s.feed.changeAll (s.changes .refreshVerbosity) := by
  obtain ⟨verbosity, h⟩ := s.refreshVerbosity_frame
  rw [h]
  exact s.feed_call ..

theorem feed_setVerbosity (s : Session τ) (target : VerbosityTarget) (level : VerbosityLevel) :
    (s.setVerbosity target level).2.feed =
      s.feed.changeAll (s.changes (.setVerbosity target level)) := by
  by_cases h : s.verbosity.isHeld = true
  · rw [setVerbosity_of_isHeld _ h, changes, if_pos h]
    rfl
  · have hset : (s.asked target level).feed = s.feed.changeAll
        ((s.asking target level).callChanges "set" (VerbosityCommand.args ⟨target, level⟩)) :=
      (s.asking target level).feed_call ..
    rw [setVerbosity_of_not_isHeld _ h, changes, if_neg h, LogFeed.changeAll_append, ← hset]
    exact feed_refreshVerbosity _

theorem feed_untraceAll (s : Session τ) :
    s.untraceAll.2.feed =
      s.feed.changeAll (s.callChanges "trace" TraceCommand.dropAll.args) := by
  rw [snd_untraceAll]
  exact s.feed_call ..

theorem feed_nextEvent (s : Session τ) :
    s.nextEvent.2.feed = s.feed.changeAll (s.changes .nextEvent) := by
  have hurl : s.nextEvent.2.url = Channel.url (Channel.receive s.channel).2 :=
    congrArg Channel.url s.channel_nextEvent
  rw [changes, hurl]
  unfold nextEvent
  rcases Channel.receive s.channel with ⟨push | _ | _, c⟩
  · exact feed_handlePush (s.mapChannel fun _ => c) push
  · exact feed_markClosed (s.mapChannel fun _ => c)
  · rfl

/-- **The log after an action is the log before it with the changes of the action.** -/
theorem feed_perform (s : Session τ) (a : Action) :
    (s.perform a).2.feed = s.feed.changeAll (s.changes a) := by
  cases a with
  | discover => exact s.feed_discover
  | setVerbosity target level => exact s.feed_setVerbosity target level
  | refreshVerbosity => exact s.feed_refreshVerbosity
  | trace a =>
    cases a with
    | select tag mode =>
      show (s.trace (.select tag mode)).2.feed = _
      rw [trace_select, feed_sendCommands]
      rfl
    | untraceAll => exact s.feed_untraceAll
  | sessionInfo refreshToken => exact s.feed_call ..
  | nextEvent => exact s.feed_nextEvent
  | handlePush push => exact s.feed_handlePush push
  | close =>
    show s.close.2.feed = _
    rw [snd_close, changes]
    split
    · rfl
    · exact s.feed_untraceAll
  | clearTraceEvents | setShowMonitorEvents | setLogEnabled | clearLog | hold | release => rfl

/-! ### Runs -/

section Run

variable {δ : Type v} [Surroundings δ τ]

/-- What a step does to the log. -/
def stepChanges (s : Session τ) : Step δ → List LogChange
  | .act a => s.changes a
  | .disturb _ => []

/-- What a run does to the log, oldest first. -/
def logHistory (s : Session τ) : List (Step δ) → List LogChange
  | [] => []
  | e :: steps => s.stepChanges e ++ (s.step e).logHistory steps

theorem logHistory_append (s : Session τ) (before after : List (Step δ)) :
    s.logHistory (before ++ after) = s.logHistory before ++ (s.run before).logHistory after := by
  induction before generalizing s with
  | nil => rfl
  | cons e before ih =>
    rw [List.cons_append, logHistory, logHistory, ih, List.append_assoc]
    rfl

/-- **The log after a run is the log before it with the changes of the run.** -/
theorem feed_run (s : Session τ) (steps : List (Step δ)) :
    (s.run steps).feed = s.feed.changeAll (s.logHistory steps) := by
  induction steps generalizing s with
  | nil => rfl
  | cons e steps ih =>
    have hstep : (s.step e).feed = s.feed.changeAll (s.stepChanges e) := by
      cases e with
      | act a => exact s.feed_perform a
      | disturb d => rfl
    rw [logHistory, LogFeed.changeAll_append, ← hstep]
    exact ih _

end Run

/-! ### Reports of a closed connection -/

/-- How often calls report that the connection was closed: at the first that finds the channel
closed, if it was taken for open. -/
def closures (state : ConnectionState) (calls : List SettledCall) : Nat :=
  if state ≠ .closed ∧ calls.any SettledCall.findsClosed then 1 else 0

theorem closures_append (state : ConnectionState) (l r : List SettledCall) :
    closures state (l ++ r) = closures state l + closures (stateAfter state l) r := by
  by_cases hstate : state = .closed
  · simp [closures, stateAfter, hstate]
  · cases hl : l.any SettledCall.findsClosed <;> simp [closures, stateAfter, hstate, hl]

theorem countP_closureReport (state : ConnectionState) (url : String) :
    (closureReport state url).countP LogChange.isClosure = if state = .closed then 0 else 1 := by
  unfold closureReport
  split <;> simp [LogChange.isClosure]

omit [Channel τ] in
theorem countP_pushChanges (s : Session τ) (push : PushEvent) :
    (s.pushChanges push).countP LogChange.isClosure = 0 := by
  unfold pushChanges pushEntry
  cases Classification.ofPush s.options push <;> split <;> simp [LogChange.isClosure]

theorem countP_callChanges (s : Session τ) (verb : String) (args : Json) :
    (s.callChanges verb args).countP LogChange.isClosure =
      closures s.state [s.settledCall verb args] := by
  have hsend : LogChange.isClosure
      (.entry (Caller.sendEntry (s.settledCall verb args).apiVerb args)) = false := rfl
  have hreceive : LogChange.isClosure (.entry (Caller.receiveEntry
      (s.settledCall verb args).apiVerb args (s.settledCall verb args).settlement)) = false := by
    unfold Caller.receiveEntry
    cases Caller.outcome (s.settledCall verb args).settlement <;> rfl
  rw [callChanges, List.countP_append, List.countP_cons, List.countP_cons, hsend, hreceive]
  by_cases hlost : (s.settledCall verb args).findsClosed = true
  · rw [if_pos hlost, countP_closureReport]
    by_cases hstate : s.state = .closed <;> simp [closures, hlost, hstate]
  · rw [if_neg hlost]
    simp [closures, hlost]

theorem countP_sendChanges (s : Session τ) (l : List TraceCommand) :
    (s.sendChanges l).countP LogChange.isClosure = closures s.state (s.settledCalls l) := by
  induction l generalizing s with
  | nil => simp [sendChanges, settledCalls, closures]
  | cons c rest ih =>
    rw [sendChanges, List.countP_append, countP_callChanges, ih, state_sendCommand, settledCalls]
    exact (closures_append s.state [_] _).symm

/-- **An action reports that the connection was closed once, if it finds the channel lost that was
taken for open**, and otherwise not. -/
theorem countP_changes (s : Session τ) (a : Action) :
    (s.changes a).countP LogChange.isClosure =
      if s.state ≠ .closed ∧ s.findsLoss a = true then 1 else 0 := by
  cases a with
  | discover =>
    show _ = closures s.state (s.made .discover)
    rw [changes, made_discover, List.countP_append, countP_callChanges]
    -- a failure is logged under another name
    cases (s.querySnapshot discoveryArgs).1 <;> rfl
  | setVerbosity target level =>
    show _ = closures s.state (s.made (.setVerbosity target level))
    by_cases h : s.verbosity.isHeld = true
    · rw [changes, if_pos h, made_setVerbosity_of_isHeld _ h]
      simp [closures]
    · rw [changes, if_neg h, made_setVerbosity _ h, List.countP_append, countP_callChanges,
        countP_callChanges, state_asked]
      exact (closures_append s.state [_] [_]).symm
  | refreshVerbosity =>
    show _ = closures s.state (s.made .refreshVerbosity)
    rw [made_refreshVerbosity]
    exact s.countP_callChanges ..
  | trace a =>
    show _ = closures s.state (s.made (.trace a))
    rw [made_trace]
    cases a with
    | select tag mode =>
      rw [changes, countP_sendChanges, settledCalls_traces]
      rfl
    | untraceAll => exact s.countP_callChanges ..
  | sessionInfo refreshToken =>
    show _ = closures s.state (s.made (.sessionInfo refreshToken))
    rw [made_sessionInfo]
    exact s.countP_callChanges ..
  | nextEvent =>
    rw [changes, findsLoss, findsEnd]
    cases (Channel.receive s.channel).1 with
    | event push => simp [countP_pushChanges]
    | ended => rw [countP_closureReport]; by_cases h : s.state = .closed <;> simp [h]
    | pending => simp
  | handlePush push =>
    show _ = closures s.state (s.made (.handlePush push))
    rw [changes, countP_pushChanges, made_handlePush]
    simp [closures]
  | close =>
    show _ = closures s.state (s.made .close)
    rw [changes, made_close]
    split
    · simp [closures]
    · exact s.countP_callChanges ..
  | clearTraceEvents | setShowMonitorEvents | setLogEnabled | clearLog | hold | release =>
    exact (if_neg fun h => Bool.false_ne_true h.2).symm

section Run

variable {δ : Type v} [Surroundings δ τ]

omit [Surroundings δ τ] in
theorem countP_stepChanges (s : Session τ) (e : Step δ) :
    (s.stepChanges e).countP LogChange.isClosure =
      if s.state ≠ .closed ∧ s.stepFindsLoss e = true then 1 else 0 := by
  cases e with
  | act a => exact s.countP_changes a
  | disturb d => exact (if_neg fun h => Bool.false_ne_true h.2).symm

theorem countP_logHistory_of_closed {s : Session τ} (h : s.state = .closed)
    (steps : List (Step δ)) : (s.logHistory steps).countP LogChange.isClosure = 0 := by
  induction steps generalizing s with
  | nil => rfl
  | cons e steps ih =>
    have hstep : (s.step e).state = .closed := state_run_of_closed h [e]
    rw [logHistory, List.countP_append, countP_stepChanges, ih hstep]
    simp [h]

/-- **That the connection was closed is reported at most once**, and it is reported if and only if
the session finds the channel lost while it takes it for open. -/
theorem countP_logHistory (s : Session τ) (steps : List (Step δ)) :
    (s.logHistory steps).countP LogChange.isClosure ≤ 1 ∧
      ((s.logHistory steps).countP LogChange.isClosure = 1 ↔
        s.Meets steps fun t e => t.state ≠ .closed ∧ t.stepFindsLoss e = true) := by
  induction steps generalizing s with
  | nil => simp [not_meets_nil, logHistory]
  | cons e steps ih =>
    rw [meets_cons, logHistory, List.countP_append, countP_stepChanges]
    by_cases hfound : s.state ≠ .closed ∧ s.stepFindsLoss e = true
    · have hclosed : (s.step e).state = .closed :=
        (s.state_step_eq_closed_iff e).2 (.inr (.inl hfound.2))
      rw [if_pos hfound, countP_logHistory_of_closed hclosed]
      simp [hfound]
    · rw [if_neg hfound, Nat.zero_add]
      simpa [hfound] using ih (s.step e)

theorem countP_logHistory_of_open {s : Session τ} {steps : List (Step δ)}
    (h : (s.run steps).state ≠ .closed) :
    (s.logHistory steps).countP LogChange.isClosure = 0 := by
  obtain ⟨honce, hreported⟩ := s.countP_logHistory steps
  by_contra hcount
  obtain ⟨before, e, after, hsteps, -, hlost⟩ := hreported.1 (by omega)
  exact h ((s.state_run_eq_closed_iff steps).2 (.inr ⟨before, e, after, hsteps, .inl hlost⟩))

end Run

end Session

end LiveTrace
