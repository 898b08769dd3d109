import LiveTrace.Proofs.Session.Calls
/-!
# LiveTrace.Proofs.Session.Connection

**The connection state only moves forward.** A session notes that its channel is closed at a call
that fails for this reason (`Session.state_call`), when there are no more events, and when it is
closed itself; nothing else touches the connection state (`Session.state_perform`). So every action
leaves the state as it is or leaves the session closed (`Session.Onward.perform`).
-/

namespace LiveTrace

universe u v

/-- Whether a call failed because the channel is closed. -/
def SettledCall.findsClosed (e : SettledCall) : Bool :=
  match e.settlement with
  | .error .closed => true
  | _ => false

namespace Session

variable {τ : Type u}

@[simp] theorem state_handlePush (s : Session τ) (p : PushEvent) :
    (s.handlePush p).2.state = s.state := by
  unfold handlePush
  cases Classification.ofPush s.options p <;> rfl

variable [Channel τ]

@[simp] theorem state_markClosed (s : Session τ) : s.markClosed.state = .closed := by
  unfold markClosed
  split
  · assumption
  · rfl

/-- After a call it is noted that the channel is closed if and only if the call finds it so. -/
theorem snd_call (s : Session τ) (verb : String) (args : Json) :
    (s.call verb args).2 =
      if (s.settledCall verb args).findsClosed then
        markClosed { s with caller := (s.caller.call (s.apiVerb verb) args).2 }
      else { s with caller := (s.caller.call (s.apiVerb verb) args).2 } := by
  have hcall : (s.caller.call (s.apiVerb verb) args).1 =
      Caller.outcome (s.settledCall verb args).settlement := rfl
  unfold call SettledCall.findsClosed
  rcases hcaller : s.caller.call (s.apiVerb verb) args with ⟨outcome, caller⟩
  rw [hcaller] at hcall
  obtain rfl : outcome = _ := hcall
  rcases (s.settledCall verb args).settlement with e | reply
  · cases e <;> simp [Caller.outcome, CallFailure.isClosed]
  · cases hsuccess : reply.isSuccess <;> simp [Caller.outcome, CallFailure.isClosed, hsuccess]

/-- A call closes the session if and only if it finds the channel closed. -/
theorem state_call (s : Session τ) (verb : String) (args : Json) :
    (s.call verb args).2.state =
      if (s.settledCall verb args).findsClosed then .closed else s.state := by
  rw [snd_call]
  split
  · exact state_markClosed _
  · rfl

/-- A state of the connection after calls: a call may find the channel closed. -/
def stateAfter (state : ConnectionState) (calls : List SettledCall) : ConnectionState :=
  if calls.any SettledCall.findsClosed then .closed else state

theorem stateAfter_append (state : ConnectionState) (l r : List SettledCall) :
    stateAfter (stateAfter state l) r = stateAfter state (l ++ r) := by
  simp only [stateAfter, List.any_append]
  cases l.any SettledCall.findsClosed <;> simp

theorem state_call_eq (s : Session τ) (verb : String) (args : Json) :
    (s.call verb args).2.state = stateAfter s.state [s.settledCall verb args] := by
  rw [state_call, stateAfter, List.any_cons, List.any_nil, Bool.or_false]

theorem state_asked (s : Session τ) (target : VerbosityTarget) (level : VerbosityLevel) :
    (s.asked target level).state = stateAfter s.state
      [(s.asking target level).settledCall "set" (VerbosityCommand.args ⟨target, level⟩)] :=
  (s.asking target level).state_call_eq ..

theorem state_discover (s : Session τ) :
    s.discover.2.state = stateAfter s.state (s.made .discover) := by
  obtain ⟨feed, registry, verbosity, h⟩ := s.discover_frame
  have hcall : s.discover.2.state = (s.call "get" discoveryArgs).2.state := by rw [h]
  rw [hcall, state_call_eq, made_discover]

theorem state_refreshVerbosity (s : Session τ) :
    s.refreshVerbosity.2.state = stateAfter s.state (s.made .refreshVerbosity) := by
  obtain ⟨verbosity, h⟩ := s.refreshVerbosity_frame
  have hcall : s.refreshVerbosity.2.state = (s.call "get" levelsArgs).2.state := by rw [h]
  rw [hcall, state_call_eq, made_refreshVerbosity]

theorem state_setVerbosity (s : Session τ) (target : VerbosityTarget) (level : VerbosityLevel) :
    (s.setVerbosity target level).2.state =
      stateAfter s.state (s.made (.setVerbosity target level)) := by
  by_cases h : s.verbosity.isHeld = true
  · rw [setVerbosity_of_isHeld _ h, made_setVerbosity_of_isHeld _ h]
    rfl
  · rw [setVerbosity_of_not_isHeld _ h, made_setVerbosity _ h]
    show (s.asked target level).refreshVerbosity.2.state = _
    rw [state_refreshVerbosity, made_refreshVerbosity, state_asked, stateAfter_append]
    rfl

theorem state_sendCommand (s : Session τ) (c : TraceCommand) :
    (s.sendCommand c).2.state = stateAfter s.state [s.settledCall "trace" c.args] := by
  rw [snd_sendCommand]
  exact s.state_call_eq ..

theorem state_sendCommands (s : Session τ) (l : List TraceCommand) :
    (s.sendCommands l).2.state = stateAfter s.state (s.settledCalls l) := by
  induction l generalizing s with
  | nil => rfl
  | cons c rest ih =>
    rw [sendCommands_cons, ih, state_sendCommand, stateAfter_append]
    rfl

theorem state_trace (s : Session τ) (a : TraceAction) :
    (s.trace a).2.state = stateAfter s.state (s.made (.trace a)) := by
  rw [made_trace]
  cases a with
  | select tag mode =>
    rw [trace_select, state_sendCommands, settledCalls_traces]
    rfl
  | untraceAll =>
    show s.untraceAll.2.state = _
    rw [snd_untraceAll]
    exact s.state_call_eq ..

/-- Whether there are no more events to wait for. -/
def findsEnd (s : Session τ) : Bool :=
  match (Channel.receive s.channel).1 with
  | .ended => true
  | .event _ | .pending => false

theorem state_nextEvent (s : Session τ) :
    s.nextEvent.2.state = if s.findsEnd then .closed else s.state := by
  unfold nextEvent findsEnd
  rcases Channel.receive s.channel with ⟨push | _ | _, c⟩
  · exact state_handlePush (s.mapChannel fun _ => c) push
  · exact state_markClosed _
  · rfl

theorem fst_nextEvent_of_findsEnd {s : Session τ} (h : s.findsEnd = true) :
    s.nextEvent.1 = .ended := by
  unfold findsEnd at h
  unfold nextEvent
  rcases hreceive : Channel.receive s.channel with ⟨push | _ | _, c⟩
  · simp [hreceive] at h
  · rfl
  · simp [hreceive] at h

/-- Whether an action finds that the channel is lost: by one of its calls, or because it waits for
an event when there are no more. -/
def findsLoss (s : Session τ) : Action → Bool
  | .nextEvent => s.findsEnd
  | a => (s.made a).any SettledCall.findsClosed

/-- **A session is closed by finding the channel lost and by an order to close**, and by nothing
else. -/
theorem state_perform (s : Session τ) (a : Action) :
    (s.perform a).2.state =
      match a with
      | .close => .closed
      | a => if s.findsLoss a then .closed else s.state := by
  cases a with
  | discover => exact s.state_discover
  | refreshVerbosity => exact s.state_refreshVerbosity
  | setVerbosity target level => exact s.state_setVerbosity target level
  | trace a => exact s.state_trace a
  | sessionInfo refreshToken =>
    exact (s.state_call_eq ..).trans (congrArg _ (s.made_sessionInfo refreshToken).symm)
  | nextEvent => exact s.state_nextEvent
  | handlePush push =>
    show (s.handlePush push).2.state = stateAfter s.state (s.made (.handlePush push))
    rw [state_handlePush, made_handlePush]
    rfl
  | close => rfl
  | clearTraceEvents | setShowMonitorEvents | setLogEnabled | clearLog | hold | release => rfl

/-- The state of a session stays as it is or becomes closed. -/
def Onward (s t : Session τ) : Prop := t.state = s.state ∨ t.state = .closed

omit [Channel τ] in
theorem onward_stateAfter {s t : Session τ} {calls : List SettledCall}
    (h : t.state = stateAfter s.state calls) : s.Onward t := by
  rw [Onward, h, stateAfter]
  split
  · exact .inr rfl
  · exact .inl rfl

/-- **Every action moves the state forward.** -/
theorem Onward.perform (s : Session τ) (a : Action) : s.Onward (s.perform a).2 := by
  rw [Onward, state_perform]
  split
  · exact .inr rfl
  · split
    · exact .inr rfl
    · exact .inl rfl

/-- A session that was opened is connected, or closed again. -/
theorem state_opened_ne (channel : τ) (config : SessionConfig) :
    (opened channel config).state ≠ .disconnected := by
  rcases onward_stateAfter (new channel config).state_discover with h | h
  · rw [opened, h]
    nofun
  · rw [opened, h]
    nofun

/-! ### Runs -/

section Run

variable {δ : Type v}

/-- Whether a step finds that the channel is lost. -/
def stepFindsLoss (s : Session τ) : Step δ → Bool
  | .act a => s.findsLoss a
  | .disturb _ => false

variable [Surroundings δ τ]

theorem state_step_eq_closed_iff (s : Session τ) (e : Step δ) :
    (s.step e).state = .closed ↔
      s.state = .closed ∨ s.stepFindsLoss e = true ∨ e = .act .close := by
  cases e with
  | act a =>
    show (s.perform a).2.state = .closed ↔ s.state = .closed ∨ s.findsLoss a = true ∨ _
    rw [state_perform]
    split
    · exact iff_of_true rfl (.inr (.inr rfl))
    · cases s.findsLoss a <;> simp_all
  | disturb d => exact ⟨.inl, fun h => h.elim id fun h => by simp [stepFindsLoss] at h⟩

/-- **A session is closed after a run if and only if it was before, or found the channel lost, or
was closed by the operator.** -/
theorem state_run_eq_closed_iff (s : Session τ) (steps : List (Step δ)) :
    (s.run steps).state = .closed ↔
      s.state = .closed ∨ s.Meets steps fun t e => t.stepFindsLoss e = true ∨ e = .act .close := by
  induction steps generalizing s with
  | nil => simp [not_meets_nil]
  | cons e steps ih =>
    rw [meets_cons, ← or_assoc, ← state_step_eq_closed_iff]
    exact ih _

/-- **Every run moves the state forward.** -/
theorem Onward.run (s : Session τ) (steps : List (Step δ)) : s.Onward (s.run steps) := by
  refine run_induction (motive := s.Onward) s (.inl rfl) fun t ht e _ => ?_
  cases e with
  | act a =>
    rcases Onward.perform t a with h | h
    · rw [Onward, show (t.step (.act a : Step δ)).state = t.state from h]
      exact ht
    · exact .inr h
  | disturb d => exact ht

/-- A session that is closed stays so. -/
theorem state_run_of_closed {s : Session τ} (h : s.state = .closed) (steps : List (Step δ)) :
    (s.run steps).state = .closed := (s.state_run_eq_closed_iff steps).2 (.inl h)

end Run

end Session

end LiveTrace
