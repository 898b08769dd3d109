import LiveTrace.Proofs.Daemon.Trace
import LiveTrace.Proofs.Session.Frame
/-!
# LiveTrace.Proofs.Session.Subscriptions

**Confirmed modes are what the daemon holds.** A session over a line to a daemon and the daemon
agree about subscriptions after every run (`Session.traceTags_eq_confirmed`): pushes, verbs that
start and stop to fail, and a line that is severed at any moment included. The session notes a
command as acknowledged exactly when the daemon lets it have its effect, which is what makes the
agreement an invariant of each command (`InStep.sendCommand`). Other calls have another verb and
touch the subscriptions of neither side (`InStep.of_call`).
-/

namespace LiveTrace

/-- What can happen to a line to a daemon between operations. -/
inductive Incident
  | push (p : PushEvent)
  | sever
  /-- Calls of a verb fail from now on. -/
  | fail (apiVerb : String)
  /-- Calls of a verb fail no more. -/
  | recover (apiVerb : String)
  deriving Inhabited

/-- What an incident does to the line. -/
def Incident.happen (l : Line Daemon) : Incident → Line Daemon
  | push p => (l.push p).2
  | sever => l.sever
  | fail apiVerb => l.mapPeer fun d => d.fail apiVerb
  | recover apiVerb => l.mapPeer fun d => d.recover apiVerb

instance : Surroundings Incident (Line Daemon) := ⟨Incident.happen⟩

theorem Incident.traces_happen (l : Line Daemon) (i : Incident) :
    (i.happen l).peer.traces = l.peer.traces := by
  cases i with
  | push p =>
    show (if _ then (true, { l with queue := l.queue ++ [p] }) else (false, l)).2.peer.traces = _
    split <;> rfl
  | sever | fail apiVerb | recover apiVerb => rfl

namespace Session

/-- The session and its daemon agree about subscriptions. -/
def InStep (s : Session (Line Daemon)) : Prop := s.traces.Agrees s.channel.peer.traces

variable {s : Session (Line Daemon)}

theorem InStep.congr {t : Session (Line Daemon)} (h : s.InStep) (htraces : t.traces = s.traces)
    (hheld : t.channel.peer.traces = s.channel.peer.traces) : t.InStep := by
  rw [InStep, htraces, hheld]
  exact h

/-! ### Calls -/

theorem apiVerb_ne {τ : Type*} (s : Session τ) {verb : String} (hslash : '/' ∉ verb.toList)
    (hverb : verb ≠ "trace") : s.apiVerb verb ≠ "monitor/trace" := by
  intro h
  have h : s.options.monitorApi ++ "/" ++ verb = "monitor" ++ "/" ++ "trace" := h
  exact hverb (Text.append_slash_inj hslash (by decide +kernel) h).2

/-- Verbs other than `trace` leave subscriptions alone. -/
theorem InStep.of_call (h : s.InStep) {verb : String} (hslash : '/' ∉ verb.toList)
    (hverb : verb ≠ "trace") {args : Json} {t : Session (Line Daemon)}
    (htraces : t.traces = s.traces)
    (hchannel : t.channel = (Channel.call s.channel (s.apiVerb verb) args).2) : t.InStep := by
  refine h.congr htraces ?_
  rw [hchannel, Daemon.traces_call _ (s.apiVerb_ne hslash hverb)]

theorem InStep.call (h : s.InStep) {verb : String} (hslash : '/' ∉ verb.toList)
    (hverb : verb ≠ "trace") (args : Json) : (s.call verb args).2.InStep :=
  h.of_call hslash hverb (s.traces_call verb args) (s.channel_call verb args)

theorem InStep.discover (h : s.InStep) : s.discover.2.InStep :=
  h.of_call (by decide +kernel) (by decide) s.traces_discover s.channel_discover

theorem InStep.refreshVerbosity (h : s.InStep) : s.refreshVerbosity.2.InStep :=
  h.of_call (by decide +kernel) (by decide) s.traces_refreshVerbosity s.channel_refreshVerbosity

theorem InStep.setVerbosity (h : s.InStep) (target : VerbosityTarget) (level : VerbosityLevel) :
    (s.setVerbosity target level).2.InStep := by
  by_cases hguard : s.verbosity.isHeld = true
  · rw [setVerbosity_of_isHeld _ hguard]
    exact h
  · rw [setVerbosity_of_not_isHeld _ hguard]
    have hasking : (s.asking target level).InStep := h
    exact (hasking.call (by decide +kernel) (by decide) _).refreshVerbosity

theorem InStep.nextEvent (h : s.InStep) : s.nextEvent.2.InStep := by
  have hreceive : (Channel.receive s.channel).2.peer = s.channel.peer := by
    show s.channel.receive.2.peer = s.channel.peer
    unfold Line.receive
    split <;> rfl
  refine h.congr s.traces_nextEvent ?_
  rw [channel_nextEvent, hreceive]

/-! ### Commands -/

/-- **A command keeps both sides in step**, be it accepted or not. -/
theorem InStep.sendCommand (h : s.InStep) {c : TraceCommand} (hc : c.IsProper) :
    (s.sendCommand c).2.InStep := by
  -- what the daemon holds changes on the same condition as what is confirmed
  have hheld : (s.sendCommand c).2.channel.peer.traces =
      if (s.call "trace" c.args).1.isOk then c.effect s.channel.peer.traces
      else s.channel.peer.traces := by
    rw [channel_sendCommand, isOk_call]
    exact Daemon.traces_call_trace s.channel s.options.monitorApi c
  rw [InStep, traces_sendCommand, hheld]
  cases (s.call "trace" c.args).1.isOk with
  | true => exact TraceSubscriptions.Agrees.confirm h hc
  | false => exact h

theorem InStep.sendCommands (h : s.InStep) {l : List TraceCommand} (hl : ∀ c ∈ l, c.IsProper) :
    (s.sendCommands l).2.InStep := by
  induction l generalizing s with
  | nil => exact h
  | cons c rest ih =>
    rw [sendCommands_cons]
    refine ih (h.sendCommand (hl c List.mem_cons_self)) fun c' hc' => ?_
    exact hl c' (List.mem_cons_of_mem c hc')

theorem InStep.untraceAll (h : s.InStep) : s.untraceAll.2.InStep := by
  have hheld : s.untraceAll.2.channel.peer.traces =
      if (s.call "trace" TraceCommand.dropAll.args).1.isOk then .empty
      else s.channel.peer.traces := by
    rw [channel_untraceAll, isOk_call]
    exact Daemon.traces_call_trace s.channel s.options.monitorApi .dropAll
  rw [InStep, traces_untraceAll, hheld]
  cases (s.call "trace" TraceCommand.dropAll.args).1.isOk with
  | true => exact TraceSubscriptions.agrees_confirm_dropAll _
  | false => exact TraceSubscriptions.Agrees.congr h fun t => s.traces.confirmedMode_resetAll t

/-! ### Every action -/

theorem InStep.trace (h : s.InStep) {a : TraceAction}
    (ha : ∀ tag mode, a = .select tag mode → tag.IsParsed) : (s.trace a).2.InStep := by
  cases a with
  | select tag mode =>
    have hselect : ({ s with traces := (s.traces.select tag mode).2 } : Session _).InStep :=
      TraceSubscriptions.Agrees.congr h fun t => s.traces.confirmedMode_select tag mode t
    rw [trace_select]
    exact hselect.sendCommands (TraceSubscriptions.commands_proper (ha tag mode rfl) _ mode)
  | untraceAll => exact h.untraceAll

theorem InStep.close (h : s.InStep) : s.close.2.InStep := by
  rw [snd_close]
  by_cases hclosed : s.state = .closed
  · rw [if_pos hclosed]
    exact h
  · rw [if_neg hclosed]
    exact h.untraceAll

/-- **Every action keeps both sides in step.** -/
theorem InStep.act (h : s.InStep) (a : Action)
    (ha : ∀ tag mode, a = .trace (.select tag mode) → tag.IsParsed) : (s.perform a).2.InStep := by
  cases a with
  | trace a => exact h.trace fun tag mode heq => ha tag mode (congrArg Action.trace heq)
  | discover => exact h.discover
  | setVerbosity target level => exact h.setVerbosity target level
  | refreshVerbosity => exact h.refreshVerbosity
  | sessionInfo refreshToken => exact h.call (by decide +kernel) (by decide) _
  | nextEvent => exact h.nextEvent
  | handlePush push =>
    exact h.congr (s.traces_handlePush push) (congrArg (·.peer.traces) (s.channel_handlePush push))
  | close => exact h.close
  | hold | release | clearTraceEvents | setShowMonitorEvents | setLogEnabled | clearLog => exact h

/-! ### Runs -/

theorem inStep_run {line : Line Daemon} (hempty : line.peer.traces = .empty)
    (config : SessionConfig) {steps : List (Step Incident)}
    (hsteps : ∀ tag mode, .act (.trace (.select tag mode)) ∈ steps → tag.IsParsed) :
    ((new line config).run steps).InStep := by
  refine run_induction _ ?_ fun s h e he => ?_
  · rw [InStep, show (new line config).channel.peer.traces = .empty from hempty]
    exact TraceSubscriptions.agrees_empty
  · cases e with
    | act a => exact h.act a fun tag mode ha => hsteps tag mode (ha ▸ he)
    | disturb i => exact h.congr rfl (i.traces_happen s.channel)

/-- **Confirmed modes are what the daemon holds.** Take any run of a session with a daemon that has
no subscriptions at first, in which the selected tags are tags that can be read. Afterwards the tags
of the daemon, in ascending order and each once, are the texts of the tags with an active confirmed
mode; and a tag that can be read has one if and only if the daemon has its text. The beginning of
such a run is one too, so this holds after every operation. -/
theorem traceTags_eq_confirmed (line : Line Daemon) (hempty : line.peer.traces = .empty)
    (config : SessionConfig) (steps : List (Step Incident))
    (hsteps : ∀ tag mode, .act (.trace (.select tag mode)) ∈ steps → tag.IsParsed) :
    let s := (new line config).run steps
    let held := s.channel.peer.traceTags
    held.Pairwise (· < ·) ∧
      (∀ x, x ∈ held ↔ ∃ t, s.traces.confirmedMode t ≠ .off ∧ t.text = x) ∧
      ∀ t : TraceTag, t.IsParsed → (t.text ∈ held ↔ s.traces.confirmedMode t ≠ .off) := by
  intro s held
  have hrun : s.traces.Agrees s.channel.peer.traces := inStep_run hempty config hsteps
  refine ⟨Daemon.traceTags_ascending _, fun x => ?_, fun t ht => ?_⟩
  · rw [← hrun.held_iff]
    exact Daemon.mem_traceTags
  · rw [← hrun.text_held_iff ht]
    exact Daemon.mem_traceTags

/-- A subscription that cannot be dropped stays held and confirmed, though it is not displayed. -/
theorem traceTags_eq_confirmed_drifted :
    let tag : TraceTag := ⟨some "calc", .request⟩
    let mode := (TraceMode.ofName? "all").getD .off
    let steps : List (Step Incident) :=
      [.act (.trace (.select tag mode)), .disturb (.fail "monitor/trace"),
        .act (.trace (.select tag .off))]
    let s := (new Daemon.calculator.line SessionConfig.default).run steps
    Daemon.calculator.traces = .empty ∧
      (∀ tag mode, .act (.trace (.select tag mode)) ∈ steps → tag.IsParsed) ∧
      s.channel.peer.traceTags = ["calc/request"] ∧ s.traces.confirmedMode tag ≠ .off ∧
      s.traces.mode tag = .off := by
  intro tag mode steps s
  have htag : tag.IsParsed := ⟨"calc/request", by rfl⟩
  have hsteps : ∀ tag mode, .act (.trace (.select tag mode)) ∈ steps → tag.IsParsed := by
    intro t mode hmem
    simp only [steps, List.mem_cons, Step.act.injEq, Action.trace.injEq, TraceAction.select.injEq,
      reduceCtorEq, false_or, List.not_mem_nil, or_false] at hmem
    rcases hmem with ⟨rfl, -⟩ | ⟨rfl, -⟩ <;> exact htag
  obtain ⟨-, -, hheld⟩ :=
    traceTags_eq_confirmed Daemon.calculator.line rfl SessionConfig.default steps hsteps
  have htags : s.channel.peer.traceTags = ["calc/request"] := by decide +kernel
  refine ⟨rfl, hsteps, htags, (hheld tag htag).1 ?_, by decide +kernel⟩
  show tag.text ∈ s.channel.peer.traceTags
  rw [htags]
  decide +kernel

end Session

end LiveTrace
