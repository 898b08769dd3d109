import Mathlib.Data.List.Induction
import LiveTrace.Proofs.Session.Subscriptions
import LiveTrace.Proofs.Session.Transcript
import LiveTrace.Proofs.Trace.Plan
/-!
# LiveTrace.Proofs.Session.Exclusivity

**One mode for each tag, as selected.** Over an open line to a daemon whose verb `monitor/trace`
does not fail, everything that an operator does about trace subscriptions succeeds: every call is
accepted, each tag is displayed and confirmed in the mode selected last, and the daemon holds the
active tags (`Session.traces_exclusive`).

The point is that a drop is never refused. It is sent for a tag whose displayed mode is active; that
mode is the confirmed one (`Session.Shows`), and so the daemon holds the tag.
-/

namespace LiveTrace

/-- The mode in which an action leaves a tag, if it is about the tag. -/
def TraceAction.mode? (t : TraceTag) : TraceAction → Option TraceMode
  | select tag mode => if t = tag then some mode else none
  | untraceAll => some .off

/-- The mode selected last for a tag since everything was retracted last. -/
def selectedLast (actions : List TraceAction) (t : TraceTag) : TraceMode :=
  (actions.reverse.findSome? (·.mode? t)).getD .off

theorem selectedLast_concat (actions : List TraceAction) (a : TraceAction) (t : TraceTag) :
    selectedLast (actions ++ [a]) t = (a.mode? t).getD (selectedLast actions t) := by
  rw [selectedLast, List.reverse_append, List.reverse_singleton, List.singleton_append,
    List.findSome?_cons]
  cases a.mode? t <;> rfl

namespace Session

/-- Do things about trace subscriptions one after the other. -/
def traceAll {τ : Type*} [Channel τ] (s : Session τ) (actions : List TraceAction) : Session τ :=
  s.run (actions.map fun a => (.act (.trace a) : Step Empty))

theorem traceAll_concat {τ : Type*} [Channel τ] (s : Session τ) (actions : List TraceAction)
    (a : TraceAction) : s.traceAll (actions ++ [a]) = ((s.traceAll actions).trace a).2 := by
  rw [traceAll, List.map_append, List.map_singleton, run_concat]
  rfl

/-- The line is open and leads to a daemon that serves `monitor/trace`. -/
structure Undisturbed (s : Session (Line Daemon)) : Prop where
  named : s.options.monitorApi = "monitor"
  connected : s.channel.closed = false
  working : s.channel.peer.failing.contains "monitor/trace" = false

variable {s : Session (Line Daemon)}

/-! ### Commands that are accepted -/

theorem Undisturbed.apiVerb (h : s.Undisturbed) : s.apiVerb "trace" = "monitor/trace" := by
  rw [Session.apiVerb, h.named]
  rfl

theorem Undisturbed.handle (h : s.Undisturbed) (c : TraceCommand) :
    s.channel.peer.handle (s.apiVerb "trace") c.args =
      if c.isAccepted s.channel.peer.traces then
        (.success none, { s.channel.peer with traces := c.effect s.channel.peer.traces })
      else (Daemon.refuse "tag not found", s.channel.peer) := by
  rw [h.apiVerb]
  exact s.channel.peer.handle_trace h.working c

theorem Undisturbed.isAccepted (h : s.Undisturbed) (c : TraceCommand) :
    (s.settledCall "trace" c.args).isAccepted = c.isAccepted s.channel.peer.traces := by
  rw [SettledCall.isAccepted, settledCall, Daemon.call_of_open h.connected, Caller.isOk_outcome,
    h.handle]
  cases c.isAccepted s.channel.peer.traces <;> rfl

theorem Undisturbed.isOk_call (h : s.Undisturbed) (c : TraceCommand) :
    (s.call "trace" c.args).1.isOk = c.isAccepted s.channel.peer.traces :=
  (s.isOk_call "trace" c.args).trans (h.isAccepted c)

/-- A call for a command disturbs nothing. -/
theorem Undisturbed.of_call (h : s.Undisturbed) {c : TraceCommand} {t : Session (Line Daemon)}
    (hoptions : t.options = s.options)
    (hchannel : t.channel = (Channel.call s.channel (s.apiVerb "trace") c.args).2) :
    t.Undisturbed := by
  rw [Daemon.call_of_open h.connected, h.handle] at hchannel
  refine ⟨?_, ?_, ?_⟩
  · rw [hoptions]
    exact h.named
  · rw [hchannel]
    exact h.connected
  · rw [hchannel]
    cases c.isAccepted s.channel.peer.traces <;> exact h.working

theorem Undisturbed.sendCommand (h : s.Undisturbed) (c : TraceCommand) :
    (s.sendCommand c).2.Undisturbed :=
  h.of_call (s.options_sendCommand c) (s.channel_sendCommand c)

theorem map_unit_of_isOk {x : Except MonitorError Reply} (h : x.isOk = true) :
    (x.map fun _ => ()) = .ok () := by
  cases x with
  | error e => contradiction
  | ok r => rfl

/-- An accepted command has its effect on both sides. -/
theorem Undisturbed.sendCommand_of_accepted (h : s.Undisturbed) {c : TraceCommand}
    (hc : c.isAccepted s.channel.peer.traces = true) :
    (s.sendCommand c).1 = .ok () ∧ (s.sendCommand c).2.traces = s.traces.confirm c ∧
      (s.sendCommand c).2.channel.peer.traces = c.effect s.channel.peer.traces := by
  have hok : (s.call "trace" c.args).1.isOk = true := (h.isOk_call c).trans hc
  refine ⟨?_, ?_, ?_⟩
  · rw [fst_sendCommand, map_unit_of_isOk hok]
  · rw [traces_sendCommand, if_pos hok]
  · rw [channel_sendCommand, Daemon.call_of_open h.connected, h.handle, if_pos hc]

theorem Undisturbed.sendCommands_of_accepted (h : s.Undisturbed) {l : List TraceCommand}
    (hl : TraceCommand.AreAccepted s.channel.peer.traces l) :
    (s.sendCommands l).1 = .ok () ∧ (∀ e ∈ s.settledCalls l, e.isAccepted = true) ∧
      (s.sendCommands l).2.traces = l.foldl TraceSubscriptions.confirm s.traces ∧
      (s.sendCommands l).2.Undisturbed := by
  induction l generalizing s with
  | nil => exact ⟨rfl, nofun, rfl, h⟩
  | cons c rest ih =>
    obtain ⟨hresult, htraces, hheld⟩ := h.sendCommand_of_accepted hl.1
    obtain ⟨hok, hsettled, hconfirmed, hs⟩ := ih (h.sendCommand c) (hheld ▸ hl.2)
    rw [sendCommands_cons, hresult]
    refine ⟨hok, fun e he => ?_, ?_, hs⟩
    · rcases List.mem_cons.1 he with rfl | he
      · exact (h.isAccepted c).trans hl.1
      · exact hsettled e he
    · rw [hconfirmed, htraces, List.foldl_cons]

/-! ### Actions -/

/-- Each tag is displayed and confirmed in one mode, and the daemon agrees. -/
structure Shows (s : Session (Line Daemon)) (modes : TraceTag → TraceMode) : Prop where
  undisturbed : s.Undisturbed
  inStep : s.InStep
  slot : ∀ t, s.traces.slot t = ⟨modes t, modes t⟩

theorem Shows.mode {modes : TraceTag → TraceMode} (h : s.Shows modes) (t : TraceTag) :
    s.traces.mode t = modes t := congrArg TraceSlot.displayed (h.slot t)

theorem Shows.confirmedMode {modes : TraceTag → TraceMode} (h : s.Shows modes) (t : TraceTag) :
    s.traces.confirmedMode t = modes t := congrArg TraceSlot.confirmed (h.slot t)

theorem Shows.select {modes : TraceTag → TraceMode} (h : s.Shows modes) {tag : TraceTag}
    (htag : tag.IsParsed) (mode : TraceMode) :
    (s.trace (.select tag mode)).1 = .ok () ∧
      (∀ e ∈ s.sent (.select tag mode), e.isAccepted = true) ∧
      (s.trace (.select tag mode)).2.Shows fun t => if t = tag then mode else modes t := by
  have hsame : s.traces.mode tag = s.traces.confirmedMode tag := by
    rw [h.mode, h.confirmedMode]
  have haccepted : TraceCommand.AreAccepted s.channel.peer.traces (s.traces.plan tag mode) :=
    TraceSubscriptions.Agrees.plan_accepted h.inStep htag hsame mode
  have hinStep := h.inStep.trace (a := .select tag mode) fun t m heq => by
    cases heq
    exact htag
  -- displaying the mode changes neither the line nor what it leads to
  have hdisplayed : ({ s with traces := (s.traces.select tag mode).2 } : Session _).Undisturbed :=
    ⟨h.undisturbed.named, h.undisturbed.connected, h.undisturbed.working⟩
  obtain ⟨hok, hsettled, hconfirmed, hs⟩ := hdisplayed.sendCommands_of_accepted haccepted
  rw [sent_eq_settledCalls]
  rw [trace_select] at hinStep ⊢
  refine ⟨hok, fun e he => hsettled e ?_, hs, hinStep, fun t => ?_⟩
  · rwa [settledCalls_congr (t := s) (by rfl) (by rfl)]
  · rw [hconfirmed]
    refine (TraceSubscriptions.slot_confirm_plan hsame mode t).trans ?_
    rw [h.slot]
    split <;> rfl

theorem Shows.untraceAll {modes : TraceTag → TraceMode} (h : s.Shows modes) :
    (s.trace .untraceAll).1 = .ok () ∧ (∀ e ∈ s.sent .untraceAll, e.isAccepted = true) ∧
      (s.trace .untraceAll).2.Shows fun _ => .off := by
  have hok : (s.call "trace" TraceCommand.dropAll.args).1.isOk = true :=
    h.undisturbed.isOk_call .dropAll
  refine ⟨s.fst_untraceAll.trans (map_unit_of_isOk hok), fun e he => ?_, ?_⟩
  · rw [sent_eq_settledCalls] at he
    rw [List.mem_singleton.1 he]
    exact h.undisturbed.isAccepted .dropAll
  · refine ⟨h.undisturbed.of_call s.options_untraceAll s.channel_untraceAll,
      h.inStep.untraceAll, fun t => ?_⟩
    show s.untraceAll.2.traces.slot t = _
    rw [traces_untraceAll, if_pos hok, TraceSubscriptions.slot_confirm,
      TraceSubscriptions.slot_resetAll]
    rfl

/-- **Every action succeeds** and moves the tags that it is about. -/
theorem Shows.trace {modes : TraceTag → TraceMode} (h : s.Shows modes) {a : TraceAction}
    (ha : ∀ tag mode, a = .select tag mode → tag.IsParsed) :
    (s.trace a).1 = .ok () ∧ (∀ e ∈ s.sent a, e.isAccepted = true) ∧
      (s.trace a).2.Shows fun t => (a.mode? t).getD (modes t) := by
  cases a with
  | select tag mode =>
    obtain ⟨hok, hsent, hshows⟩ := h.select (ha tag mode rfl) mode
    refine ⟨hok, hsent, hshows.undisturbed, hshows.inStep, fun t => ?_⟩
    rw [hshows.slot, TraceAction.mode?]
    split <;> rfl
  | untraceAll => exact h.untraceAll

/-! ### Runs -/

theorem shows_traceAll (hs : s.Undisturbed) (hempty : s.traces = .empty)
    (hheld : s.channel.peer.traces = .empty) {actions : List TraceAction}
    (hactions : ∀ tag mode, .select tag mode ∈ actions → tag.IsParsed) :
    (s.traceAll actions).Shows (selectedLast actions) := by
  -- from the end, because the last action about a tag decides
  induction actions using List.reverseRecOn with
  | nil =>
    refine ⟨hs, ?_, fun t => ?_⟩
    · rw [InStep, show (s.traceAll []).traces = s.traces from rfl,
        show (s.traceAll []).channel.peer.traces = s.channel.peer.traces from rfl, hempty, hheld]
      exact TraceSubscriptions.agrees_empty
    · rw [show (s.traceAll []).traces = s.traces from rfl, hempty]
      rfl
  | append_singleton actions a ih =>
    have hbefore := ih fun tag mode hmem => hactions tag mode (List.mem_append_left _ hmem)
    have hlast (tag : TraceTag) (mode : TraceMode) (ha : a = .select tag mode) : tag.IsParsed :=
      hactions tag mode (ha ▸ List.mem_append_right _ (List.mem_singleton_self a))
    rw [traceAll_concat, funext (selectedLast_concat actions a)]
    exact (hbefore.trace hlast).2.2

/-- **One mode for each tag, as selected.** Take an open line to a daemon with the API `monitor`,
whose verb `trace` does not fail, and nothing subscribed on either side. After any run of selections
of tags that can be read and retractions of everything, no tag has drifted; each is displayed and
confirmed in the mode selected last; and the tags of the daemon are the texts of the active ones.
Whatever is done next succeeds, and each call that it makes is accepted; a selection calls for a
drop if another mode was active and then for an add unless tracing is turned off, or for nothing if
the mode is displayed already. The beginning of such a run is one too, so this holds of every
operation of it. -/
theorem traces_exclusive (s : Session (Line Daemon)) (hs : s.Undisturbed)
    (hempty : s.traces = .empty) (hheld : s.channel.peer.traces = .empty)
    (actions : List TraceAction)
    (hactions : ∀ tag mode, .select tag mode ∈ actions → tag.IsParsed) :
    let s' := s.traceAll actions
    s'.traces.drifted = [] ∧
      (∀ t, s'.traces.mode t = selectedLast actions t ∧
        s'.traces.confirmedMode t = selectedLast actions t) ∧
      s'.channel.peer.traceTags.Pairwise (· < ·) ∧
      (∀ x, x ∈ s'.channel.peer.traceTags ↔
        ∃ t mode, (t, mode) ∈ s'.traces.active ∧ t.text = x) ∧
      ∀ a, (∀ tag mode, a = .select tag mode → tag.IsParsed) →
        (s'.trace a).1 = .ok () ∧ (∀ e ∈ s'.sent a, e.isAccepted = true) ∧
          ∀ tag mode, a = .select tag mode → (s'.sent a).map SettledCall.request =
            if mode = s'.traces.mode tag then []
            else
              (if s'.traces.mode tag = .off then []
                else [("monitor/trace", (TraceCommand.drop tag).args)]) ++
              (if mode = .off then []
                else [("monitor/trace", (TraceCommand.add tag mode).args)]) := by
  intro s'
  have h : s'.Shows (selectedLast actions) := shows_traceAll hs hempty hheld hactions
  refine ⟨?_, fun t => ⟨h.mode t, h.confirmedMode t⟩, Daemon.traceTags_ascending _, fun x => ?_,
    fun a ha => ?_⟩
  · rw [TraceSubscriptions.drifted_eq_nil_iff]
    exact fun t => (h.mode t).trans (h.confirmedMode t).symm
  · rw [Daemon.mem_traceTags, h.inStep.held_iff]
    constructor
    · rintro ⟨t, ht, rfl⟩
      refine ⟨t, s'.traces.mode t, TraceSubscriptions.mem_active.2 ⟨rfl, ?_⟩, rfl⟩
      rwa [h.mode, ← h.confirmedMode]
    · rintro ⟨t, mode, hactive, rfl⟩
      obtain ⟨rfl, hmode⟩ := TraceSubscriptions.mem_active.1 hactive
      rw [h.mode, ← h.confirmedMode] at hmode
      exact ⟨t, hmode, rfl⟩
  · obtain ⟨hok, hsent, -⟩ := h.trace ha
    refine ⟨hok, hsent, ?_⟩
    rintro tag mode rfl
    rw [sent_eq_settledCalls, request_settledCalls, h.undisturbed.apiVerb, commands,
      TraceSubscriptions.plan_eq]
    simp only [apply_ite (List.map _), List.map_append, List.map_nil, List.map_singleton]

/-- Two selections for one tag and then none. -/
theorem traces_exclusive_calculator :
    let tag : TraceTag := ⟨some "calc", .request⟩
    let s := new Daemon.calculator.line SessionConfig.default
    let modes := ["all", "comment"].filterMap TraceMode.ofName?
    let actions := modes.map (TraceAction.select tag)
    let s' := s.traceAll actions
    s.Undisturbed ∧ (∀ tag mode, .select tag mode ∈ actions → tag.IsParsed) ∧
      s'.traces.drifted = [] ∧ (s'.traces.mode tag).name = "comment" ∧
      s'.channel.peer.traceTags = ["calc/request"] := by
  intro tag s modes actions s'
  have htag : tag.IsParsed := ⟨"calc/request", by rfl⟩
  have hs : s.Undisturbed := ⟨rfl, rfl, rfl⟩
  have hactions : ∀ tag mode, .select tag mode ∈ actions → tag.IsParsed := by
    intro t mode hmem
    obtain ⟨m, -, heq⟩ := List.mem_map.1 hmem
    cases heq
    exact htag
  obtain ⟨hdrifted, hmodes, -⟩ := traces_exclusive s hs rfl rfl actions hactions
  refine ⟨hs, hactions, hdrifted, ?_, by decide +kernel⟩
  rw [(hmodes tag).1]
  decide +kernel

end Session

end LiveTrace
