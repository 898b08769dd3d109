import Mathlib.Data.List.DropRight
import LiveTrace.Proofs.Session.Failure
import LiveTrace.Proofs.Session.History
/-!
# LiveTrace.Proofs.Session.Events

**What becomes of pushed events.** A pushed event is handled by a step of a run, and what it is
taken for depends on the settings of the session at that moment (`Session.Moment`). Two buffers take
it up. The trace events that are kept are the last ones of those that moments since the last clear
give, and no other step touches them (`Session.kept_run`). The log is offered entries of the kinds
that the classification tells, whatever it is (`Session.entries_step_of_pushed`).
-/

namespace LiveTrace

universe u v

/-! ### Classifications -/

namespace Classification

/-- The trace event to show. -/
def trace? : Classification → Option TraceEvent
  | trace event => some event
  | suppressed _ | unexpected _ | malformed _ => none

/-- Kinds of the entries that a pushed event leaves in the log. -/
def logKinds : Classification → List LogKind
  | trace _ | suppressed _ => [.trace]
  | unexpected _ => [.event]
  | malformed _ => [.trace, .error]

/-- No payload makes an event unexpected. -/
theorem ofPayload_ne_unexpected (options : ClassifyOptions) (data : List (String × Json))
    (push : PushEvent) : ofPayload options data ≠ .unexpected push := by
  unfold ofPayload
  split
  · exact nofun
  · split
    · exact nofun
    · split <;> exact nofun
  · exact nofun

/-- An event is unexpected for its name. -/
theorem ofPush_ne_unexpected {options : ClassifyOptions} {push : PushEvent}
    (h : push.event = options.traceEventName) (other : PushEvent) :
    ofPush options push ≠ .unexpected other := by
  rw [ofPush, if_pos h]
  split
  · exact ofPayload_ne_unexpected options _ other
  · exact nofun

end Classification

/-- The pushed event, if one has arrived. -/
def Arrival.push? : Arrival → Option PushEvent
  | event push => some push
  | ended | pending => none

namespace Session

/-! ### Steps about events -/

/-- Whether a step drops the trace events that were kept. -/
def Step.isClear {δ : Type v} : Step δ → Bool
  | .act .clearTraceEvents => true
  | _ => false

/-- What a step sets for events that the monitoring API caused. -/
def Step.shown? {δ : Type v} : Step δ → Option Bool
  | .act (.setShowMonitorEvents shown) => some shown
  | _ => none

/-- A step of a run, and the session that takes it. -/
structure Moment (τ : Type u) (δ : Type v) where
  session : Session τ
  step : Step δ

variable {τ : Type u} {δ : Type v} [Channel τ]

/-- The pushed event that a step handles, if it does. -/
def pushed? (s : Session τ) : Step δ → Option PushEvent
  | .act (.handlePush push) => some push
  | .act .nextEvent => (Channel.receive s.channel).1.push?
  | _ => none

namespace Moment

/-- What the pushed event is taken for. -/
def classified? (m : Moment τ δ) : Option Classification :=
  (m.session.pushed? m.step).map fun push => .ofPush m.session.options push

/-- The trace event to show. -/
def traced? (m : Moment τ δ) : Option TraceEvent := m.classified?.bind Classification.trace?

/-- The moments since trace events were last dropped. -/
def sinceClear (l : List (Moment τ δ)) : List (Moment τ δ) :=
  l.rtakeWhile fun m => !m.step.isClear

omit [Channel τ] in
theorem sinceClear_concat (l : List (Moment τ δ)) (m : Moment τ δ) :
    sinceClear (l ++ [m]) = if m.step.isClear then [] else sinceClear l ++ [m] := by
  rw [sinceClear, List.rtakeWhile_concat, sinceClear]
  cases m.step.isClear <;> rfl

end Moment

/-! ### Events that are kept -/

omit [Channel τ] in
theorem kept_handlePush (s : Session τ) (push : PushEvent) :
    (s.handlePush push).2.kept =
      s.kept.pushAll (Classification.ofPush s.options push).trace?.toList := by
  unfold handlePush
  cases Classification.ofPush s.options push <;> rfl

theorem kept_markClosed (s : Session τ) : s.markClosed.kept = s.kept := by
  obtain ⟨feed, state, h⟩ := s.markClosed_frame
  rw [h]

theorem kept_nextEvent (s : Session τ) :
    s.nextEvent.2.kept =
      s.kept.pushAll (Moment.traced? ⟨s, (.act .nextEvent : Step δ)⟩).toList := by
  unfold Moment.traced? Moment.classified? pushed? nextEvent
  rcases Channel.receive s.channel with ⟨push | _ | _, c⟩
  · exact kept_handlePush (s.mapChannel fun _ => c) push
  · exact kept_markClosed (s.mapChannel fun _ => c)
  · rfl

theorem kept_refreshVerbosity (s : Session τ) : s.refreshVerbosity.2.kept = s.kept := by
  obtain ⟨verbosity, h⟩ := s.refreshVerbosity_frame
  rw [h]
  exact s.kept_call ..

theorem kept_setVerbosity (s : Session τ) (target : VerbosityTarget) (level : VerbosityLevel) :
    (s.setVerbosity target level).2.kept = s.kept := by
  by_cases h : s.verbosity.isHeld = true
  · rw [s.setVerbosity_of_isHeld h]
  · rw [s.setVerbosity_of_not_isHeld h]
    show (Session.refreshVerbosity _).2.kept = _
    rw [kept_refreshVerbosity, kept_call]
    rfl

theorem kept_untraceAll (s : Session τ) : s.untraceAll.2.kept = s.kept :=
  congrArg Knowledge.kept s.knowledge_untraceAll

theorem kept_trace (s : Session τ) (a : TraceAction) : (s.trace a).2.kept = s.kept := by
  cases a with
  | select tag mode => exact congrArg Knowledge.kept (s.knowledge_selectTrace tag mode)
  | untraceAll => exact s.kept_untraceAll

theorem kept_close (s : Session τ) : s.close.2.kept = s.kept := by
  rw [snd_close]
  split
  · rfl
  · exact s.kept_untraceAll

variable [Surroundings δ τ]

/-- **A step keeps the trace event that it handles**, and touches nothing that was kept before
unless it is a clear. -/
theorem kept_step (s : Session τ) (e : Step δ) :
    (s.step e).kept =
      if e.isClear then s.kept.clear else s.kept.pushAll (Moment.traced? ⟨s, e⟩).toList := by
  cases e with
  | disturb d => rfl
  | act a =>
    cases a with
    | nextEvent => exact s.kept_nextEvent
    | handlePush push => exact s.kept_handlePush push
    | discover => exact s.kept_discover
    | setVerbosity target level => exact s.kept_setVerbosity target level
    | refreshVerbosity => exact s.kept_refreshVerbosity
    | trace a => exact s.kept_trace a
    | sessionInfo refreshToken => exact s.kept_call ..
    | close => exact s.kept_close
    | clearTraceEvents | setShowMonitorEvents | setLogEnabled | clearLog | hold | release => rfl

/-- The moments of a run, in order. -/
def trail (s : Session τ) : List (Step δ) → List (Moment τ δ)
  | [] => []
  | e :: steps => ⟨s, e⟩ :: (s.step e).trail steps

theorem trail_concat (s : Session τ) (steps : List (Step δ)) (e : Step δ) :
    s.trail (steps ++ [e]) = s.trail steps ++ [⟨s.run steps, e⟩] := by
  induction steps generalizing s with
  | nil => rfl
  | cons e' steps ih =>
    rw [List.cons_append, trail, ih, trail, List.cons_append]
    rfl

theorem capacity_kept_run (s : Session τ) (steps : List (Step δ)) :
    (s.run steps).kept.capacity = s.kept.capacity := by
  refine run_induction (motive := fun t => t.kept.capacity = s.kept.capacity) s rfl ?_
  intro t ht e _
  rw [kept_step]
  split
  · exact ht
  · rw [Recent.capacity_pushAll, ht]

/-- **The events that are kept are the last ones since the last clear.** -/
theorem kept_run {s : Session τ} (hempty : s.kept.items = []) (steps : List (Step δ)) :
    (s.run steps).kept.items = Recent.last s.kept.capacity
      ((Moment.sinceClear (s.trail steps)).filterMap Moment.traced?) := by
  induction steps using List.reverseRecOn with
  | nil =>
    show s.kept.items = _
    rw [hempty]
    exact (Recent.last_eq_self (Nat.zero_le _)).symm
  | append_singleton steps e ih =>
    rw [run_concat, kept_step, trail_concat, Moment.sinceClear_concat]
    cases hclear : e.isClear with
    | true => exact (Recent.last_eq_self (Nat.zero_le _)).symm
    | false =>
      -- what was kept are the last ones up to here, so dropping from them is dropping from all
      show ((s.run steps).kept.pushAll _).items = _
      rw [Recent.items_pushAll, capacity_kept_run, ih, Recent.last_append_last, if_neg nofun,
        List.filterMap_append]
      cases h : Moment.traced? ⟨s.run steps, e⟩ <;> simp [h]

/-! ### Settings in force -/

/-- A step changes no setting but what it sets. -/
theorem options_step (s : Session τ) (e : Step δ) :
    (s.step e).options =
      { s.options with showMonitorEvents := e.shown?.getD s.options.showMonitorEvents } := by
  cases e with
  | disturb d => rfl
  | act a =>
    cases a with
    | nextEvent => exact s.options_nextEvent
    | handlePush push => exact s.options_handlePush push
    | discover => exact s.options_discover
    | setVerbosity target level => exact s.options_setVerbosity target level
    | refreshVerbosity => exact s.options_refreshVerbosity
    | trace a => exact s.options_trace a
    | sessionInfo refreshToken => exact s.options_call ..
    | close =>
      show s.close.2.options = _
      rw [snd_close]
      split
      · rfl
      · exact s.options_untraceAll
    | clearTraceEvents | setShowMonitorEvents | setLogEnabled | clearLog | hold | release => rfl

/-- What is set last is in force. -/
theorem options_run (s : Session τ) (steps : List (Step δ)) :
    (s.run steps).options =
      { s.options with
        showMonitorEvents :=
          (steps.reverse.findSome? Step.shown?).getD s.options.showMonitorEvents } := by
  induction steps using List.reverseRecOn with
  | nil => rfl
  | append_singleton steps e ih =>
    rw [run_concat, options_step, ih, List.reverse_append, List.reverse_singleton,
      List.singleton_append, List.findSome?_cons]
    cases e.shown? <;> rfl

/-! ### Entries of the log -/

omit [Channel τ] [Surroundings δ τ] in
/-- A pushed event is offered to the log as its classification tells. -/
theorem exists_pushChanges_eq (s : Session τ) (push : PushEvent) :
    ∃ entries : List LogEntry, s.pushChanges push = entries.map .entry ∧
      entries.map LogEntry.kind = (Classification.ofPush s.options push).logKinds := by
  unfold pushChanges pushEntry
  by_cases hname : push.event = s.options.traceEventName
  · have hexpected := Classification.ofPush_ne_unexpected hname
    rw [if_pos hname]
    cases hc : Classification.ofPush s.options push with
    | trace event => exact ⟨[_], rfl, rfl⟩
    | suppressed variant => exact ⟨[_], rfl, rfl⟩
    | malformed reason => exact ⟨[_, _], rfl, rfl⟩
    | unexpected other => exact absurd hc (hexpected other)
  · have hunexpected : Classification.ofPush s.options push = .unexpected push := if_neg hname
    rw [if_neg hname, hunexpected]
    exact ⟨[_], rfl, rfl⟩

/-- A step that handles a pushed event does nothing else to the log. -/
theorem feed_step_of_pushed {s : Session τ} {e : Step δ} {push : PushEvent}
    (h : s.pushed? e = some push) : (s.step e).feed = s.feed.changeAll (s.pushChanges push) := by
  match e, h with
  | .act (.handlePush _), h =>
    obtain rfl := Option.some.inj h
    exact s.feed_handlePush _
  | .act .nextEvent, h =>
    show s.nextEvent.2.feed = _
    rw [feed_nextEvent, changes]
    rw [pushed?] at h
    cases harrival : (Channel.receive s.channel).1 with
    | event push' =>
      rw [harrival] at h
      obtain rfl := Option.some.inj h
      rfl
    | ended =>
      rw [harrival] at h
      contradiction
    | pending =>
      rw [harrival] at h
      contradiction

/-- **A pushed event adds entries of the kinds that its classification tells**, in a log that is
switched on. -/
theorem entries_step_of_pushed {s : Session τ} {e : Step δ} {push : PushEvent}
    (h : s.pushed? e = some push) (henabled : s.feed.enabled = true) :
    ∃ added : List LogEntry,
      added.map LogEntry.kind = (Classification.ofPush s.options push).logKinds ∧
      (s.step e).feed.entries =
        Recent.last s.feed.recent.capacity (s.feed.entries ++ added) := by
  obtain ⟨added, hchanges, hkinds⟩ := s.exists_pushChanges_eq push
  refine ⟨added, hkinds, ?_⟩
  rw [feed_step_of_pushed h, hchanges, LogFeed.changeAll_entries, LogFeed.pushAll_eq,
    if_pos henabled]
  exact Recent.items_pushAll ..

/-- Clearing what was kept and changing what is shown leave the log alone. -/
theorem feed_step_of_setting (s : Session τ) {e : Step δ}
    (h : e.isClear = true ∨ e.shown?.isSome = true) : (s.step e).feed = s.feed := by
  match e, h with
  | .act .clearTraceEvents, _ => rfl
  | .act (.setShowMonitorEvents _), _ => rfl

end Session

end LiveTrace
