import Mathlib.Data.List.Induction
import LiveTrace.Proofs.Session.Transcript
/-!
# LiveTrace.Proofs.Session.Calls

**The calls of an action.** Which calls an action makes is read off a recorded session
(`Session.made`), and for each action there is a lemma that lists them. The transcript of a run is
made of the calls of its steps, so it can be taken apart step by step (`Session.transcript_cons`).
-/

namespace LiveTrace

universe u v

namespace Session

variable {τ : Type u} {δ : Type v} [Channel τ]

/-! ### Calls of actions -/

/-- The calls that an action makes, and how they are settled. -/
def made (s : Session τ) (a : Action) : List SettledCall := (s.recorded.perform a).2.record

theorem made_discover (s : Session τ) :
    s.made .discover = [s.settledCall "get" discoveryArgs] := s.recorded.record_discover

theorem made_refreshVerbosity (s : Session τ) :
    s.made .refreshVerbosity = [s.settledCall "get" levelsArgs] :=
  s.recorded.record_refreshVerbosity

theorem erase_asked (s : Session (Recorded τ)) (target : VerbosityTarget) (level : VerbosityLevel) :
    (s.asked target level).erase = s.erase.asked target level :=
  (congrArg Prod.snd ((s.asking target level).erase_call "set" _)).symm

theorem made_setVerbosity_of_isHeld (s : Session τ) (h : s.verbosity.isHeld = true)
    (target : VerbosityTarget) (level : VerbosityLevel) :
    s.made (.setVerbosity target level) = [] := by
  have hheld : s.recorded.verbosity.isHeld = true := h
  show (s.recorded.setVerbosity target level).2.record = []
  rw [setVerbosity_of_isHeld _ hheld]
  rfl

theorem made_setVerbosity (s : Session τ) (h : ¬ s.verbosity.isHeld = true)
    (target : VerbosityTarget) (level : VerbosityLevel) :
    s.made (.setVerbosity target level) =
      [(s.asking target level).settledCall "set" (VerbosityCommand.args ⟨target, level⟩),
        (s.asked target level).settledCall "get" levelsArgs] := by
  have hasked : (s.recorded.asked target level).erase = s.asked target level :=
    s.recorded.erase_asked target level
  rw [← hasked]
  exact s.recorded.record_setVerbosity h target level

theorem made_trace (s : Session τ) (a : TraceAction) :
    s.made (.trace a) = s.settledCalls (s.commands a) := s.sent_eq_settledCalls a

theorem made_sessionInfo (s : Session τ) (refreshToken : Bool) :
    s.made (.sessionInfo refreshToken) =
      [s.settledCall "session" (.object [("refresh-token", .bool refreshToken)])] :=
  s.recorded.record_sessionInfo refreshToken

theorem made_nextEvent (s : Session τ) : s.made .nextEvent = [] := s.recorded.record_nextEvent

theorem made_handlePush (s : Session τ) (push : PushEvent) : s.made (.handlePush push) = [] :=
  congrArg Recorded.record (s.recorded.channel_handlePush push)

theorem made_close (s : Session τ) :
    s.made .close =
      if s.state = .closed then [] else [s.settledCall "trace" TraceCommand.dropAll.args] :=
  s.recorded.record_close

/-- Recording goes on where it was. -/
theorem record_perform (s : Session (Recorded τ)) (a : Action) :
    (s.perform a).2.record = s.record ++ s.erase.made a := by
  cases a with
  | discover => rw [made_discover]; exact s.record_discover
  | refreshVerbosity => rw [made_refreshVerbosity]; exact s.record_refreshVerbosity
  | setVerbosity target level =>
    by_cases h : s.verbosity.isHeld = true
    · have hheld : s.erase.verbosity.isHeld = true := h
      rw [made_setVerbosity_of_isHeld _ hheld, List.append_nil]
      show (s.setVerbosity target level).2.record = _
      rw [setVerbosity_of_isHeld _ h]
      rfl
    · have hheld : ¬ s.erase.verbosity.isHeld = true := h
      rw [made_setVerbosity _ hheld, ← erase_asked]
      exact s.record_setVerbosity h target level
  | trace a => rw [made_trace, erase_settledCalls]; exact s.record_trace a
  | sessionInfo refreshToken => rw [made_sessionInfo]; exact s.record_sessionInfo refreshToken
  | nextEvent => rw [made_nextEvent, List.append_nil]; exact s.record_nextEvent
  | handlePush push =>
    rw [made_handlePush, List.append_nil]
    exact congrArg Recorded.record (s.channel_handlePush push)
  | close => rw [made_close]; exact s.record_close
  | clearTraceEvents | setShowMonitorEvents | setLogEnabled | clearLog | hold | release =>
    exact (List.append_nil _).symm

/-! ### Which commands succeed -/

/-- Commands succeed if and only if each of their calls is accepted. -/
theorem isOk_sendCommands (s : Session τ) (l : List TraceCommand) :
    (s.sendCommands l).1.isOk = (s.settledCalls l).all SettledCall.isAccepted := by
  induction l generalizing s with
  | nil => rfl
  | cons c rest ih =>
    have hcall : (s.call "trace" c.args).1.isOk = (s.settledCall "trace" c.args).isAccepted :=
      s.isOk_call ..
    have hfirst : (s.sendCommand c).1.isOk = (s.settledCall "trace" c.args).isAccepted := by
      rw [fst_sendCommand, ← hcall]
      cases (s.call "trace" c.args).1 <;> rfl
    rw [sendCommands_cons, settledCalls, List.all_cons, ← hfirst, ← ih]
    cases (s.sendCommand c).1 <;> rfl

/-- **A selection succeeds if and only if each of its calls is accepted.** -/
theorem isOk_selectTrace (s : Session τ) (tag : TraceTag) (mode : TraceMode) :
    (s.selectTrace tag mode).1.isOk =
      (s.made (.trace (.select tag mode))).all SettledCall.isAccepted := by
  have hselect : s.selectTrace tag mode = s.trace (.select tag mode) := rfl
  rw [hselect, trace_select, isOk_sendCommands, settledCalls_traces, made_trace]
  rfl

/-! ### Calls of steps and runs -/

/-- The calls of a step. -/
def stepCalls (s : Session τ) : Step δ → List SettledCall
  | .act a => s.made a
  | .disturb _ => []

section Run

variable [Surroundings δ τ]

theorem record_step (s : Session (Recorded τ)) (e : Step δ) :
    (s.step e).record = s.record ++ s.erase.stepCalls e := by
  cases e with
  | act a => exact s.record_perform a
  | disturb d => exact (List.append_nil _).symm

theorem record_run (s : Session (Recorded τ)) (steps : List (Step δ)) :
    (s.run steps).record = s.record ++ s.erase.transcript steps := by
  induction steps using List.reverseRecOn with
  | nil => exact (List.append_nil _).symm
  | append_singleton steps e ih =>
    have herase : (s.run steps).erase = (s.erase.recorded.run steps).erase := by
      rw [erase_run, erase_run_recorded]
    have hlast : s.erase.transcript (steps ++ [e]) =
        s.erase.transcript steps ++ (s.run steps).erase.stepCalls e := by
      rw [transcript, run_concat, record_step, herase]
      rfl
    rw [run_concat, record_step, ih, hlast, List.append_assoc]

/-- **The transcript of a run is that of its first step and that of the rest.** -/
theorem transcript_cons (s : Session τ) (e : Step δ) (steps : List (Step δ)) :
    s.transcript (e :: steps) = s.stepCalls e ++ (s.step e).transcript steps := by
  have hfirst : (s.recorded.step e).record = s.stepCalls e := s.recorded.record_step e
  have hrest : (s.recorded.step e).erase = s.step e := s.recorded.erase_step e
  show ((s.recorded.step e).run steps).record = _
  rw [record_run, hfirst, hrest]

end Run

end Session

end LiveTrace
