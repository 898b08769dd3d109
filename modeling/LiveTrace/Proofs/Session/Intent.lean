import Mathlib.Data.List.Induction
import LiveTrace.Proofs.Session.Commands
import LiveTrace.Proofs.Session.Exclusivity
/-!
# LiveTrace.Proofs.Session.Intent

**What the operator wants does not depend on the daemon.** Commands are planned from displayed
modes, and these move by what is selected only, whatever becomes of the commands
(`Session.mode_trace`). So two sessions that display the same send the same commands for the same
action, and display the same afterwards, although one may be obeyed and the other refused or cut off
(`Session.displayed_independently`).

Seen from one tag, the commands of a run are a series of adds and drops that alternate strictly
(`Move.Alternate`): a tag is added where it is displayed as off, and dropped where it is not.
-/

namespace LiveTrace

universe u v w

/-! ### Moves of one tag -/

/-- What a command does to the subscription of a tag. -/
inductive Move
  | add
  | drop
  deriving DecidableEq

namespace Move

/-- The other move. -/
def other : Move → Move
  | add => drop
  | drop => add

/-- The moves alternate strictly, beginning with the given one. -/
def Alternate : Move → List Move → Prop
  | _, [] => True
  | first, m :: rest => m = first ∧ Alternate first.other rest

/-- The move that is due for a tag displayed in a mode. -/
def due (shown : TraceMode) : Move := if shown = .off then add else drop

theorem due_off : due .off = add := if_pos rfl

theorem due_of_ne {shown : TraceMode} (h : shown ≠ .off) : due shown = drop := if_neg h

end Move

/-- The move of a tag that is displayed in a mode when the command is sent. Dropping everything is a
drop of the tags that are displayed as active. -/
def TraceCommand.move? (t : TraceTag) (shown : TraceMode) : TraceCommand → Option Move
  | add tag _ => if tag = t then some .add else none
  | drop tag => if tag = t then some .drop else none
  | dropAll => if shown = .off then none else some .drop

/-- The move of a tag that comes with a command. -/
def Sending.move? {τ : Type u} (t : TraceTag) (x : Sending τ) : Option Move :=
  x.command.move? t (x.sender.traces.mode t)

namespace Session

variable {τ : Type u} {τ' : Type v} {δ : Type w} [Channel τ] [Channel τ']

/-- What an operator does about trace subscriptions, as the steps of a run. -/
def traceSteps (δ : Type w) (actions : List TraceAction) : List (Step δ) :=
  actions.map fun a => .act (.trace a)

/-! ### Displayed modes -/

theorem mode_sendCommands (s : Session τ) (l : List TraceCommand) (t : TraceTag) :
    (s.sendCommands l).2.traces.mode t = s.traces.mode t := by
  rw [TraceSubscriptions.mode, slot_sendCommands, TraceSubscriptions.mode]

/-- **An action displays what it is about**, whatever becomes of its commands. -/
theorem mode_trace (s : Session τ) (a : TraceAction) (t : TraceTag) :
    (s.trace a).2.traces.mode t = (a.mode? t).getD (s.traces.mode t) := by
  cases a with
  | select tag mode =>
    have hselect := congrArg TraceSlot.displayed (s.traces.slot_select tag t mode)
    rw [trace_select, mode_sendCommands, TraceAction.mode?]
    refine Eq.trans hselect ?_
    by_cases ht : t = tag
    · rw [if_pos ht, if_pos ht]
      rfl
    · rw [if_neg ht, if_neg ht]
      rfl
  | untraceAll =>
    have hreset := congrArg TraceSlot.displayed (s.traces.slot_resetAll t)
    show s.untraceAll.2.traces.mode t = .off
    rw [traces_untraceAll]
    split
    · exact (congrArg TraceSlot.displayed (TraceSubscriptions.slot_confirm ..)).trans hreset
    · exact hreset

theorem mode_run_traceSteps [Surroundings δ τ] {s : Session τ} (hempty : s.traces = .empty)
    (actions : List TraceAction) (t : TraceTag) :
    (s.run (traceSteps δ actions)).traces.mode t = selectedLast actions t := by
  induction actions using List.reverseRecOn with
  | nil =>
    show s.traces.mode t = .off
    rw [hempty]
    rfl
  | append_singleton actions a ih =>
    have hrun : s.run (traceSteps δ (actions ++ [a])) =
        ((s.run (traceSteps δ actions)).trace a).2 := by
      rw [traceSteps, List.map_append, List.map_singleton, run_concat]
      rfl
    rw [hrun, mode_trace, ih, selectedLast_concat]

/-! ### Commands -/

theorem map_command_traceSendings (s : Session τ) (a : TraceAction) :
    (s.traceSendings a).map Sending.command = s.commands a := by
  cases a with
  | select tag mode => exact map_command_sendings ..
  | untraceAll => rfl

omit [Channel τ] [Channel τ'] in
/-- The commands of an action are told by what is displayed. -/
theorem commands_congr {s : Session τ} {s' : Session τ'}
    (h : ∀ t, s.traces.mode t = s'.traces.mode t) (a : TraceAction) :
    s.commands a = s'.commands a := by
  cases a with
  | select tag mode =>
    show TraceSubscriptions.plan .. = TraceSubscriptions.plan ..
    rw [TraceSubscriptions.plan, TraceSubscriptions.plan, h]
  | untraceAll => rfl

theorem runSendings_traceSteps_cons [Surroundings δ τ] (s : Session τ) (a : TraceAction)
    (rest : List TraceAction) :
    s.runSendings (traceSteps δ (a :: rest)) =
      s.traceSendings a ++ (s.trace a).2.runSendings (traceSteps δ rest) := rfl

/-- **Sessions that display the same send the same commands.** -/
theorem map_command_runSendings_congr [Surroundings δ τ] [Surroundings δ τ'] {s : Session τ}
    {s' : Session τ'} (h : ∀ t, s.traces.mode t = s'.traces.mode t) (actions : List TraceAction) :
    (s.runSendings (traceSteps δ actions)).map Sending.command =
      (s'.runSendings (traceSteps δ actions)).map Sending.command := by
  induction actions generalizing s s' with
  | nil => rfl
  | cons a rest ih =>
    have hafter : ∀ t, (s.trace a).2.traces.mode t = (s'.trace a).2.traces.mode t := by
      intro t
      rw [mode_trace, mode_trace, h]
    rw [runSendings_traceSteps_cons, runSendings_traceSteps_cons, List.map_append, List.map_append,
      map_command_traceSendings, map_command_traceSendings, commands_congr h, ih hafter]

/-- What a session over a recorded channel asks for is what its commands say. -/
theorem record_run_traceSteps [Surroundings δ τ] (s : Session (Recorded τ))
    (actions : List TraceAction) :
    (s.run (traceSteps δ actions)).record.map SettledCall.request =
      s.record.map SettledCall.request ++
        (s.runSendings (traceSteps δ actions)).map fun x =>
          (s.apiVerb "trace", x.command.args) := by
  induction actions generalizing s with
  | nil => simp [traceSteps, runSendings]
  | cons a rest ih =>
    have hverb : (s.trace a).2.apiVerb "trace" = s.apiVerb "trace" := by
      rw [apiVerb, options_trace, apiVerb]
    have hsent : (s.trace a).2.record.map SettledCall.request = s.record.map SettledCall.request ++
        (s.traceSendings a).map fun x => (s.apiVerb "trace", x.command.args) := by
      rw [record_trace, List.map_append, request_settledCalls, ← map_command_traceSendings,
        List.map_map]
      rfl
    show ((s.trace a).2.run (traceSteps δ rest)).record.map _ = _
    rw [ih, hsent, hverb, runSendings_traceSteps_cons, List.map_append, List.append_assoc]

/-- The calls of a run are those of its commands. -/
theorem request_transcript [Surroundings δ τ] (s : Session τ) (actions : List TraceAction) :
    (s.transcript (traceSteps δ actions)).map SettledCall.request =
      (s.runSendings (traceSteps δ actions)).map fun x =>
        (s.apiVerb "trace", x.command.args) := by
  have hsame (t : TraceTag) : s.recorded.traces.mode t = s.traces.mode t := rfl
  have hcommands : (s.recorded.runSendings (traceSteps δ actions)).map Sending.command =
      (s.runSendings (traceSteps δ actions)).map Sending.command :=
    map_command_runSendings_congr hsame actions
  have hcalls := congrArg (List.map fun c => (s.apiVerb "trace", TraceCommand.args c)) hcommands
  rw [List.map_map, List.map_map] at hcalls
  exact (s.recorded.record_run_traceSteps actions).trans hcalls

/-! ### Moves -/

/-- The moves of commands that are sent one after the other, for a tag whose display they leave
alone. -/
theorem moves_sendings (s : Session τ) (l : List TraceCommand) (t : TraceTag) :
    (s.sendings l).filterMap (Sending.move? t) =
      l.filterMap fun c => c.move? t (s.traces.mode t) := by
  induction l generalizing s with
  | nil => rfl
  | cons c rest ih =>
    have hmode : (s.sendCommand c).2.traces.mode t = s.traces.mode t := by
      have h := s.mode_sendCommands [c] t
      rwa [sendCommands_cons] at h
    rw [sendings, List.filterMap_cons, List.filterMap_cons, ih, hmode]
    rfl

/-- A plan moves its tag only, as is due. -/
theorem alternate_plan (traces : TraceSubscriptions) (tag t : TraceTag) (wanted shown : TraceMode)
    {rest : List Move}
    (h : Move.Alternate (.due (if tag = t then wanted else traces.mode t)) rest) :
    Move.Alternate (.due (traces.mode t))
      ((traces.plan tag wanted).filterMap (·.move? t shown) ++ rest) := by
  rw [TraceSubscriptions.plan_eq]
  by_cases hsame : wanted = traces.mode tag
  · rw [if_pos hsame]
    by_cases ht : tag = t
    · rw [if_pos ht, hsame, ht] at h
      exact h
    · rw [if_neg ht] at h
      exact h
  · rw [if_neg hsame]
    by_cases ht : tag = t
    · subst ht
      rw [if_pos rfl] at h
      by_cases hshown : traces.mode tag = .off
      · -- the wanted mode is another one, so it is active
        have hwanted : wanted ≠ .off := fun hoff => hsame (hoff.trans hshown.symm)
        rw [Move.due_of_ne hwanted] at h
        simp [hshown, hwanted, TraceCommand.move?, Move.due_off, Move.Alternate, Move.other, h]
      · by_cases hwanted : wanted = .off
        · rw [hwanted, Move.due_off] at h
          simp [hshown, hwanted, TraceCommand.move?, Move.due_of_ne, Move.Alternate, Move.other, h]
        · rw [Move.due_of_ne hwanted] at h
          simp [hshown, hwanted, TraceCommand.move?, Move.due_of_ne, Move.Alternate, Move.other, h]
    · rw [if_neg ht] at h
      by_cases hshown : traces.mode tag = .off <;> by_cases hwanted : wanted = .off <;>
        simp [hshown, hwanted, TraceCommand.move?, ht, h]

/-- An action makes the moves that are due, and leaves due what follows them. -/
theorem alternate_traceSendings (s : Session τ) (a : TraceAction) (t : TraceTag) {rest : List Move}
    (h : Move.Alternate (.due ((s.trace a).2.traces.mode t)) rest) :
    Move.Alternate (.due (s.traces.mode t))
      ((s.traceSendings a).filterMap (Sending.move? t) ++ rest) := by
  rw [mode_trace] at h
  cases a with
  | select tag mode =>
    rw [traceSendings, moves_sendings]
    refine alternate_plan s.traces tag t mode _ ?_
    rw [TraceAction.mode?] at h
    by_cases ht : tag = t
    · rw [if_pos ht.symm] at h
      rwa [if_pos ht]
    · rw [if_neg (Ne.symm ht)] at h
      rwa [if_neg ht]
  | untraceAll =>
    have h : Move.Alternate .add rest := h
    by_cases hshown : s.traces.mode t = .off
    · simp [traceSendings, sendings, Sending.move?, TraceCommand.move?, hshown, Move.due_off, h]
    · simp [traceSendings, sendings, Sending.move?, TraceCommand.move?, hshown, Move.due_of_ne,
        Move.Alternate, Move.other, h]

theorem alternate_runSendings [Surroundings δ τ] (s : Session τ) (actions : List TraceAction)
    (t : TraceTag) :
    Move.Alternate (.due (s.traces.mode t))
      ((s.runSendings (traceSteps δ actions)).filterMap (Sending.move? t)) := by
  induction actions generalizing s with
  | nil => exact trivial
  | cons a rest ih =>
    rw [runSendings_traceSteps_cons, List.filterMap_append]
    exact s.alternate_traceSendings a t (ih (s.trace a).2)

/-- **What the operator wants does not depend on the daemon.** Take two sessions over channels of
any kinds, without subscriptions at first and with one name for the monitoring API, and do the same
with both. However the calls of either are settled, both display each tag in the mode selected last
since everything was retracted last, and both make the same calls. These are the calls of the
commands of the run, and the moves that the commands make with a tag alternate strictly between add
and drop, beginning with an add. The beginning of a run is one too, so this holds after every
operation. -/
theorem displayed_independently (s : Session τ) (s' : Session τ') (hs : s.traces = .empty)
    (hs' : s'.traces = .empty) (hnamed : s.options.monitorApi = s'.options.monitorApi)
    (actions : List TraceAction) :
    let commands := s.runSendings (traceSteps Empty actions)
    (∀ t, (s.traceAll actions).traces.mode t = selectedLast actions t ∧
        (s'.traceAll actions).traces.mode t = selectedLast actions t) ∧
      (s.transcript (traceSteps Empty actions)).map SettledCall.request =
        (s'.transcript (traceSteps Empty actions)).map SettledCall.request ∧
      (s.transcript (traceSteps Empty actions)).map SettledCall.request =
        commands.map (fun x => (s.apiVerb "trace", x.command.args)) ∧
      ∀ t, Move.Alternate .add (commands.filterMap (Sending.move? t)) := by
  intro commands
  have hsame (t : TraceTag) : s.traces.mode t = s'.traces.mode t := by rw [hs, hs']
  have hverb : s.apiVerb "trace" = s'.apiVerb "trace" := by rw [apiVerb, hnamed, apiVerb]
  have hcommands : commands.map Sending.command =
      (s'.runSendings (traceSteps Empty actions)).map Sending.command :=
    map_command_runSendings_congr hsame actions
  refine ⟨fun t => ⟨mode_run_traceSteps hs actions t, mode_run_traceSteps hs' actions t⟩, ?_,
    s.request_transcript actions, fun t => ?_⟩
  · have hcalls := congrArg (List.map fun c => (s.apiVerb "trace", TraceCommand.args c)) hcommands
    rw [List.map_map, List.map_map] at hcalls
    rw [request_transcript, request_transcript, ← hverb]
    exact hcalls
  · have hoff : s.traces.mode t = .off := by
      rw [hs]
      rfl
    have h := s.alternate_runSendings (δ := Empty) actions t
    rwa [hoff, Move.due_off] at h

/-- A daemon that obeys and a channel that is cut off: what is displayed is the same, and what is
confirmed is not. -/
theorem displayed_independently_cut_off :
    let tag : TraceTag := ⟨some "calc", .request⟩
    let s := new Daemon.calculator.line SessionConfig.default
    let s' := new (Line.new "mock://daemon/api" (⟨[]⟩ : Script)) SessionConfig.default
    let actions := (["all", "comment"].filterMap TraceMode.ofName?).map (TraceAction.select tag)
    (s.traceAll actions).traces.mode tag = (s'.traceAll actions).traces.mode tag ∧
      ((s'.traceAll actions).traces.mode tag).name = "comment" ∧
      (s.transcript (traceSteps Empty actions)).map SettledCall.request =
        (s'.transcript (traceSteps Empty actions)).map SettledCall.request ∧
      ((s.traceAll actions).traces.confirmedMode tag).name = "comment" ∧
      (s'.traceAll actions).traces.confirmedMode tag = .off := by
  intro tag s s' actions
  obtain ⟨hmodes, hcalls, -⟩ := displayed_independently s s' rfl rfl rfl actions
  have hlast : (selectedLast actions tag).name = "comment" := by decide +kernel
  refine ⟨(hmodes tag).1.trans (hmodes tag).2.symm, ?_, hcalls, by decide +kernel,
    by decide +kernel⟩
  rw [(hmodes tag).2]
  exact hlast

end Session

end LiveTrace
