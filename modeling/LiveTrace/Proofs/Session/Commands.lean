import LiveTrace.Proofs.Session.Transcript
import LiveTrace.Proofs.Trace.Plan
/-!
# LiveTrace.Proofs.Session.Commands

**The trace commands of a run.** A run sends commands one after the other, and the channel settles
each of them in some way. They tell the modes of every tag afterwards (`Session.slot_run`): the mode
on display is the one that the last command about the tag asked for, however that was settled, and
the confirmed mode is the one that the last accepted command about it asked for. So a tag that is
displayed as off although its confirmed mode is active owes this to one command, the last about it:
a drop that was not accepted (`Session.mode_eq_off_iff`).
-/

namespace LiveTrace

universe u v

/-- A command, and the session that sends it. -/
structure Sending (τ : Type u) where
  sender : Session τ
  command : TraceCommand

namespace Sending

variable {τ : Type u}

def isAccepted [Channel τ] (x : Sending τ) : Bool :=
  (x.sender.settledCall "trace" x.command.args).isAccepted

/-- The mode that the last command about a tag asks for. -/
def lastOutcome? (t : TraceTag) (l : List (Sending τ)) : Option TraceMode :=
  l.reverse.findSome? fun x => x.command.outcome? t

theorem lastOutcome?_append (t : TraceTag) (l m : List (Sending τ)) :
    lastOutcome? t (l ++ m) = (lastOutcome? t m).or (lastOutcome? t l) := by
  rw [lastOutcome?, List.reverse_append, List.findSome?_append]
  rfl

theorem lastOutcome?_singleton (t : TraceTag) (x : Sending τ) :
    lastOutcome? t [x] = x.command.outcome? t := List.findSome?_singleton

theorem lastOutcome?_cons (t : TraceTag) (x : Sending τ) (l : List (Sending τ)) :
    lastOutcome? t (x :: l) = (lastOutcome? t l).or (x.command.outcome? t) := by
  rw [← List.singleton_append, lastOutcome?_append, lastOutcome?_singleton]

theorem lastOutcome?_eq_none_iff {t : TraceTag} {l : List (Sending τ)} :
    lastOutcome? t l = none ↔ ∀ x ∈ l, x.command.outcome? t = none := by
  simp [lastOutcome?]

theorem lastOutcome?_eq_some_iff {t : TraceTag} {l : List (Sending τ)} {mode : TraceMode} :
    lastOutcome? t l = some mode ↔ ∃ before x after, l = before ++ x :: after ∧
      x.command.outcome? t = some mode ∧ ∀ y ∈ after, y.command.outcome? t = none := by
  rw [lastOutcome?, List.findSome?_eq_some_iff]
  constructor
  · rintro ⟨after, x, before, heq, hx, hafter⟩
    refine ⟨before.reverse, x, after.reverse, ?_, hx, fun y hy => hafter y (List.mem_reverse.1 hy)⟩
    rw [← List.reverse_reverse l, heq]
    simp
  · rintro ⟨before, x, after, rfl, hx, hafter⟩
    refine ⟨after.reverse, x, before.reverse, by simp, hx, fun y hy => ?_⟩
    exact hafter y (List.mem_reverse.1 hy)

/-- The last command about a tag is a drop of it or of everything, and is not accepted. -/
def DropRefused [Channel τ] (t : TraceTag) (l : List (Sending τ)) : Prop :=
  ∃ before x after, l = before ++ x :: after ∧
    (x.command = .drop t ∨ x.command = .dropAll) ∧ x.isAccepted = false ∧
    ∀ y ∈ after, y.command.outcome? t = none

end Sending

theorem TraceCommand.eq_drop_of_outcome? {c : TraceCommand} (hc : c.IsProper) {t : TraceTag}
    (h : c.outcome? t = some .off) : c = .drop t ∨ c = .dropAll := by
  cases c with
  | drop tag =>
    rw [outcome?] at h
    split at h
    · rename_i ht
      exact .inl (congrArg drop ht.symm)
    · contradiction
  | add tag mode =>
    rw [outcome?] at h
    split at h
    · exact absurd (Option.some.inj h) hc.2
    · contradiction
  | dropAll => exact .inr rfl

/-- Selecting a mode displays what the last command of its plan asks for. -/
theorem TraceSubscriptions.slot_select_plan (s : TraceSubscriptions) (tag : TraceTag)
    (wanted : TraceMode) (t : TraceTag) :
    (s.select tag wanted).2.slot t =
      { s.slot t with
        displayed := ((s.plan tag wanted).reverse.findSome? (·.outcome? t)).getD
          (s.slot t).displayed } := by
  rw [slot_select]
  by_cases heq : s.mode tag = wanted
  · rw [plan_of_mode_eq heq]
    by_cases ht : t = tag
    · rw [if_pos ht, ht, ← heq]
      rfl
    · rw [if_neg ht]
      rfl
  · rw [outcome?_plan heq]
    by_cases ht : t = tag
    · rw [if_pos ht, if_pos ht, ht]
      rfl
    · rw [if_neg ht, if_neg ht]
      rfl

open Sending

namespace Session

variable {τ : Type u} {δ : Type v} [Channel τ]

/-! ### Commands sent one after the other -/

/-- Commands that are sent one after the other, each by the session that the ones before it
leave. -/
def sendings (s : Session τ) : List TraceCommand → List (Sending τ)
  | [] => []
  | c :: rest => ⟨s, c⟩ :: (s.sendCommand c).2.sendings rest

theorem map_command_sendings (s : Session τ) (l : List TraceCommand) :
    (s.sendings l).map Sending.command = l := by
  induction l generalizing s with
  | nil => rfl
  | cons c rest ih => rw [sendings, List.map_cons, ih]

theorem command_mem_of_mem_sendings {s : Session τ} {l : List TraceCommand} {x : Sending τ}
    (hx : x ∈ s.sendings l) : x.command ∈ l := by
  rw [← s.map_command_sendings l]
  exact List.mem_map_of_mem hx

theorem lastOutcome?_sendings (t : TraceTag) (s : Session τ) (l : List TraceCommand) :
    lastOutcome? t (s.sendings l) = l.reverse.findSome? (·.outcome? t) := by
  have hmap : (l.reverse.findSome? fun c => c.outcome? t) =
      ((s.sendings l).reverse.map Sending.command).findSome? fun c => c.outcome? t := by
    rw [List.map_reverse, map_command_sendings]
  rw [hmap, List.findSome?_map]
  rfl

/-- Commands confirm the mode that the last accepted one asks for. -/
theorem slot_sendCommands (s : Session τ) (l : List TraceCommand) (t : TraceTag) :
    (s.sendCommands l).2.traces.slot t =
      { s.traces.slot t with
        confirmed := (lastOutcome? t ((s.sendings l).filter isAccepted)).getD
          (s.traces.slot t).confirmed } := by
  induction l generalizing s with
  | nil => rfl
  | cons c rest ih =>
    have hok : (s.call "trace" c.args).1.isOk = Sending.isAccepted ⟨s, c⟩ := s.isOk_call ..
    rw [sendCommands_cons, ih, traces_sendCommand, hok, sendings]
    cases haccepted : Sending.isAccepted ⟨s, c⟩ with
    | false =>
      rw [List.filter_cons_of_neg (by simp [haccepted])]
      rfl
    | true =>
      rw [List.filter_cons_of_pos haccepted, lastOutcome?_cons, if_pos rfl,
        TraceSubscriptions.slot_confirm]
      cases lastOutcome? t (((s.sendCommand c).2.sendings rest).filter isAccepted) <;> rfl

/-! ### Commands of a step -/

/-- The commands of an action about traces. -/
def traceSendings (s : Session τ) : TraceAction → List (Sending τ)
  | .select tag mode =>
    sendings { s with traces := (s.traces.select tag mode).2 } (s.traces.plan tag mode)
  | .untraceAll => s.sendings [.dropAll]

/-- The commands of a step. Closing a session that is not closed retracts everything. -/
def stepSendings (s : Session τ) : Step δ → List (Sending τ)
  | .act (.trace a) => s.traceSendings a
  | .act .close => if s.state = .closed then [] else s.traceSendings .untraceAll
  | _ => []

/-- The modes that commands leave a tag in. -/
def slotAfter (slot : TraceSlot) (t : TraceTag) (l : List (Sending τ)) : TraceSlot where
  displayed := (lastOutcome? t l).getD slot.displayed
  confirmed := (lastOutcome? t (l.filter isAccepted)).getD slot.confirmed

theorem slotAfter_append (slot : TraceSlot) (t : TraceTag) (l m : List (Sending τ)) :
    slotAfter slot t (l ++ m) = slotAfter (slotAfter slot t l) t m := by
  rw [slotAfter, List.filter_append, lastOutcome?_append, lastOutcome?_append, Option.getD_or,
    Option.getD_or]
  rfl

theorem slot_trace (s : Session τ) (a : TraceAction) (t : TraceTag) :
    (s.trace a).2.traces.slot t = slotAfter (s.traces.slot t) t (s.traceSendings a) := by
  cases a with
  | select tag mode =>
    rw [trace_select, slot_sendCommands, traceSendings, slotAfter, lastOutcome?_sendings]
    rw [TraceSubscriptions.slot_select_plan]
  | untraceAll =>
    have hok : (s.call "trace" TraceCommand.dropAll.args).1.isOk =
        Sending.isAccepted ⟨s, .dropAll⟩ := s.isOk_call ..
    have hone : s.traceSendings .untraceAll = [⟨s, .dropAll⟩] := rfl
    show s.untraceAll.2.traces.slot t = _
    rw [traces_untraceAll, hok, hone, slotAfter]
    cases haccepted : Sending.isAccepted ⟨s, .dropAll⟩ with
    | false =>
      rw [List.filter_cons_of_neg (by simp [haccepted]), lastOutcome?_singleton]
      exact s.traces.slot_resetAll t
    | true =>
      rw [List.filter_cons_of_pos haccepted, List.filter_nil, lastOutcome?_singleton, if_pos rfl,
        TraceSubscriptions.slot_confirm, TraceSubscriptions.slot_resetAll]
      rfl

/-- **What a step does to the modes of a tag.** -/
theorem slot_step [Surroundings δ τ] (s : Session τ) (e : Step δ) (t : TraceTag) :
    (s.step e).traces.slot t = slotAfter (s.traces.slot t) t (s.stepSendings e) := by
  cases e with
  | disturb d => rfl
  | act a =>
    have hquiet (h : (s.perform a).2.traces = s.traces) :
        (s.step (.act a : Step δ)).traces.slot t =
          slotAfter (s.traces.slot t) t ([] : List (Sending τ)) :=
      congrArg (fun traces => traces.slot t) h
    cases a with
    | trace a => exact s.slot_trace a t
    | close =>
      show s.close.2.traces.slot t = _
      rw [snd_close, stepSendings]
      by_cases hclosed : s.state = .closed
      · rw [if_pos hclosed, if_pos hclosed]
        rfl
      · rw [if_neg hclosed, if_neg hclosed]
        exact s.slot_trace .untraceAll t
    | discover => exact hquiet s.traces_discover
    | setVerbosity target level => exact hquiet (s.traces_setVerbosity target level)
    | refreshVerbosity => exact hquiet s.traces_refreshVerbosity
    | sessionInfo refreshToken => exact hquiet (s.traces_call ..)
    | nextEvent => exact hquiet s.traces_nextEvent
    | handlePush push => exact hquiet (s.traces_handlePush push)
    | clearTraceEvents | setShowMonitorEvents | setLogEnabled | clearLog | hold | release =>
      exact hquiet rfl

/-! ### Commands of a run -/

/-- The commands of a run, in order. -/
def runSendings [Surroundings δ τ] (s : Session τ) : List (Step δ) → List (Sending τ)
  | [] => []
  | e :: rest => s.stepSendings e ++ (s.step e).runSendings rest

theorem runSendings_append [Surroundings δ τ] (s : Session τ) (before after : List (Step δ)) :
    s.runSendings (before ++ after) = s.runSendings before ++ (s.run before).runSendings after := by
  induction before generalizing s with
  | nil => rfl
  | cons e before ih =>
    have hrun : s.run (e :: before) = (s.step e).run before := rfl
    rw [List.cons_append, runSendings, runSendings, ih, hrun, List.append_assoc]

/-- **The commands of a run tell the modes of every tag.** -/
theorem slot_run [Surroundings δ τ] (s : Session τ) (steps : List (Step δ)) (t : TraceTag) :
    (s.run steps).traces.slot t = slotAfter (s.traces.slot t) t (s.runSendings steps) := by
  induction steps generalizing s with
  | nil => rfl
  | cons e steps ih =>
    rw [runSendings, slotAfter_append, ← slot_step]
    exact ih (s.step e)

theorem isProper_of_mem_stepSendings (s : Session τ) {e : Step δ}
    (he : ∀ tag mode, e = .act (.trace (.select tag mode)) → tag.IsParsed) {x : Sending τ}
    (hx : x ∈ s.stepSendings e) : x.command.IsProper := by
  have huntrace (hx : x ∈ s.traceSendings .untraceAll) : x.command.IsProper := by
    have hmem := command_mem_of_mem_sendings hx
    rw [List.mem_singleton.1 hmem]
    exact trivial
  match e with
  | .act (.trace (.select tag mode)) =>
    have hmem := command_mem_of_mem_sendings hx
    exact TraceSubscriptions.commands_proper (he tag mode rfl) _ mode x.command hmem
  | .act (.trace .untraceAll) => exact huntrace hx
  | .act .close =>
    rw [stepSendings] at hx
    split at hx
    · contradiction
    · exact huntrace hx

theorem isProper_of_mem_runSendings [Surroundings δ τ] {s : Session τ} {steps : List (Step δ)}
    (hsteps : ∀ tag mode, .act (.trace (.select tag mode)) ∈ steps → tag.IsParsed) {x : Sending τ}
    (hx : x ∈ s.runSendings steps) : x.command.IsProper := by
  induction steps generalizing s with
  | nil => contradiction
  | cons e steps ih =>
    rcases List.mem_append.1 hx with hx | hx
    · refine s.isProper_of_mem_stepSendings (fun tag mode he => ?_) hx
      exact hsteps tag mode (he ▸ List.mem_cons_self)
    · exact ih (fun tag mode hmem => hsteps tag mode (List.mem_cons_of_mem _ hmem)) hx

/-- **A subscription outlives its display by a refused drop.** After a run from a session without
subscriptions, a tag with an active confirmed mode is displayed as off if and only if the last
command about it was a drop that was not accepted. -/
theorem mode_eq_off_iff [Surroundings δ τ] {s : Session τ} (hempty : s.traces = .empty)
    {steps : List (Step δ)}
    (hsteps : ∀ tag mode, .act (.trace (.select tag mode)) ∈ steps → tag.IsParsed) {t : TraceTag}
    (hactive : (s.run steps).traces.confirmedMode t ≠ .off) :
    (s.run steps).traces.mode t = .off ↔ DropRefused t (s.runSendings steps) := by
  have hslot := s.slot_run steps t
  rw [hempty] at hslot
  have hmode : (s.run steps).traces.mode t = (lastOutcome? t (s.runSendings steps)).getD .off :=
    congrArg TraceSlot.displayed hslot
  have hconfirmed : (s.run steps).traces.confirmedMode t =
      (lastOutcome? t ((s.runSendings steps).filter isAccepted)).getD .off :=
    congrArg TraceSlot.confirmed hslot
  rw [hconfirmed] at hactive
  rw [hmode]
  constructor
  · intro hoff
    cases hlast : lastOutcome? t (s.runSendings steps) with
    | none =>
      -- without a command about the tag its confirmed mode is off too
      have hnone : lastOutcome? t ((s.runSendings steps).filter isAccepted) = none := by
        rw [lastOutcome?_eq_none_iff] at hlast ⊢
        exact fun x hx => hlast x (List.mem_filter.1 hx).1
      rw [hnone] at hactive
      contradiction
    | some mode =>
      rw [hlast] at hoff
      obtain rfl : mode = .off := hoff
      obtain ⟨before, x, after, heq, hx, hafter⟩ := lastOutcome?_eq_some_iff.1 hlast
      have hmem : x ∈ s.runSendings steps := by
        rw [heq]
        exact List.mem_append_right _ List.mem_cons_self
      have hdrop := TraceCommand.eq_drop_of_outcome? (isProper_of_mem_runSendings hsteps hmem) hx
      refine ⟨before, x, after, heq, hdrop, eq_false_of_ne_true fun haccepted => ?_, hafter⟩
      -- the last command about the tag would be the last accepted one
      have hlast' : lastOutcome? t ((s.runSendings steps).filter isAccepted) = some .off := by
        refine lastOutcome?_eq_some_iff.2 ⟨before.filter isAccepted, x, after.filter isAccepted,
          ?_, hx, fun y hy => hafter y (List.mem_filter.1 hy).1⟩
        rw [heq, List.filter_append, List.filter_cons_of_pos haccepted]
      rw [hlast'] at hactive
      contradiction
  · rintro ⟨before, x, after, heq, hdrop, -, hafter⟩
    have hx : x.command.outcome? t = some .off := by
      rcases hdrop with hdrop | hdrop
      · rw [hdrop, TraceCommand.outcome?, if_pos rfl]
      · rw [hdrop, TraceCommand.outcome?]
    rw [lastOutcome?_eq_some_iff.2 ⟨before, x, after, heq, hx, hafter⟩]
    rfl

end Session

end LiveTrace
