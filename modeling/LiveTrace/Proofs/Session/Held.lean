import LiveTrace.Proofs.Session.Calls
import LiveTrace.Proofs.Session.Commands
import LiveTrace.Proofs.Session.Subscriptions
/-!
# LiveTrace.Proofs.Session.Held

**The commands of a run tell what the daemon holds** (`Session.heldTexts_run`), as they tell the
modes of every tag: a daemon goes through the commands that it accepts, and every other call leaves
what it holds alone. So for a tag whose text no other selected tag has, it holds the text if and
only if the confirmed mode is active (`Session.heldTexts_iff_of_alone`), whatever the other tags
are.
-/

namespace LiveTrace

/-- A command that a daemon cannot take for one about a tag when it is about another, and that adds
an active mode if it adds one. -/
def TraceCommand.Tells (t : TraceTag) : TraceCommand → Prop
  | drop tag => tag.text = t.text → tag = t
  | add tag mode => (tag.text = t.text → tag = t) ∧ mode ≠ .off
  | dropAll => True

/-- A command that is accepted changes what is held of a tag as it changes the mode of the tag. -/
theorem TraceCommand.contains_effect_iff {t : TraceTag} {c : TraceCommand} (hc : c.Tells t)
    {held : Table String Unit} {mode : TraceMode}
    (h : held.contains t.text = true ↔ mode ≠ .off) :
    (c.effect held).contains t.text = true ↔ (c.outcome? t).getD mode ≠ .off := by
  cases c with
  | drop tag =>
    rw [effect, outcome?, Table.contains_erase]
    by_cases ht : t = tag
    · subst ht
      simp
    · have htext : t.text ≠ tag.text := fun htext => ht (hc htext.symm).symm
      simp [ht, htext, h]
  | add tag wanted =>
    rw [effect, outcome?, Table.contains_insert]
    by_cases ht : t = tag
    · subst ht
      simp [hc.2]
    · have htext : t.text ≠ tag.text := fun htext => ht (hc.1 htext.symm).symm
      simp [ht, htext, h]
  | dropAll =>
    constructor
    · intro hmem
      contradiction
    · intro hoff
      exact absurd rfl hoff

/-- What moves a tag to a mode is about that tag, and adds no mode but an active one. -/
theorem TraceSubscriptions.eq_of_mem_commands {tag : TraceTag} {current wanted : TraceMode}
    {c : TraceCommand} (hc : c ∈ commands tag current wanted) :
    c = .drop tag ∨ c = .add tag wanted ∧ wanted ≠ .off := by
  unfold commands at hc
  split at hc
  · contradiction
  · rcases List.mem_append.1 hc with hc | hc
    · split at hc
      · contradiction
      · exact .inl (List.mem_singleton.1 hc)
    · split at hc
      · contradiction
      · rename_i hwanted
        exact .inr ⟨List.mem_singleton.1 hc, fun h => hwanted (TraceMode.isOff_iff.2 h)⟩

/-- A command about one tag leaves other texts alone. -/
theorem TraceCommand.contains_effect_of_ne {tag : TraceTag} {c : TraceCommand}
    (hc : c = .drop tag ∨ ∃ mode, c = .add tag mode) {x : String} (hx : x ≠ tag.text)
    (held : Table String Unit) : (c.effect held).contains x = held.contains x := by
  rcases hc with rfl | ⟨mode, rfl⟩
  · rw [effect, Table.contains_erase]
    simp [hx]
  · rw [effect, Table.contains_insert]
    simp [hx]

open Sending

/-! ### What the daemon holds -/

/-- What a daemon holds after commands, of which it accepts some. -/
def Sending.heldAfter (held : Table String Unit) (l : List (Sending (Line Daemon))) :
    Table String Unit := (l.filter isAccepted).foldl (fun held x => x.command.effect held) held

theorem Sending.heldAfter_cons (held : Table String Unit) (x : Sending (Line Daemon))
    (l : List (Sending (Line Daemon))) :
    heldAfter held (x :: l) =
      heldAfter (if x.isAccepted then x.command.effect held else held) l := by
  unfold heldAfter
  cases h : x.isAccepted <;> simp [h]

theorem Sending.heldAfter_append (held : Table String Unit) (l m : List (Sending (Line Daemon))) :
    heldAfter held (l ++ m) = heldAfter (heldAfter held l) m := by
  rw [heldAfter, List.filter_append, List.foldl_append]
  rfl

/-- Commands change what is held of a tag as they change its confirmed mode. -/
theorem Sending.contains_heldAfter_iff {t : TraceTag} {l : List (Sending (Line Daemon))}
    (hl : ∀ x ∈ l, x.command.Tells t) {held : Table String Unit} {mode : TraceMode}
    (h : held.contains t.text = true ↔ mode ≠ .off) :
    (heldAfter held l).contains t.text = true ↔
      (lastOutcome? t (l.filter isAccepted)).getD mode ≠ .off := by
  induction l generalizing held mode with
  | nil => exact h
  | cons x l ih =>
    have hrest : ∀ y ∈ l, y.command.Tells t := fun y hy => hl y (List.mem_cons_of_mem x hy)
    rw [heldAfter_cons]
    cases haccepted : x.isAccepted with
    | false =>
      rw [List.filter_cons_of_neg (by simp [haccepted])]
      exact ih hrest h
    | true =>
      have hx := TraceCommand.contains_effect_iff (hl x List.mem_cons_self) h
      rw [List.filter_cons_of_pos haccepted, lastOutcome?_cons, Option.getD_or, if_pos rfl]
      exact ih hrest hx

/-- Commands about one tag leave other texts alone. -/
theorem Sending.contains_heldAfter_of_ne {tag : TraceTag} {l : List (Sending (Line Daemon))}
    (hl : ∀ x ∈ l, x.command = .drop tag ∨ ∃ mode, x.command = .add tag mode) {text : String}
    (htext : text ≠ tag.text) (held : Table String Unit) :
    (heldAfter held l).contains text = held.contains text := by
  induction l generalizing held with
  | nil => rfl
  | cons x l ih =>
    rw [heldAfter_cons, ih fun y hy => hl y (List.mem_cons_of_mem x hy)]
    cases x.isAccepted with
    | false => rfl
    | true => exact TraceCommand.contains_effect_of_ne (hl x List.mem_cons_self) htext held

namespace Session

variable {s : Session (Line Daemon)}

/-- What the daemon of a session holds. -/
def heldTexts (s : Session (Line Daemon)) : Table String Unit := s.channel.peer.traces

theorem heldTexts_sendCommand (s : Session (Line Daemon)) (c : TraceCommand) :
    (s.sendCommand c).2.heldTexts = heldAfter s.heldTexts [⟨s, c⟩] := by
  have hcall := Daemon.traces_call_trace s.channel s.options.monitorApi c
  rw [heldTexts, channel_sendCommand, heldAfter_cons]
  exact hcall

theorem heldTexts_sendCommands (s : Session (Line Daemon)) (l : List TraceCommand) :
    (s.sendCommands l).2.heldTexts = heldAfter s.heldTexts (s.sendings l) := by
  induction l generalizing s with
  | nil => rfl
  | cons c rest ih =>
    rw [sendCommands_cons, ih, heldTexts_sendCommand, ← heldAfter_append]
    rfl

theorem heldTexts_trace (s : Session (Line Daemon)) (a : TraceAction) :
    (s.trace a).2.heldTexts = heldAfter s.heldTexts (s.traceSendings a) := by
  cases a with
  | select tag mode =>
    rw [trace_select, heldTexts_sendCommands]
    rfl
  | untraceAll =>
    have hchannel : (s.trace .untraceAll).2.heldTexts = (s.sendCommand .dropAll).2.heldTexts := by
      show s.untraceAll.2.channel.peer.traces = (s.sendCommand .dropAll).2.channel.peer.traces
      rw [channel_untraceAll, channel_sendCommand]
    rw [hchannel, heldTexts_sendCommand]
    rfl

/-- Verbs other than `trace` leave what is held alone. -/
theorem heldTexts_of_call {verb : String} (hslash : '/' ∉ verb.toList) (hverb : verb ≠ "trace")
    {args : Json} {t : Session (Line Daemon)}
    (hchannel : t.channel = (Channel.call s.channel (s.apiVerb verb) args).2) :
    t.heldTexts = s.heldTexts := by
  rw [heldTexts, hchannel, Daemon.traces_call _ (s.apiVerb_ne hslash hverb), heldTexts]

/-- Actions that are not about traces leave what is held alone. -/
theorem heldTexts_perform_of_quiet (s : Session (Line Daemon)) {a : Action}
    (htrace : ∀ t, a ≠ .trace t) (hclose : a ≠ .close) :
    (s.perform a).2.heldTexts = s.heldTexts := by
  cases a with
  | trace a => exact absurd rfl (htrace a)
  | close => exact absurd rfl hclose
  | discover => exact heldTexts_of_call (by decide +kernel) (by decide) s.channel_discover
  | refreshVerbosity =>
    exact heldTexts_of_call (by decide +kernel) (by decide) s.channel_refreshVerbosity
  | setVerbosity target level =>
    show (s.setVerbosity target level).2.heldTexts = s.heldTexts
    by_cases hguard : s.verbosity.isHeld = true
    · rw [setVerbosity_of_isHeld _ hguard]
      rfl
    · rw [setVerbosity_of_not_isHeld _ hguard]
      -- the level is written and then read back
      have hread := (s.asked target level).channel_refreshVerbosity
      have hwrite := (s.asking target level).channel_call "set"
        (VerbosityCommand.args ⟨target, level⟩)
      exact (heldTexts_of_call (by decide +kernel) (by decide) hread).trans
        (heldTexts_of_call (by decide +kernel) (by decide) hwrite)
  | sessionInfo refreshToken =>
    exact heldTexts_of_call (by decide +kernel) (by decide) (s.channel_call "session" _)
  | nextEvent =>
    show s.nextEvent.2.channel.peer.traces = s.channel.peer.traces
    rw [channel_nextEvent]
    show s.channel.receive.2.peer.traces = s.channel.peer.traces
    unfold Line.receive
    split <;> rfl
  | handlePush push => exact congrArg (·.peer.traces) (s.channel_handlePush push)
  | clearTraceEvents | setShowMonitorEvents | setLogEnabled | clearLog | hold | release => rfl

theorem heldTexts_step (s : Session (Line Daemon)) (e : Step Incident) :
    (s.step e).heldTexts = heldAfter s.heldTexts (s.stepSendings e) := by
  cases e with
  | disturb i => exact i.traces_happen s.channel
  | act a =>
    cases a with
    | trace a => exact s.heldTexts_trace a
    | close =>
      show s.close.2.heldTexts = _
      rw [snd_close, stepSendings]
      by_cases hclosed : s.state = .closed
      · rw [if_pos hclosed, if_pos hclosed]
        rfl
      · rw [if_neg hclosed, if_neg hclosed]
        exact s.heldTexts_trace .untraceAll
    | discover | setVerbosity | refreshVerbosity | sessionInfo | nextEvent | handlePush
    | clearTraceEvents | setShowMonitorEvents | setLogEnabled | clearLog | hold | release =>
      exact s.heldTexts_perform_of_quiet (by simp) (by simp)

/-- **The commands of a run tell what the daemon holds.** -/
theorem heldTexts_run (s : Session (Line Daemon)) (steps : List (Step Incident)) :
    (s.run steps).heldTexts = heldAfter s.heldTexts (s.runSendings steps) := by
  induction steps generalizing s with
  | nil => rfl
  | cons e steps ih =>
    rw [runSendings, heldAfter_append, ← heldTexts_step]
    exact ih (s.step e)

/-! ### One tag -/

/-- The commands of a run are for selected tags, or retract everything. -/
theorem command_of_mem_runSendings {s : Session (Line Daemon)} {steps : List (Step Incident)}
    {x : Sending (Line Daemon)} (hx : x ∈ s.runSendings steps) :
    x.command = .dropAll ∨ ∃ tag mode current, .act (.trace (.select tag mode)) ∈ steps ∧
      x.command ∈ TraceSubscriptions.commands tag current mode := by
  induction steps generalizing s with
  | nil => contradiction
  | cons e steps ih =>
    rcases List.mem_append.1 hx with hx | hx
    · have huntrace (hx : x ∈ s.traceSendings .untraceAll) : x.command = .dropAll :=
        List.mem_singleton.1 (command_mem_of_mem_sendings hx)
      match e with
      | .act (.trace (.select tag mode)) =>
        exact .inr ⟨tag, mode, s.traces.mode tag, List.mem_cons_self,
          command_mem_of_mem_sendings hx⟩
      | .act (.trace .untraceAll) => exact .inl (huntrace hx)
      | .act .close =>
        rw [stepSendings] at hx
        split at hx
        · contradiction
        · exact .inl (huntrace hx)
    · rcases ih hx with hx | ⟨tag, mode, current, hmem, hx⟩
      · exact .inl hx
      · exact .inr ⟨tag, mode, current, List.mem_cons_of_mem e hmem, hx⟩

/-- **A tag whose text no other selected tag has is held if and only if its confirmed mode is
active.** -/
theorem heldTexts_iff_of_alone {s : Session (Line Daemon)} (hempty : s.traces = .empty)
    (hheld : s.heldTexts = .empty) {steps : List (Step Incident)} {t : TraceTag}
    (halone : ∀ tag mode, .act (.trace (.select tag mode)) ∈ steps → tag.text = t.text → tag = t) :
    (s.run steps).heldTexts.contains t.text = true ↔
      (s.run steps).traces.confirmedMode t ≠ .off := by
  have htells : ∀ x ∈ s.runSendings steps, x.command.Tells t := by
    intro x hx
    rcases command_of_mem_runSendings hx with hx | ⟨tag, mode, current, hmem, hx⟩
    · rw [hx]
      exact trivial
    · rcases TraceSubscriptions.eq_of_mem_commands hx with hx | ⟨hx, hmode⟩
      · rw [hx]
        exact halone tag mode hmem
      · rw [hx]
        exact ⟨halone tag mode hmem, hmode⟩
  have hconfirmed : (s.run steps).traces.confirmedMode t =
      (lastOutcome? t ((s.runSendings steps).filter isAccepted)).getD .off := by
    have hslot := s.slot_run steps t
    rw [hempty] at hslot
    exact congrArg TraceSlot.confirmed hslot
  rw [hconfirmed, heldTexts_run, hheld]
  exact contains_heldAfter_iff htells ⟨nofun, fun h => absurd rfl h⟩

end Session

end LiveTrace
