import LiveTrace.Proofs.Session.Exclusivity
import LiveTrace.Proofs.Session.Held
/-!
# LiveTrace.Proofs.Session.Repair

**A selection repairs drift.** Earlier failures can leave displayed and confirmed modes of a tag
apart in every way. A plan looks at the displayed mode only, so a drop may be sent for a
subscription that the daemon does not hold, and an add for one that it does. Once the daemon serves
commands again, all of this comes to the same: a selection of another mode than the one on display
ends with that mode on both sides, and all that drift leaves behind is that a drop may be refused
(`Session.select_repairs_drift`).

What makes it work is that the daemon holds a tag if and only if its confirmed mode is active. A run
that selects another tag of the same text breaks this. There are such tags: an API could be named
`*`, and its tags have the texts of those for every API. The daemon takes the two for one, and drift
may stay (`Session.select_leaves_drift`).
-/

namespace LiveTrace

open Sending

namespace Session

variable {s : Session (Line Daemon)} {tag : TraceTag} {mode : TraceMode}

theorem Undisturbed.isAccepted_sending (h : s.Undisturbed) (c : TraceCommand) :
    Sending.isAccepted ⟨s, c⟩ = c.isAccepted s.heldTexts := h.isAccepted c

/-- Displaying a mode changes nothing about the line. -/
theorem Undisturbed.select (h : s.Undisturbed) (traces : TraceSubscriptions) :
    Undisturbed { s with traces } := ⟨h.named, h.connected, h.working⟩

/-- The last accepted command of a selection is for the wanted mode, unless all that was to be done
is to drop what the daemon does not hold. -/
theorem Undisturbed.lastOutcome?_accepted (h : s.Undisturbed) (hmode : mode ≠ s.traces.mode tag) :
    lastOutcome? tag ((s.traceSendings (.select tag mode)).filter Sending.isAccepted) =
      if mode = .off ∧ s.heldTexts.contains tag.text = false then none else some mode := by
  have hadd {t : Session (Line Daemon)} (ht : t.Undisturbed) :
      (t.sendings [.add tag mode]).filter Sending.isAccepted = [⟨t, .add tag mode⟩] :=
    List.filter_cons_of_pos (ht.isAccepted_sending (.add tag mode))
  have hlast (l : List (Sending (Line Daemon))) (t : Session (Line Daemon)) :
      lastOutcome? tag (l ++ [⟨t, .add tag mode⟩]) = some mode := by
    rw [lastOutcome?_append, lastOutcome?_singleton, TraceCommand.outcome?, if_pos rfl,
      Option.some_or]
  have hs := h.select (s.traces.select tag mode).2
  rw [traceSendings, TraceSubscriptions.plan_eq, if_neg hmode]
  by_cases hoff : mode = .off
  · -- the mode on display is active, so there is a drop and nothing else
    subst hoff
    have hshown : ¬ s.traces.mode tag = .off := Ne.symm hmode
    have hdrop : Sending.isAccepted ⟨{ s with traces := (s.traces.select tag .off).2 },
        .drop tag⟩ = s.heldTexts.contains tag.text := hs.isAccepted_sending (.drop tag)
    rw [if_neg hshown, if_pos rfl, List.append_nil, sendings, sendings, List.filter_cons, hdrop]
    cases s.heldTexts.contains tag.text with
    | true =>
      rw [if_pos rfl, if_neg (by simp), List.filter_nil, lastOutcome?_singleton,
        TraceCommand.outcome?, if_pos rfl]
    | false => rw [if_neg Bool.false_ne_true, if_pos ⟨rfl, rfl⟩]; rfl
  · have hsome : ¬(mode = .off ∧ s.heldTexts.contains tag.text = false) := fun hnone => hoff hnone.1
    rw [if_neg hoff, if_neg hsome]
    by_cases hshown : s.traces.mode tag = .off
    · rw [if_pos hshown, List.nil_append, hadd hs]
      exact hlast [] _
    · rw [if_neg hshown, List.singleton_append, sendings, List.filter_cons, hadd (hs.sendCommand _)]
      split
      · exact hlast [_] _
      · exact hlast [] _

/-- **Both modes of the tag are the wanted one**, if the daemon held the tag just as confirmed. -/
theorem Undisturbed.slot_select (h : s.Undisturbed) (hmode : mode ≠ s.traces.mode tag)
    (hheld : s.heldTexts.contains tag.text = true ↔ s.traces.confirmedMode tag ≠ .off) :
    (s.trace (.select tag mode)).2.traces.slot tag = ⟨mode, mode⟩ := by
  have hdisplayed : lastOutcome? tag (s.traceSendings (.select tag mode)) = some mode := by
    rw [traceSendings, lastOutcome?_sendings, TraceSubscriptions.outcome?_plan (Ne.symm hmode),
      if_pos rfl]
  have hconfirmed : (lastOutcome? tag
      ((s.traceSendings (.select tag mode)).filter Sending.isAccepted)).getD
        (s.traces.slot tag).confirmed = mode := by
    rw [h.lastOutcome?_accepted hmode]
    split
    · -- nothing was held, so the confirmed mode was off before
      rename_i hnone
      have hoff : s.traces.confirmedMode tag = .off := by
        by_contra hactive
        rw [hheld.2 hactive] at hnone
        exact Bool.false_ne_true hnone.2.symm
      exact hoff.trans hnone.1.symm
    · rfl
  rw [slot_trace, slotAfter, hdisplayed, hconfirmed]
  rfl

/-- A selection sends commands about its tag only, and they add no mode but an active one. -/
theorem command_of_mem_select {x : Sending (Line Daemon)}
    (hx : x ∈ s.traceSendings (.select tag mode)) :
    x.command = .drop tag ∨ x.command = .add tag mode ∧ mode ≠ .off :=
  TraceSubscriptions.eq_of_mem_commands (command_mem_of_mem_sendings hx)

/-- A selection leaves the modes of other tags alone. -/
theorem slot_select_of_ne {other : TraceTag} (hother : other ≠ tag) :
    (s.trace (.select tag mode)).2.traces.slot other = s.traces.slot other := by
  have hnone : ∀ x ∈ s.traceSendings (.select tag mode), x.command.outcome? other = none := by
    intro x hx
    rcases command_of_mem_select hx with hx | ⟨hx, -⟩ <;>
      rw [hx, TraceCommand.outcome?, if_neg hother]
  rw [slot_trace, slotAfter, lastOutcome?_eq_none_iff.2 hnone,
    lastOutcome?_eq_none_iff.2 fun x hx => hnone x (List.mem_filter.1 hx).1]
  rfl

/-- A selection leaves what is held of other texts alone. -/
theorem contains_heldTexts_select_of_ne {text : String} (htext : text ≠ tag.text) :
    (s.trace (.select tag mode)).2.heldTexts.contains text = s.heldTexts.contains text := by
  rw [heldTexts_trace]
  refine contains_heldAfter_of_ne (fun x hx => ?_) htext s.heldTexts
  exact (command_of_mem_select hx).imp_right fun hadd => ⟨mode, hadd.1⟩

/-- What was held of the tag changes as its confirmed mode does. -/
theorem contains_heldTexts_select_iff
    (hheld : s.heldTexts.contains tag.text = true ↔ s.traces.confirmedMode tag ≠ .off) :
    (s.trace (.select tag mode)).2.heldTexts.contains tag.text = true ↔
      (s.trace (.select tag mode)).2.traces.confirmedMode tag ≠ .off := by
  have htells : ∀ x ∈ s.traceSendings (.select tag mode), x.command.Tells tag := by
    intro x hx
    rcases command_of_mem_select hx with hx | ⟨hx, hmode⟩
    · rw [hx]
      exact fun _ => rfl
    · rw [hx]
      exact ⟨fun _ => rfl, hmode⟩
  rw [heldTexts_trace, TraceSubscriptions.confirmedMode, slot_trace]
  exact contains_heldAfter_iff htells hheld

/-- **A selection of another mode fails if and only if it drops what is not held.** -/
theorem Undisturbed.isOk_select (h : s.Undisturbed) (hmode : mode ≠ s.traces.mode tag) :
    (s.selectTrace tag mode).1.isOk = true ↔
      (s.traces.mode tag ≠ .off → s.heldTexts.contains tag.text = true) := by
  have hdrop : (s.settledCall "trace" (TraceCommand.drop tag).args).isAccepted =
      s.heldTexts.contains tag.text := h.isAccepted (.drop tag)
  have hadd {t : Session (Line Daemon)} (ht : t.Undisturbed) :
      (t.settledCalls (if mode = .off then [] else [.add tag mode])).all
        SettledCall.isAccepted = true := by
    split
    · rfl
    · have haccepted : (t.settledCall "trace" (TraceCommand.add tag mode).args).isAccepted = true :=
        ht.isAccepted (.add tag mode)
      simp [settledCalls, haccepted]
  rw [isOk_selectTrace, made_trace, commands, TraceSubscriptions.plan_eq, if_neg hmode]
  by_cases hshown : s.traces.mode tag = .off
  · rw [if_pos hshown, List.nil_append, hadd h]
    simp [hshown]
  · rw [if_neg hshown, List.singleton_append, settledCalls, List.all_cons, hdrop,
      hadd (h.sendCommand _), Bool.and_true]
    simp [hshown]

/-! ### Selections after any run -/

/-- A tag for every API, and one for an API of the name `*`: the daemon drops one for the other, and
then the former cannot be dropped and stays confirmed, although no call has failed so far. -/
theorem select_leaves_drift :
    let tag : TraceTag := ⟨none, .request⟩
    let other : TraceTag := ⟨some "*", .request⟩
    let mode := (TraceMode.ofName? "all").getD .off
    let steps : List (Step Incident) := [.act (.trace (.select tag mode)),
      .act (.trace (.select other mode)), .act (.trace (.select other .off))]
    let s := (new Daemon.calculator.line SessionConfig.default).run steps
    let after := s.selectTrace tag .off
    Daemon.calculator.traces = .empty ∧ s.Undisturbed ∧ tag.IsParsed ∧ .off ≠ s.traces.mode tag ∧
      s.traces.confirmedMode tag ≠ .off ∧ after.1.isOk = false ∧
      after.2.traces.confirmedMode tag ≠ .off := by
  intro tag other mode steps s after
  have hs : s.Undisturbed := ⟨by decide +kernel, by decide +kernel, by decide +kernel⟩
  exact ⟨rfl, hs, ⟨"*/request", by rfl⟩, by decide +kernel, by decide +kernel, by decide +kernel,
    by decide +kernel⟩

/-- **A selection repairs drift.** Take any run of a session with a daemon that has no subscriptions
at first, whatever failed in it, and a tag whose text no other selected tag has. If the line is open
and the daemon serves `monitor/trace` now, selecting another mode than the one on display ends with
that mode displayed and confirmed, and the daemon holds the tag if and only if the mode is active.
The modes of other tags and what the daemon holds of other texts stay. The selection fails if and
only if the displayed mode was active and the confirmed mode was off. -/
theorem select_repairs_drift (line : Line Daemon) (hempty : line.peer.traces = .empty)
    (config : SessionConfig) (steps : List (Step Incident)) (tag : TraceTag) (htag : tag.IsParsed)
    (halone : ∀ other mode, .act (.trace (.select other mode)) ∈ steps →
      other.text = tag.text → other = tag) (mode : TraceMode) :
    let s := (new line config).run steps
    let after := s.selectTrace tag mode
    s.Undisturbed → mode ≠ s.traces.mode tag →
      after.2.traces.mode tag = mode ∧ after.2.traces.confirmedMode tag = mode ∧
        (tag.text ∈ after.2.channel.peer.traceTags ↔ mode ≠ .off) ∧
        (∀ other, other ≠ tag → after.2.traces.slot other = s.traces.slot other ∧
          (other.IsParsed → (other.text ∈ after.2.channel.peer.traceTags ↔
            other.text ∈ s.channel.peer.traceTags))) ∧
        (∀ text, text ≠ tag.text →
          (text ∈ after.2.channel.peer.traceTags ↔ text ∈ s.channel.peer.traceTags)) ∧
        ((∃ e, after.1 = .error e) ↔
          s.traces.mode tag ≠ .off ∧ s.traces.confirmedMode tag = .off) := by
  intro s after hs hmode
  have hheld : s.heldTexts.contains tag.text = true ↔ s.traces.confirmedMode tag ≠ .off :=
    heldTexts_iff_of_alone (s := new line config) rfl hempty halone
  have hslot : after.2.traces.slot tag = ⟨mode, mode⟩ := hs.slot_select hmode hheld
  have hafter : after.2.heldTexts.contains tag.text = true ↔
      after.2.traces.confirmedMode tag ≠ .off :=
    contains_heldTexts_select_iff hheld
  have htexts {text : String} (htext : text ≠ tag.text) :
      text ∈ after.2.channel.peer.traceTags ↔ text ∈ s.channel.peer.traceTags := by
    have hsame : after.2.heldTexts.contains text = s.heldTexts.contains text :=
      contains_heldTexts_select_of_ne htext
    rw [Daemon.mem_traceTags, Daemon.mem_traceTags]
    exact Bool.eq_iff_iff.1 hsame
  have hconfirmed : after.2.traces.confirmedMode tag = mode := congrArg TraceSlot.confirmed hslot
  refine ⟨congrArg TraceSlot.displayed hslot, hconfirmed, ?_, fun other hother => ⟨?_, ?_⟩,
    fun text => htexts, ?_⟩
  · rw [Daemon.mem_traceTags, ← hconfirmed]
    exact hafter
  · exact slot_select_of_ne hother
  · exact fun hparsed => htexts fun htext => hother (hparsed.text_injective htag htext)
  · have hok : after.1.isOk = true ↔
        (s.traces.mode tag ≠ .off → s.heldTexts.contains tag.text = true) :=
      hs.isOk_select hmode
    have hfailed : (∃ e, after.1 = .error e) ↔ ¬after.1.isOk = true := by
      cases after.1 <;> simp [Except.isOk, Except.toBool]
    rw [hfailed, hok, hheld]
    simp

/-- A tag that is displayed in a mode that was never acknowledged. -/
theorem select_repairs_drift_refused :
    let tag : TraceTag := ⟨some "calc", .request⟩
    let mode := (TraceMode.ofName? "all").getD .off
    let other := (TraceMode.ofName? "common").getD .off
    let steps : List (Step Incident) := [.disturb (.fail "monitor/trace"),
      .act (.trace (.select tag mode)), .disturb (.recover "monitor/trace")]
    let s := (new Daemon.calculator.line SessionConfig.default).run steps
    s.traces.drifted = [tag] ∧ (∃ e, (s.selectTrace tag other).1 = .error e) ∧
      (s.selectTrace tag other).2.traces.mode tag = other ∧
      (s.selectTrace tag other).2.traces.confirmedMode tag = other ∧
      tag.text ∈ (s.selectTrace tag other).2.channel.peer.traceTags := by
  intro tag mode other steps s
  have htag : tag.IsParsed := ⟨"calc/request", by rfl⟩
  have hs : s.Undisturbed := ⟨by decide +kernel, by decide +kernel, by decide +kernel⟩
  have halone : ∀ t m, .act (.trace (.select t m)) ∈ steps → t.text = tag.text → t = tag := by
    intro t m hmem _
    simp only [steps, List.mem_cons, Step.act.injEq, Action.trace.injEq, TraceAction.select.injEq,
      reduceCtorEq, false_or, List.not_mem_nil, or_false] at hmem
    exact hmem.1
  have hother : other ≠ s.traces.mode tag := by decide +kernel
  have hdrifted : s.traces.drifted = [tag] := by decide +kernel
  have hshown : s.traces.mode tag ≠ .off ∧ s.traces.confirmedMode tag = .off := by decide +kernel
  have hactive : other ≠ .off := by decide +kernel
  have hall := select_repairs_drift Daemon.calculator.line rfl SessionConfig.default steps tag htag
    halone other hs hother
  -- from here on the session is opaque, so that comparing terms does not perform the run
  rw [show (new Daemon.calculator.line SessionConfig.default).run steps = s from rfl] at hall
  clear_value s
  obtain ⟨hmode, hconfirmed, hheld, -, -, hfailed⟩ := hall
  exact ⟨hdrifted, hfailed.2 hshown, hmode, hconfirmed, hheld.2 hactive⟩

end Session

end LiveTrace
