import LiveTrace.Program.Commands
import LiveTrace.Proofs.Session.Calls
import LiveTrace.Proofs.Session.Intent
/-!
# LiveTrace.Proofs.Program.Trace

**When the trace command gives up.** The command selects trace modes one after the other and prints
events, unless every selection failed. A selection fails if one of its calls is not accepted
(`Session.isOk_selectTrace`); a selection of the mode that its tag is displayed in makes no calls, so
it cannot fail. If no call is accepted, the command therefore gives up if and only if no selection
repeats what is displayed (`Commands.trace_gives_up_iff`).

What is displayed does not depend on the daemon: it is the mode that the selections before name last
for the tag. So repeating is a property of the list of selections (`TraceSelection.Repeats`).
-/

namespace LiveTrace

universe u v

namespace Session

variable {τ : Type u} [Channel τ]

/-! ### Which selections fail -/

/-- If no call is accepted, a selection succeeds only without one: it is of the mode on display. -/
theorem isOk_selectTrace_of_unaccepted {s : Session τ} {tag : TraceTag} {mode : TraceMode}
    (h : ∀ e ∈ s.made (.trace (.select tag mode)), e.isAccepted = false) :
    (s.selectTrace tag mode).1.isOk = true ↔ s.traces.mode tag = mode := by
  rw [isOk_selectTrace]
  rw [made_trace] at h ⊢
  constructor
  · intro hall
    by_contra hmode
    cases hplan : s.traces.plan tag mode with
    | nil => exact hmode (TraceSubscriptions.plan_eq_nil_iff.1 hplan)
    | cons c rest =>
      have hmem : s.settledCall "trace" c.args ∈ s.settledCalls (s.commands (.select tag mode)) := by
        rw [commands, hplan]
        exact List.mem_cons_self
      have hrefused := h _ hmem
      rw [List.all_eq_true.1 hall _ hmem] at hrefused
      contradiction
  · intro hmode
    rw [commands, TraceSubscriptions.plan_of_mode_eq hmode]
    rfl

end Session

/-! ### Selections that repeat what is displayed -/

namespace TraceSelection

/-- What an operator does by a selection. -/
def action (x : TraceSelection) : TraceAction := .select x.tag x.mode

/-- Some selection is of the mode that its tag is displayed in when its turn comes, beginning with
no active mode. -/
def Repeats (selections : List TraceSelection) : Prop :=
  ∃ before x after, selections = before ++ x :: after ∧
    selectedLast (before.map action) x.tag = x.mode

end TraceSelection

namespace Commands

variable {τ : Type u} [Channel τ]

/-- The steps of selections. -/
def selectionSteps (selections : List TraceSelection) : List (Session.Step Empty) :=
  Session.traceSteps Empty (selections.map TraceSelection.action)

/-- The first selection counts if it fails, and the others are made after it in any case. -/
theorem snd_applySelections_cons (s : Session τ) (console : Console) (x : TraceSelection)
    (rest : List TraceSelection) :
    (applySelections s console (x :: rest)).2 =
      let selected := s.selectTrace x.tag x.mode
      let others := applySelections selected.2 console rest
      (others.2.1 + if selected.1.isOk then 0 else 1, others.2.2) := by
  rw [applySelections]
  rcases s.selectTrace x.tag x.mode with ⟨e | r, t⟩ <;> rfl

/-- Selecting modes is a run of the session. -/
theorem session_applySelections (s : Session τ) (console : Console)
    (selections : List TraceSelection) :
    (applySelections s console selections).2.2 = s.run (selectionSteps selections) := by
  induction selections generalizing s with
  | nil => rfl
  | cons x rest ih =>
    rw [snd_applySelections_cons]
    exact ih _

theorem failed_le (s : Session τ) (console : Console) (selections : List TraceSelection) :
    (applySelections s console selections).2.1 ≤ selections.length := by
  induction selections generalizing s with
  | nil => exact Nat.le_refl 0
  | cons x rest ih =>
    have hrest := ih (s.selectTrace x.tag x.mode).2
    rw [snd_applySelections_cons, List.length_cons]
    dsimp only
    split <;> omega

/-- A step selects the mode that its tag is displayed in. -/
def RepeatsShown (s : Session τ) (e : Session.Step Empty) : Prop :=
  ∃ x : TraceSelection, e = .act (.trace x.action) ∧ s.traces.mode x.tag = x.mode

omit [Channel τ] in
theorem repeatsShown_iff (s : Session τ) (x : TraceSelection) :
    RepeatsShown s (.act (.trace x.action)) ↔ s.traces.mode x.tag = x.mode := by
  constructor
  · rintro ⟨⟨tag, mode⟩, heq, hmode⟩
    cases heq
    exact hmode
  · exact fun hmode => ⟨x, rfl, hmode⟩

/-- If no call is accepted, every selection fails if and only if none is of the mode on display when
its turn comes. -/
theorem failed_eq_length_iff {s : Session τ} (console : Console) {selections : List TraceSelection}
    (h : ∀ e ∈ s.transcript (selectionSteps selections), e.isAccepted = false) :
    (applySelections s console selections).2.1 = selections.length ↔
      ¬ s.Meets (selectionSteps selections) RepeatsShown := by
  induction selections generalizing s with
  | nil => exact iff_of_true rfl (s.not_meets_nil RepeatsShown)
  | cons x rest ih =>
    have hsteps : selectionSteps (x :: rest) = .act (.trace x.action) :: selectionSteps rest := rfl
    rw [hsteps, Session.transcript_cons] at h
    have hok := Session.isOk_selectTrace_of_unaccepted fun e he => h e (List.mem_append_left _ he)
    have hrest := ih fun e he => h e (List.mem_append_right _ he)
    rw [hsteps, Session.meets_cons, repeatsShown_iff, snd_applySelections_cons, List.length_cons,
      not_or]
    dsimp only
    by_cases hshown : s.traces.mode x.tag = x.mode
    · have hle := failed_le (s.selectTrace x.tag x.mode).2 console rest
      rw [if_pos (hok.2 hshown)]
      refine iff_of_false (by omega) ?_
      exact fun hnot => hnot.1 hshown
    · rw [if_neg fun ht => hshown (hok.1 ht), Nat.add_right_cancel_iff]
      exact hrest.trans (and_iff_right hshown).symm

/-- Which selections repeat what is displayed is told by the selections before them. -/
theorem meets_repeatsShown_iff {s : Session τ} (hempty : s.traces = .empty)
    (selections : List TraceSelection) :
    s.Meets (selectionSteps selections) RepeatsShown ↔ TraceSelection.Repeats selections := by
  constructor
  · intro hmeets
    obtain ⟨before, e, after, hsteps, hshown⟩ := hmeets
    rw [selectionSteps, Session.traceSteps, List.map_map] at hsteps
    obtain ⟨first, rest, rfl, rfl, hrest⟩ := List.map_eq_append_iff.1 hsteps
    obtain ⟨x, last, rfl, rfl, rfl⟩ := List.map_eq_cons_iff.1 hrest
    have hmode := (repeatsShown_iff _ x).1 hshown
    rw [← List.map_map] at hmode
    refine ⟨first, x, last, rfl, ?_⟩
    rw [← hmode]
    exact (Session.mode_run_traceSteps hempty (first.map TraceSelection.action) x.tag).symm
  · intro hrepeats
    obtain ⟨before, x, after, rfl, hmode⟩ := hrepeats
    refine ⟨selectionSteps before, .act (.trace x.action), selectionSteps after, ?_, ?_⟩
    · simp [selectionSteps, Session.traceSteps]
    · rw [repeatsShown_iff, selectionSteps, Session.mode_run_traceSteps hempty]
      exact hmode

/-- **The command gives up when nothing was accepted, unless a selection repeats what is displayed.**
Take a session that was just opened, over a channel of any kind, and selections whose calls are all
refused. If no selection is of the mode that its tag is displayed in when its turn comes, the command
fails, and neither prints nor takes an event: there is only what selecting the modes has printed and
done. If a selection repeats what is displayed, it makes no call and counts as accepted, and the
command goes on to print the events of the session. -/
theorem trace_gives_up_iff (channel : τ) (config : SessionConfig) (console : Console)
    (depths : RenderDepths) (selections : List TraceSelection)
    (hrefused : ∀ e ∈ (Session.opened channel config).transcript (selectionSteps selections),
      e.isAccepted = false) :
    let s := Session.opened channel config
    let o := trace s console depths selections
    let selected := s.run (selectionSteps selections)
    (¬ TraceSelection.Repeats selections →
        o.result = .error ⟨"No trace selection was accepted", []⟩ ∧
          o.output = (applySelections s console selections).1 ∧ o.session = selected) ∧
      (TraceSelection.Repeats selections →
        let events := stream selected console depths
        o.result = .ok events.ending ∧
          o.output = (applySelections s console selections).1 ++ events.output ∧
          o.session = events.session) := by
  intro s o selected
  have hempty : s.traces = .empty := Session.traces_discover _
  have hfailed := failed_eq_length_iff console hrefused
  rw [meets_repeatsShown_iff hempty] at hfailed
  have hsession := session_applySelections s console selections
  have htrace : o = trace s console depths selections := rfl
  unfold trace at htrace
  generalize applySelections s console selections = applied at hfailed hsession htrace ⊢
  obtain ⟨output, failed, t⟩ := applied
  obtain rfl : t = selected := hsession
  constructor
  · intro hrepeats
    have ho := htrace.trans (if_pos (hfailed.2 hrepeats))
    rw [ho]
    exact ⟨rfl, rfl, rfl⟩
  · intro hrepeats
    have ho := htrace.trans (if_neg fun h => hfailed.1 h hrepeats)
    rw [ho]
    exact ⟨rfl, rfl, rfl⟩

/-- Two tags that the daemon refuses: the command gives up. -/
theorem trace_gives_up_iff_refused :
    let x : TraceSelection := ⟨⟨some "calc", .request⟩, (TraceMode.ofName? "all").getD .off⟩
    let y : TraceSelection := ⟨⟨none, .event⟩, (TraceMode.ofName? "common").getD .off⟩
    let console : Console := ⟨fun _ => default, false, false⟩
    let s := Session.opened (Daemon.calculator.fail "monitor/trace").line SessionConfig.default
    (∀ e ∈ s.transcript (selectionSteps [x, y]), e.isAccepted = false) ∧
      ¬ TraceSelection.Repeats [x, y] ∧
      (trace s console default [x, y]).result = .error ⟨"No trace selection was accepted", []⟩ := by
  have hrefused : ∀ e ∈ (Session.opened (Daemon.calculator.fail "monitor/trace").line
      SessionConfig.default).transcript (selectionSteps
        [⟨⟨some "calc", .request⟩, (TraceMode.ofName? "all").getD .off⟩,
          ⟨⟨none, .event⟩, (TraceMode.ofName? "common").getD .off⟩]),
      e.isAccepted = false := by decide +kernel
  have hrepeats : ¬ TraceSelection.Repeats
      [⟨⟨some "calc", .request⟩, (TraceMode.ofName? "all").getD .off⟩,
        ⟨⟨none, .event⟩, (TraceMode.ofName? "common").getD .off⟩] := by
    rintro ⟨before, x, after, hlist, hmode⟩
    match before, hlist with
    | [], hlist =>
      cases hlist
      exact absurd hmode (by decide +kernel)
    | [_], hlist =>
      cases hlist
      exact absurd hmode (by decide +kernel)
    | _ :: _ :: _, hlist => simp at hlist
  exact ⟨hrefused, hrepeats, ((trace_gives_up_iff _ _ _ _ _ hrefused).1 hrepeats).1⟩

/-- **That every call was refused is not enough to give up.** The mode of a selection that is refused
stays on display, so selecting it again makes no call and counts as accepted. -/
theorem trace_streams_unaccepted :
    ¬ ∀ (d : Daemon) (config : SessionConfig) (console : Console) (depths : RenderDepths)
        (selections : List TraceSelection), selections ≠ [] →
      let s := Session.opened d.line config
      let calls := s.transcript (selectionSteps selections)
      calls ≠ [] → (∀ e ∈ calls, e.isAccepted = false) →
        (trace s console depths selections).result =
          .error ⟨"No trace selection was accepted", []⟩ := by
  intro h
  have hgives := h (Daemon.calculator.fail "monitor/trace") SessionConfig.default
    ⟨fun _ => default, false, false⟩ default
    (List.replicate 2 ⟨⟨some "calc", .request⟩, (TraceMode.ofName? "all").getD .off⟩)
    (by decide +kernel) (by decide +kernel) (by decide +kernel)
  have hstreams : (trace (Session.opened (Daemon.calculator.fail "monitor/trace").line
      SessionConfig.default) ⟨fun _ => default, false, false⟩ default
      (List.replicate 2 ⟨⟨some "calc", .request⟩, (TraceMode.ofName? "all").getD .off⟩)).result.isOk =
        true := by decide +kernel
  rw [hgives] at hstreams
  contradiction

end Commands

end LiveTrace
