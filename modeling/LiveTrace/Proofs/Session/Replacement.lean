import LiveTrace.Proofs.Session.Commands
import LiveTrace.Proofs.Session.Exclusivity
/-!
# LiveTrace.Proofs.Session.Replacement

**When a subscription is replaced without being dropped.** A daemon never replaces a subscription by
itself, so a tag that it holds should be dropped before it is added again. A session plans its
commands by what it displays, and that moves on even where a drop is refused. A tag whose drop was
refused is displayed as off while the daemon still holds it, and selecting an active mode for it is
an add alone (`Session.add_accepted_while_held`).

This is the only way in which it happens (`Session.replaces_iff_drop_refused`).
-/

namespace LiveTrace

/-- The daemon accepts an add of a tag that it holds. -/
def Sending.Replaces (x : Sending (Line Daemon)) : Prop :=
  ∃ tag mode, x.command = .add tag mode ∧ tag.text ∈ x.sender.channel.peer.traceTags ∧
    x.isAccepted = true

namespace Session

variable {s : Session (Line Daemon)}

/-- A call for a command that is not served is not accepted and changes nothing. -/
theorem call_of_not_undisturbed (h : ¬ s.Undisturbed) (c : TraceCommand) :
    ∃ settlement calls, (Caller.outcome settlement).isOk = false ∧
      Channel.call s.channel (s.apiVerb "trace") c.args = (settlement, { s.channel with calls }) := by
  cases hclosed : s.channel.closed with
  | true => exact ⟨.error .closed, s.channel.calls, rfl, Daemon.call_of_closed hclosed ..⟩
  | false =>
    have hrefused : ∃ r : Reply, r.isSuccess = false ∧
        s.channel.peer.handle (s.apiVerb "trace") c.args = (r, s.channel.peer) := by
      by_cases hnamed : s.options.monitorApi = "monitor"
      · -- the line leads to the API, so its verb is made to fail
        have hfailing : s.channel.peer.failing.contains "monitor/trace" = true := by
          by_contra hworking
          exact h ⟨hnamed, hclosed, eq_false_of_ne_true hworking⟩
        have hverb : s.apiVerb "trace" = "monitor/trace" := apiVerb_of_named hnamed "trace"
        rw [hverb, Daemon.handle_failing _ hfailing]
        exact ⟨_, rfl, rfl⟩
      · exact s.channel.peer.handle_foreign_trace hnamed c.args
    obtain ⟨r, hr, hhandle⟩ := hrefused
    rw [Daemon.call_of_open hclosed, hhandle]
    exact ⟨.ok r, _, (Caller.isOk_outcome r).trans hr, rfl⟩

theorem undisturbed_of_isAccepted {c : TraceCommand}
    (h : (s.settledCall "trace" c.args).isAccepted = true) : s.Undisturbed := by
  by_contra hs
  obtain ⟨settlement, calls, hnot, hcall⟩ := call_of_not_undisturbed hs c
  rw [SettledCall.isAccepted, settledCall, hcall, hnot] at h
  contradiction

theorem undisturbed_of_sendCommand {c : TraceCommand} (h : (s.sendCommand c).2.Undisturbed) :
    s.Undisturbed := by
  by_contra hs
  obtain ⟨settlement, calls, -, hcall⟩ := call_of_not_undisturbed hs c
  have hchannel := s.channel_sendCommand c
  rw [hcall] at hchannel
  refine hs ⟨?_, ?_, ?_⟩
  · rw [← s.options_sendCommand c]
    exact h.named
  · have hconnected := h.connected
    rwa [hchannel] at hconnected
  · have hworking := h.working
    rwa [hchannel] at hworking

/-- After a drop the daemon does not hold the tag, whether or not it did before. -/
theorem Undisturbed.not_held_of_drop (h : s.Undisturbed) (tag : TraceTag) :
    tag.text ∉ (s.sendCommand (.drop tag)).2.channel.peer.traceTags := by
  rw [Daemon.mem_traceTags, channel_sendCommand, Daemon.call_of_open h.connected, h.handle]
  cases hheld : s.channel.peer.traces.contains tag.text with
  | true =>
    rw [if_pos (by exact hheld)]
    simp [TraceCommand.effect, Table.contains_erase]
  | false =>
    rw [if_neg (by simpa [TraceCommand.isAccepted] using hheld)]
    simp [hheld]

/-- An add that follows a drop of its tag replaces nothing. -/
theorem not_replaces_after_drop {tag : TraceTag} {mode : TraceMode} :
    ¬ Sending.Replaces ⟨(s.sendCommand (.drop tag)).2, .add tag mode⟩ := by
  rintro ⟨tag', mode', hcommand, hheld, haccepted⟩
  cases hcommand
  have hs : s.Undisturbed := undisturbed_of_sendCommand (undisturbed_of_isAccepted haccepted)
  exact hs.not_held_of_drop tag hheld

/-- **Which actions replace a subscription**: the selections of an active mode for a tag that is
displayed as off and held all the same. -/
theorem replaces_iff {a : TraceAction} :
    (∃ x ∈ s.traceSendings a, x.Replaces) ↔
      ∃ tag mode, a = .select tag mode ∧ mode ≠ .off ∧ s.traces.mode tag = .off ∧
        tag.text ∈ s.channel.peer.traceTags ∧ s.Undisturbed := by
  constructor
  · rintro ⟨x, hx, hreplaces⟩
    have hadd : ∃ tag mode, x.command = .add tag mode := by
      obtain ⟨tag, mode, hcommand, -⟩ := hreplaces
      exact ⟨tag, mode, hcommand⟩
    cases a with
    | untraceAll =>
      obtain ⟨tag, mode, hcommand⟩ := hadd
      have hmem := command_mem_of_mem_sendings hx
      rw [hcommand, List.mem_singleton] at hmem
      contradiction
    | select tag mode =>
      rw [traceSendings, TraceSubscriptions.plan_eq] at hx
      by_cases heq : mode = s.traces.mode tag
      · rw [if_pos heq] at hx
        contradiction
      rw [if_neg heq] at hx
      by_cases hoff : s.traces.mode tag = .off
      · -- nothing is dropped, and the add is the one that replaces
        have hmode : mode ≠ .off := hoff ▸ heq
        rw [if_pos hoff, if_neg hmode, List.nil_append] at hx
        obtain rfl := List.mem_singleton.1 hx
        obtain ⟨_, _, hcommand, hheld, haccepted⟩ := hreplaces
        cases hcommand
        have hs := undisturbed_of_isAccepted haccepted
        exact ⟨tag, mode, rfl, hmode, hoff, hheld, hs.named, hs.connected, hs.working⟩
      · -- the tag is dropped first, and an add comes after that if at all
        rw [if_neg hoff, List.singleton_append, sendings] at hx
        rcases List.mem_cons.1 hx with rfl | hx
        · obtain ⟨_, _, hcommand⟩ := hadd
          contradiction
        · split at hx
          · contradiction
          · obtain rfl := List.mem_singleton.1 hx
            exact absurd hreplaces not_replaces_after_drop
  · rintro ⟨tag, mode, rfl, hmode, hoff, hheld, hs⟩
    have hplan : s.traces.plan tag mode = [.add tag mode] := by
      rw [TraceSubscriptions.plan_eq, hoff, if_neg hmode, if_pos rfl, if_neg hmode, List.nil_append]
    let displaying : Session (Line Daemon) := { s with traces := (s.traces.select tag mode).2 }
    have hdisplaying : displaying.Undisturbed := ⟨hs.named, hs.connected, hs.working⟩
    refine ⟨⟨displaying, .add tag mode⟩, ?_, tag, mode, rfl, hheld, hdisplaying.isAccepted _⟩
    rw [traceSendings, hplan]
    exact List.mem_singleton_self _

/-- A tag that is selected again after a drop of it was refused. -/
theorem add_accepted_while_held :
    let tag : TraceTag := ⟨some "calc", .request⟩
    let mode := (TraceMode.ofName? "all").getD .off
    let steps : List (Step Incident) :=
      [.act (.trace (.select tag mode)), .disturb (.fail "monitor/trace"),
        .act (.trace (.select tag .off)), .disturb (.recover "monitor/trace")]
    let s := (new Daemon.calculator.line SessionConfig.default).run steps
    Daemon.calculator.line.closed = false ∧ Daemon.calculator.traces = .empty ∧ tag.IsParsed ∧
      ∃ x ∈ s.traceSendings (.select tag mode), x.Replaces := by
  intro tag mode steps s
  have hs : s.Undisturbed := ⟨by decide +kernel, by decide +kernel, by decide +kernel⟩
  have hheld : tag.text ∈ s.channel.peer.traceTags := by decide +kernel
  refine ⟨rfl, rfl, ⟨"calc/request", by rfl⟩, replaces_iff.2 ?_⟩
  exact ⟨tag, mode, rfl, by decide +kernel, by decide +kernel, hheld, hs⟩

/-- **Subscriptions are replaced only after a refused drop.** Take any run of a session with a daemon
that has no subscriptions at first, in which the selected tags are tags that can be read. What is
done next makes the daemon accept an add of a tag that it holds if and only if it is a selection of
an active mode, the line is open and the daemon serves `monitor/trace`, the daemon holds the tag,
and the last command about the tag was a drop of it or of everything that was not accepted. The
beginning of such a run is one too, so this holds of every operation of it. -/
theorem replaces_iff_drop_refused (line : Line Daemon) (hempty : line.peer.traces = .empty)
    (config : SessionConfig) (steps : List (Step Incident))
    (hsteps : ∀ tag mode, .act (.trace (.select tag mode)) ∈ steps → tag.IsParsed)
    (a : TraceAction) (ha : ∀ tag mode, a = .select tag mode → tag.IsParsed) :
    let s := (new line config).run steps
    (∃ x ∈ s.traceSendings a, x.Replaces) ↔
      ∃ tag mode, a = .select tag mode ∧ mode ≠ .off ∧ s.Undisturbed ∧
        tag.text ∈ s.channel.peer.traceTags ∧
        Sending.DropRefused tag ((new line config).runSendings steps) := by
  intro s
  have hinStep : s.traces.Agrees s.channel.peer.traces := inStep_run hempty config hsteps
  have hoff {tag : TraceTag} (htag : tag.IsParsed) (hheld : tag.text ∈ s.channel.peer.traceTags) :
      s.traces.mode tag = .off ↔
        Sending.DropRefused tag ((new line config).runSendings steps) := by
    refine mode_eq_off_iff (s := new line config) rfl hsteps ?_
    exact (hinStep.text_held_iff htag).1 (Daemon.mem_traceTags.1 hheld)
  rw [replaces_iff]
  constructor
  · rintro ⟨tag, mode, rfl, hmode, hdisplayed, hheld, hs⟩
    exact ⟨tag, mode, rfl, hmode, hs, hheld, (hoff (ha tag mode rfl) hheld).1 hdisplayed⟩
  · rintro ⟨tag, mode, rfl, hmode, hs, hheld, hrefused⟩
    exact ⟨tag, mode, rfl, hmode, (hoff (ha tag mode rfl) hheld).2 hrefused, hheld, hs⟩

/-- After retracting everything was refused, a tag that was active is replaced and another is not. -/
theorem replaces_iff_drop_refused_untraced :
    let tag : TraceTag := ⟨some "calc", .request⟩
    let other : TraceTag := ⟨none, .event⟩
    let mode := (TraceMode.ofName? "all").getD .off
    let before : List (Step Incident) :=
      [.act (.trace (.select tag mode)), .disturb (.fail "monitor/trace")]
    let after : List (Step Incident) :=
      [.act (.trace .untraceAll), .disturb (.recover "monitor/trace")]
    let s := (new Daemon.calculator.line SessionConfig.default).run (before ++ after)
    (∃ x ∈ s.traceSendings (.select tag mode), x.Replaces) ∧
      ¬ ∃ x ∈ s.traceSendings (.select other mode), x.Replaces := by
  intro tag other mode before after s
  let start := new Daemon.calculator.line SessionConfig.default
  have htag : tag.IsParsed := ⟨"calc/request", by rfl⟩
  have hother : other.IsParsed := ⟨"*/event", by rfl⟩
  have hsteps : ∀ tag mode, .act (.trace (.select tag mode)) ∈ before ++ after → tag.IsParsed := by
    intro t mode hmem
    simp only [before, after, List.mem_append, List.mem_cons, Step.act.injEq, Action.trace.injEq,
      TraceAction.select.injEq, reduceCtorEq, or_false, List.not_mem_nil] at hmem
    exact hmem.1 ▸ htag
  have hiff (a : TraceAction) (ha : ∀ tag mode, a = .select tag mode → tag.IsParsed) :=
    replaces_iff_drop_refused Daemon.calculator.line rfl SessionConfig.default (before ++ after)
      hsteps a ha
  constructor
  · refine (hiff (.select tag mode) fun t m heq => (TraceAction.select.inj heq).1 ▸ htag).2 ?_
    have hs : s.Undisturbed := ⟨by decide +kernel, by decide +kernel, by decide +kernel⟩
    have hrefused : Sending.DropRefused tag (start.runSendings (before ++ after)) := by
      rw [runSendings_append]
      exact ⟨start.runSendings before, ⟨start.run before, .dropAll⟩, [], rfl, .inr rfl,
        by decide +kernel, fun y hy => absurd hy List.not_mem_nil⟩
    exact ⟨tag, mode, rfl, by decide +kernel, hs, by decide +kernel, hrefused⟩
  · intro hreplaces
    obtain ⟨t, m, heq, -, -, hheld, -⟩ :=
      (hiff (.select other mode) fun t m heq => (TraceAction.select.inj heq).1 ▸ hother).1 hreplaces
    have hnot : other.text ∉ s.channel.peer.traceTags := by decide +kernel
    have ht : t = other := (TraceAction.select.inj heq).1.symm
    rw [ht] at hheld
    exact hnot hheld

end Session

end LiveTrace
