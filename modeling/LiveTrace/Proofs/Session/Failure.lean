import LiveTrace.Proofs.Session.Calls
import LiveTrace.Proofs.Session.Commands
import LiveTrace.Proofs.Session.Setting
/-!
# LiveTrace.Proofs.Session.Failure

**What an operation that fails leaves behind.** Apart from its channel, its log and the state of its
connection, a session is what it has learned and what it shows (`Session.knowledge`). A query that
fails, be it for the channel, the daemon or a body that is not understood, changes nothing of this:
a body is read to its end before any of it is taken over (`FailsCleanly`). Selecting a trace mode
and retracting every subscription put on display what the operator asked for, and confirm only what
the daemon accepted (`Session.failure_keeps_knowledge`).
-/

namespace LiveTrace

universe u

/-- No command of a plan is about another tag. -/
theorem TraceSubscriptions.outcome?_of_mem_plan {s : TraceSubscriptions} {tag t : TraceTag}
    {wanted : TraceMode} {c : TraceCommand} (hc : c ∈ s.plan tag wanted) (ht : t ≠ tag) :
    c.outcome? t = none := by
  by_cases hmode : s.mode tag = wanted
  · rw [plan_of_mode_eq hmode] at hc
    contradiction
  · have hlast := outcome?_plan hmode t
    rw [if_neg ht, List.findSome?_eq_none_iff] at hlast
    exact hlast c (List.mem_reverse.2 hc)

/-! ### How calls fail -/

theorem elim_eq_error_iff {ε : Type} {failure : Option ε} {e : ε} :
    failure.elim (.ok ()) .error = (.error e : Except ε Unit) ↔ failure = some e := by
  cases failure with
  | none => exact ⟨nofun, nofun⟩
  | some e' =>
    rw [Option.elim_some, Except.error.injEq, Option.some.injEq]

/-- How a call fails whose reply is read. -/
inductive SettledCall.Fails {α : Type} (read : Json → Except Mismatch α) (c : SettledCall) :
    MonitorError → Prop
  /-- The channel failed, or the daemon refused. -/
  | call {e : MonitorError} (h : c.failure? = some e) : c.Fails read e
  /-- The daemon accepted, and the body of its reply is not understood. -/
  | body {reply : Reply} {mismatch : Mismatch} (h : c.settlement = .ok reply)
      (accepted : reply.isSuccess = true) (misread : read reply.body = .error mismatch) :
      c.Fails read (.response c.apiVerb mismatch.message)

namespace SettledCall

variable {α : Type} {read : Json → Except Mismatch α} {c : SettledCall}

theorem failure?_eq_none_iff : c.failure? = none ↔ c.isAccepted = true := by
  unfold isAccepted failure? Caller.outcome
  cases c.settlement with
  | error e => simp [Except.isOk, Except.toBool]
  | ok reply => cases h : reply.isSuccess <;> simp [Except.isOk, Except.toBool, h]

/-- A call fails for one reason, or the daemon has accepted it. -/
theorem outcome_cases (c : SettledCall) :
    (∃ e, c.failure? = some e ∧ (Caller.outcome c.settlement).mapError .call = .error e) ∨
      ∃ reply, c.failure? = none ∧ c.settlement = .ok reply ∧ reply.isSuccess = true ∧
        (Caller.outcome c.settlement).mapError MonitorError.call = .ok reply := by
  unfold failure? Caller.outcome
  cases c.settlement with
  | error e => exact .inl ⟨_, rfl, rfl⟩
  | ok reply =>
    cases h : reply.isSuccess with
    | false => exact .inl ⟨.call (.rejected reply), by simp [h], by simp [h, Except.mapError]⟩
    | true => exact .inr ⟨reply, by simp [h], rfl, h, by simp [h, Except.mapError]⟩

/-- What calling and then reading gives is a failure if and only if the call fails. -/
theorem fails_iff {e : MonitorError} :
    (((Caller.outcome c.settlement).mapError MonitorError.call).bind fun reply =>
      (read reply.body).mapError fun mismatch => .response c.apiVerb mismatch.message) = .error e ↔
        c.Fails read e := by
  rcases c.outcome_cases with ⟨e', hfailure, houtcome⟩ |
    ⟨reply, hnone, hsettled, haccepted, houtcome⟩
  · rw [houtcome]
    constructor
    · intro h
      obtain rfl := Except.error.inj h
      exact .call hfailure
    · intro h
      cases h with
      | call h =>
        rw [hfailure] at h
        exact congrArg Except.error (Option.some.inj h)
      | body h accepted misread => simp [failure?, h, accepted] at hfailure
  · rw [houtcome]
    show (read reply.body).mapError _ = _ ↔ _
    constructor
    · intro h
      cases hread : read reply.body with
      | ok a =>
        rw [hread] at h
        contradiction
      | error mismatch =>
        rw [hread] at h
        obtain rfl := Except.error.inj h
        exact .body hsettled haccepted hread
    · intro h
      cases h with
      | call h =>
        rw [hnone] at h
        contradiction
      | body h accepted misread =>
        obtain rfl := Except.ok.inj (hsettled.symm.trans h)
        rw [misread]
        rfl

end SettledCall

/-- Why a command was not accepted. -/
def Sending.failure? {τ : Type u} [Channel τ] (x : Sending τ) : Option MonitorError :=
  (x.sender.settledCall "trace" x.command.args).failure?

theorem Sending.failure?_eq_none_iff {τ : Type u} [Channel τ] {x : Sending τ} :
    x.failure? = none ↔ x.isAccepted = true := SettledCall.failure?_eq_none_iff

/-! ### What a session knows -/

/-- What a session has learned, and what it shows. -/
structure Knowledge where
  registry : Registry
  verbosity : VerbosityState
  traces : TraceSubscriptions
  kept : Recent TraceEvent

namespace Session

variable {τ : Type u}

def knowledge (s : Session τ) : Knowledge := ⟨s.registry, s.verbosity, s.traces, s.kept⟩

@[simp] theorem knowledge_log (s : Session τ) (e : LogEntry) :
    (s.log e).knowledge = s.knowledge := rfl

@[simp] theorem knowledge_call [Channel τ] (s : Session τ) (verb : String)
    (args : Json) : (s.call verb args).2.knowledge = s.knowledge := by
  obtain ⟨-, feed, state, h⟩ := s.call_frame verb args
  rw [h]
  rfl

/-! ### Queries -/

/-- An operation reads the reply to one call, fails if and only if that fails, and then leaves what
is known as it was. -/
structure FailsCleanly {α β : Type} (s : Session τ) (c : SettledCall)
    (read : Json → Except Mismatch α) (after : Except MonitorError β × Session τ) : Prop where
  failure : ∀ e, after.1 = .error e ↔ c.Fails read e
  knowledge : ∀ e, after.1 = .error e → after.2.knowledge = s.knowledge

variable {α β γ : Type} {s t t' : Session τ} {c : SettledCall} {read : Json → Except Mismatch α}

theorem FailsCleanly.of_error {e : MonitorError}
    (h : s.FailsCleanly c read ((.error e : Except MonitorError β), t))
    (hknowledge : t'.knowledge = t.knowledge) :
    s.FailsCleanly c read ((.error e : Except MonitorError γ), t') where
  failure e' := by
    rw [← h.failure]
    exact ⟨fun he => congrArg Except.error (Except.error.inj he),
      fun he => congrArg Except.error (Except.error.inj he)⟩
  knowledge _ _ := hknowledge.trans (h.knowledge e rfl)

theorem FailsCleanly.of_ok {b : β} {b' : γ}
    (h : s.FailsCleanly c read (.ok b, t)) : s.FailsCleanly c read (.ok b', t') where
  failure e := by
    rw [← h.failure]
    exact ⟨nofun, nofun⟩
  knowledge _ he := nomatch he

variable [Channel τ]

/-- Calling a verb and reading the reply fails as the call does. -/
theorem failsCleanly_read {α : Type} (s : Session τ) (verb : String) (args : Json)
    (read : Json → Except Mismatch α) :
    s.FailsCleanly (s.settledCall verb args) read
      ((s.call verb args).1.bind ((s.call verb args).2.readBody verb read),
        (s.call verb args).2) where
  failure e := by
    have hverb : (s.call verb args).2.apiVerb verb = (s.settledCall verb args).apiVerb := by
      rw [apiVerb, options_call]
      rfl
    rw [← SettledCall.fails_iff]
    unfold readBody
    rw [fst_call_eq_settledCall, hverb]
  knowledge _ _ := s.knowledge_call verb args

theorem failsCleanly_querySnapshot (s : Session τ) (args : Json) :
    s.FailsCleanly (s.settledCall "get" args) Snapshot.ofJson (s.querySnapshot args) :=
  s.failsCleanly_read "get" args Snapshot.ofJson

/-- A document is taken over only after all of it was read. -/
theorem failsCleanly_discover (s : Session τ) :
    s.FailsCleanly (s.settledCall "get" discoveryArgs) Snapshot.ofJson s.discover := by
  have hquery := s.failsCleanly_querySnapshot discoveryArgs
  unfold discover
  generalize s.querySnapshot discoveryArgs = p at hquery ⊢
  obtain ⟨e | snapshot, t⟩ := p
  · exact hquery.of_error (t.knowledge_log _)
  · exact hquery.of_ok

theorem failsCleanly_refreshVerbosity (s : Session τ) :
    s.FailsCleanly (s.settledCall "get" levelsArgs) Snapshot.ofJson s.refreshVerbosity := by
  have hquery := s.failsCleanly_querySnapshot levelsArgs
  unfold refreshVerbosity
  generalize s.querySnapshot levelsArgs = p at hquery ⊢
  obtain ⟨e | snapshot, t⟩ := p
  · exact hquery.of_error rfl
  · exact hquery.of_ok

theorem failsCleanly_sessionInfo (s : Session τ) (refreshToken : Bool) :
    s.FailsCleanly (s.settledCall "session" (.object [("refresh-token", .bool refreshToken)]))
      SessionInfo.ofJson (s.sessionInfo refreshToken) :=
  s.failsCleanly_read "session" _ SessionInfo.ofJson

/-! ### Trace commands -/

theorem knowledge_sendCommand (s : Session τ) (c : TraceCommand) :
    (s.sendCommand c).2.knowledge =
      { s.knowledge with traces := (s.sendCommand c).2.traces } := by
  have hcall := s.knowledge_call "trace" c.args
  rw [snd_sendCommand, ← hcall]
  rfl

/-- Commands change the subscriptions only. -/
theorem knowledge_sendCommands (s : Session τ) (l : List TraceCommand) :
    (s.sendCommands l).2.knowledge =
      { s.knowledge with traces := (s.sendCommands l).2.traces } := by
  induction l generalizing s with
  | nil => rfl
  | cons c rest ih => rw [sendCommands_cons, ih, knowledge_sendCommand]

/-- Commands fail with the first failure among them. -/
theorem fst_sendCommands (s : Session τ) (l : List TraceCommand) :
    (s.sendCommands l).1 = ((s.sendings l).findSome? Sending.failure?).elim (.ok ()) .error := by
  induction l generalizing s with
  | nil => rfl
  | cons c rest ih =>
    have hfirst : (s.sendCommand c).1 = (Sending.failure? ⟨s, c⟩).elim (.ok ()) .error := by
      rw [fst_sendCommand]
      exact s.result_call "trace" c.args
    rw [sendCommands_cons, ih, hfirst, sendings, List.findSome?_cons]
    cases Sending.failure? ⟨s, c⟩ <;> rfl

/-! ### Selecting modes and retracting subscriptions -/

/-- A selection fails with the first failure among its commands. -/
theorem fst_selectTrace (s : Session τ) (tag : TraceTag) (mode : TraceMode) :
    (s.selectTrace tag mode).1 =
      ((s.traceSendings (.select tag mode)).findSome? Sending.failure?).elim (.ok ()) .error := by
  show (s.trace (.select tag mode)).1 = _
  rw [trace_select, fst_sendCommands]
  rfl

theorem knowledge_selectTrace (s : Session τ) (tag : TraceTag) (mode : TraceMode) :
    (s.selectTrace tag mode).2.knowledge =
      { s.knowledge with traces := (s.selectTrace tag mode).2.traces } := by
  have htrace : s.selectTrace tag mode = s.trace (.select tag mode) := rfl
  rw [htrace, trace_select, knowledge_sendCommands]
  rfl

/-- Selecting a mode puts it on display, and confirms what the accepted commands ask for. -/
theorem slot_selectTrace (s : Session τ) (tag : TraceTag) (mode : TraceMode) (t : TraceTag) :
    (s.selectTrace tag mode).2.traces.slot t =
      if t = tag then
        ⟨mode, (Sending.lastOutcome? tag ((s.traceSendings (.select tag mode)).filter
          Sending.isAccepted)).getD (s.traces.confirmedMode tag)⟩
      else s.traces.slot t := by
  have hslot : (s.selectTrace tag mode).2.traces.slot t =
      ⟨((s.traces.select tag mode).2.slot t).displayed,
        (Sending.lastOutcome? t ((s.traceSendings (.select tag mode)).filter
          Sending.isAccepted)).getD ((s.traces.select tag mode).2.slot t).confirmed⟩ := by
    show (s.trace (.select tag mode)).2.traces.slot t = _
    rw [trace_select, slot_sendCommands]
    rfl
  rw [hslot, TraceSubscriptions.slot_select]
  by_cases ht : t = tag
  · rw [if_pos ht, if_pos ht, ht]
    rfl
  · -- no command of the plan is about another tag
    have hnone : Sending.lastOutcome? t ((s.traceSendings (.select tag mode)).filter
        Sending.isAccepted) = none := by
      refine Sending.lastOutcome?_eq_none_iff.2 fun x hx => ?_
      have hmem := command_mem_of_mem_sendings (List.mem_filter.1 hx).1
      exact TraceSubscriptions.outcome?_of_mem_plan hmem ht
    rw [if_neg ht, if_neg ht, hnone]
    rfl

theorem fst_untraceAll_eq (s : Session τ) :
    s.untraceAll.1 = (Sending.failure? ⟨s, .dropAll⟩).elim (.ok ()) .error := by
  rw [fst_untraceAll]
  exact s.result_call "trace" TraceCommand.dropAll.args

theorem knowledge_untraceAll (s : Session τ) :
    s.untraceAll.2.knowledge = { s.knowledge with traces := s.untraceAll.2.traces } := by
  have hcall := s.knowledge_call "trace" TraceCommand.dropAll.args
  rw [snd_untraceAll, ← hcall]
  rfl

/-- Retracting everything in vain confirms nothing. -/
theorem slot_untraceAll_of_error {s : Session τ} {e : MonitorError}
    (h : s.untraceAll.1 = .error e) (t : TraceTag) :
    s.untraceAll.2.traces.slot t = ⟨.off, s.traces.confirmedMode t⟩ := by
  have hok : (s.call "trace" TraceCommand.dropAll.args).1.isOk =
      Sending.isAccepted ⟨s, .dropAll⟩ := s.isOk_call ..
  rw [fst_untraceAll_eq, elim_eq_error_iff] at h
  have hrefused : Sending.isAccepted ⟨s, .dropAll⟩ = false := by
    refine eq_false_of_ne_true fun haccepted => ?_
    rw [Sending.failure?_eq_none_iff.2 haccepted] at h
    contradiction
  rw [traces_untraceAll, hok, hrefused]
  exact s.traces.slot_resetAll t

/-- **Failed operations leave what is known intact.** Take any session over any channel.

* Discovering, reading the levels back and asking for the client session each make one call, and
  fail exactly when the channel fails, the daemon refuses, or the body of an accepted reply is not
  understood. The registry, the confirmed, displayed and pending levels, the modes of every tag and
  the kept trace events are then as before.
* Selecting a mode for a tag sends the commands of the plan one after the other, and fails exactly
  with the first failure among them. Everything is then as before except for the modes of this tag:
  the selected mode is displayed, and the confirmed mode is what the accepted ones of the commands
  make of the one before.
* Retracting every subscription fails exactly when its command does. Everything is then as before,
  except that every tag is displayed as off. -/
theorem failure_keeps_knowledge (s : Session τ) :
    s.FailsCleanly (s.settledCall "get" discoveryArgs) Snapshot.ofJson s.discover ∧
    s.FailsCleanly (s.settledCall "get" levelsArgs) Snapshot.ofJson s.refreshVerbosity ∧
    (∀ refreshToken,
      s.FailsCleanly (s.settledCall "session" (.object [("refresh-token", .bool refreshToken)]))
        SessionInfo.ofJson (s.sessionInfo refreshToken)) ∧
    (∀ tag mode e,
      let sent := s.traceSendings (.select tag mode)
      let s' := (s.selectTrace tag mode).2
      sent.map Sending.command = s.traces.plan tag mode ∧
      ((s.selectTrace tag mode).1 = .error e ↔ sent.findSome? Sending.failure? = some e) ∧
      ((s.selectTrace tag mode).1 = .error e →
        s'.knowledge = { s.knowledge with traces := s'.traces } ∧
        ∀ t, s'.traces.slot t =
          if t = tag then
            ⟨mode, (Sending.lastOutcome? tag (sent.filter Sending.isAccepted)).getD
              (s.traces.confirmedMode tag)⟩
          else s.traces.slot t)) ∧
    ∀ e,
      let s' := s.untraceAll.2
      (s.untraceAll.1 = .error e ↔ Sending.failure? ⟨s, .dropAll⟩ = some e) ∧
      (s.untraceAll.1 = .error e →
        s'.knowledge = { s.knowledge with traces := s'.traces } ∧
        ∀ t, s'.traces.slot t = ⟨.off, s.traces.confirmedMode t⟩) := by
  refine ⟨s.failsCleanly_discover, s.failsCleanly_refreshVerbosity, s.failsCleanly_sessionInfo,
    fun tag mode e => ?_, fun e => ?_⟩
  · intro sent s'
    have hplan : sent.map Sending.command = s.traces.plan tag mode :=
      map_command_sendings { s with traces := (s.traces.select tag mode).2 } _
    refine ⟨hplan, ?_, fun _ => ⟨s.knowledge_selectTrace tag mode, s.slot_selectTrace tag mode⟩⟩
    rw [fst_selectTrace, elim_eq_error_iff]
  · intro s'
    refine ⟨?_, fun he => ⟨s.knowledge_untraceAll, slot_untraceAll_of_error he⟩⟩
    rw [fst_untraceAll_eq, elim_eq_error_iff]

/-- A body with a part too many, and a drop that is accepted before an add that is refused. -/
theorem failure_keeps_knowledge_midway :
    let tag : TraceTag := ⟨some "calc", .request⟩
    let mode := (TraceMode.ofName? "all").getD .off
    let other := (TraceMode.ofName? "common").getD .off
    let apis : Json := .object [("calc", .null)]
    let surplus : Settlement := .ok (.success (some (.array [apis, .null, .null])))
    let refused : Settlement := .ok (.failure "denied" none)
    let s : Session (Line Script) :=
      { new (.new "mock" ⟨[surplus, refused]⟩) SessionConfig.default with
        traces := TraceSubscriptions.empty.setSlot tag ⟨mode, mode⟩ }
    (∃ e, s.discover.1 = .error e) ∧ s.discover.2.knowledge = s.knowledge ∧
      (∃ e, (s.selectTrace tag other).1 = .error e) ∧
      (s.selectTrace tag other).2.registry = s.registry ∧
      (s.selectTrace tag other).2.traces.slot tag = ⟨other, .off⟩ := by
  intro tag mode other apis surplus refused s
  obtain ⟨hdiscovery, -, -, hselection, -⟩ := failure_keeps_knowledge s
  have hdiscover : ∃ e, s.discover.1 = .error e := ⟨_, rfl⟩
  have hselect : ∃ e, (s.selectTrace tag other).1 = .error e := ⟨_, rfl⟩
  have haccepted : Sending.lastOutcome? tag
      ((s.traceSendings (.select tag other)).filter Sending.isAccepted) = some .off := by
    decide +kernel
  obtain ⟨e, he⟩ := hdiscover
  obtain ⟨e', he'⟩ := hselect
  obtain ⟨hknowledge, hslot⟩ := (hselection tag other e').2.2 he'
  refine ⟨⟨e, he⟩, hdiscovery.knowledge e he, ⟨e', he'⟩, ?_, ?_⟩
  · exact congrArg Knowledge.registry hknowledge
  · rw [hslot tag, if_pos rfl, haccepted]
    rfl

end Session

end LiveTrace
