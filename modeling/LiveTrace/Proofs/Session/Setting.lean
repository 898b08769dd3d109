import LiveTrace.Proofs.Session.Calls
import LiveTrace.Proofs.Session.Levels
import LiveTrace.Proofs.Session.Subscriptions
/-!
# LiveTrace.Proofs.Session.Setting

**Setting a level always reads the levels back, and reports the first failure.** Over any channel,
whatever becomes of its two calls: the second is made although the first failed, it alone decides
which levels are confirmed and on display, as if the levels had only been read, and nothing stays
pending (`Session.setVerbosity_reports_first_failure`).
-/

namespace LiveTrace

universe u v

/-! ### Failures of calls -/

namespace SettledCall

/-- Why a call did not succeed. -/
def failure? (e : SettledCall) : Option MonitorError :=
  match e.settlement with
  | .error error => some (.call (.channel error))
  | .ok reply => if reply.isSuccess then none else some (.call (.rejected reply))

/-- Why the body of a reply is no document. -/
def bodyFailure? (e : SettledCall) : Option MonitorError :=
  match e.settlement with
  | .error _ => none
  | .ok reply =>
    match Snapshot.ofJson reply.body with
    | .error mismatch => some (.response e.apiVerb mismatch.message)
    | .ok _ => none

end SettledCall

namespace Session

variable {τ : Type u} [Channel τ]

/-! ### Results of operations -/

/-- Of two failures the first counts. -/
theorem bind_elim_error {ε α : Type*} {x : Except ε α} {first second : Option ε}
    (h : (x.map fun _ => ()) = first.elim (.ok ()) .error) :
    (x.bind fun _ => second.elim (.ok ()) .error) = (first.or second).elim (.ok ()) .error := by
  cases first with
  | none =>
    cases x with
    | ok a => rfl
    | error e => cases h
  | some e =>
    cases x with
    | ok a => cases h
    | error e' => exact congrArg Except.error (Except.error.inj h)

/-- A call fails as it was settled. -/
theorem result_call (s : Session τ) (verb : String) (args : Json) :
    ((s.call verb args).1.map fun _ => ()) =
      (s.settledCall verb args).failure?.elim (.ok ()) .error := by
  rw [fst_call_eq_settledCall]
  unfold SettledCall.failure? Caller.outcome
  cases (s.settledCall verb args).settlement with
  | error e => rfl
  | ok reply =>
    dsimp only
    cases reply.isSuccess <;> rfl

/-- A query fails as its call was settled, or because of the body of the reply. -/
theorem result_querySnapshot (s : Session τ) (args : Json) :
    let read := s.settledCall "get" args
    ((s.querySnapshot args).1.map fun _ => ()) =
      (read.failure?.or read.bodyFailure?).elim (.ok ()) .error := by
  intro read
  rw [fst_querySnapshot]
  unfold SettledCall.failure? SettledCall.bodyFailure? Caller.outcome
  cases read.settlement with
  | error e => rfl
  | ok reply =>
    dsimp only
    cases reply.isSuccess with
    | false => rfl
    | true =>
      show ((Snapshot.ofJson reply.body).mapError _).map _ = _
      cases Snapshot.ofJson reply.body <;> rfl

/-- Reading the levels back fails as the query does. -/
theorem result_refreshVerbosity (s : Session τ) :
    let read := s.settledCall "get" levelsArgs
    (s.refreshVerbosity.1.map fun _ => ()) =
      (read.failure?.or read.bodyFailure?).elim (.ok ()) .error := by
  intro read
  rw [← result_querySnapshot]
  unfold refreshVerbosity
  rcases s.querySnapshot levelsArgs with ⟨e | snapshot, s'⟩ <;> rfl

/-! ### Setting a level -/

/-- **Setting a level always reads the levels back, and reports the first failure.** Take any
session over any channel, and any target and level. While no guard is held, setting the level makes
two calls, one that writes it and one that reads every level, however the first is settled. The
levels that are confirmed and on display afterwards are those of any session that had the same
levels before and only read them, by a call that was settled alike. Nothing is pending for the
target, and for the others what was. The result is the failure of the write, or else that of the
read, or else success. While a guard is held nothing is sent, the operation succeeds, the level is
put on display and nothing else changes. -/
theorem setVerbosity_reports_first_failure (s : Session τ) (target : VerbosityTarget)
    (level : VerbosityLevel) :
    let s' := (s.setVerbosity target level).2
    (¬ s.verbosity.isHeld = true → ∃ write read,
      s.made (.setVerbosity target level) = [write, read] ∧
        write.request = (s.options.monitorApi ++ "/set", VerbosityCommand.args ⟨target, level⟩) ∧
        read.request = (s.options.monitorApi ++ "/get", levelsArgs) ∧
        (∀ {σ : Type v} [Channel σ] (t : Session σ), t.verbosity = s.verbosity →
          t.made .refreshVerbosity = [read] →
            s'.verbosity.confirmed = t.refreshVerbosity.2.verbosity.confirmed ∧
              s'.verbosity.displayed = t.refreshVerbosity.2.verbosity.displayed) ∧
        (∀ other, s'.verbosity.pending.get? other =
          if other = target then none else s.verbosity.pending.get? other) ∧
        (s.setVerbosity target level).1 =
          (write.failure?.or (read.failure?.or read.bodyFailure?)).elim (.ok ()) .error) ∧
      (s.verbosity.isHeld = true → s.made (.setVerbosity target level) = [] ∧
        s.setVerbosity target level = (.ok (), { s with verbosity := { s.verbosity with
          displayed := s.verbosity.displayed.insert target level } })) := by
  intro s'
  refine ⟨fun hguard => ⟨_, _, s.made_setVerbosity hguard target level, ?_⟩, fun hheld => ?_⟩
  · have hset : (s.asking target level).apiVerb "set" = s.options.monitorApi ++ "/set" := by
      rw [apiVerb, String.append_assoc]
      rfl
    have hget : (s.asked target level).apiVerb "get" = s.options.monitorApi ++ "/get" := by
      rw [apiVerb_asked, apiVerb_get]
    have hverbosity := s.verbosity_setVerbosity hguard target level
    refine ⟨congrArg (·, _) hset, congrArg (·, _) hget, ?_, fun other => ?_, ?_⟩
    · intro σ _ t ht hmade
      rw [made_refreshVerbosity, List.singleton_inj] at hmade
      have hmonitor : t.options.monitorApi = s.options.monitorApi := by
        have hverb : t.apiVerb "get" = (s.asked target level).apiVerb "get" :=
          congrArg SettledCall.apiVerb hmade
        rwa [apiVerb_get, hget, String.append_left_inj] at hverb
      rw [verbosity_refreshVerbosity, ht, hmade, hmonitor, hverbosity]
      exact ⟨rfl, rfl⟩
    · rw [hverbosity]
      exact (Table.get?_erase ..).trans (by simp)
    · have hread := (s.asked target level).result_refreshVerbosity
      rw [fst_setVerbosity_of_not_isHeld _ hguard]
      show (Except.bind _ fun _ => (s.asked target level).refreshVerbosity.1.map fun _ => ()) = _
      rw [hread]
      exact bind_elim_error ((s.asking target level).result_call "set" _)
  · refine ⟨s.made_setVerbosity_of_isHeld hheld target level, ?_⟩
    rw [setVerbosity_of_isHeld _ hheld, VerbosityState.select, if_pos hheld]

/-- A write that is refused; the levels are read back all the same, as from the state before. -/
theorem setVerbosity_reports_first_failure_refused :
    let s := new (Daemon.calculator.fail "monitor/set").line SessionConfig.default
    let s' := (s.setVerbosity .all .debug).2
    ¬ s.verbosity.isHeld = true ∧ (s.made (.setVerbosity .all .debug)).length = 2 ∧
      (s.setVerbosity .all .debug).1.isOk = false ∧
      s'.verbosity.displayed = s.refreshVerbosity.2.verbosity.displayed ∧
      s'.verbosity.pending.get? .all = none := by
  intro s s'
  have hguard : ¬ s.verbosity.isHeld = true := by decide
  let args := VerbosityCommand.args ⟨.all, .debug⟩
  have hmade : s.made (.setVerbosity .all .debug) = [(s.asking .all .debug).settledCall "set" args,
      (s.asked .all .debug).settledCall "get" levelsArgs] := s.made_setVerbosity hguard ..
  -- the daemon refuses the write and stays as it is
  have hopen : s.channel.closed = false := rfl
  have hrefused : s.channel.peer.handle (s.apiVerb "set") args =
      (Daemon.refuse "injected failure", s.channel.peer) := Daemon.handle_failing _ (by decide) _
  have hwritten : Channel.call s.channel (s.apiVerb "set") args =
      (.ok (Daemon.refuse "injected failure"), { s.channel with
        calls := s.channel.calls ++ [(s.apiVerb "set", args)] }) := by
    rw [Daemon.call_of_open hopen, hrefused]
  have hasked : (s.asked .all .debug).channel = { s.channel with
      calls := s.channel.calls ++ [(s.apiVerb "set", args)] } :=
    ((s.asking .all .debug).channel_call "set" args).trans (congrArg Prod.snd hwritten)
  have hrefresh :
      s.made .refreshVerbosity = [(s.asked .all .debug).settledCall "get" levelsArgs] := by
    rw [made_refreshVerbosity, settledCall, settledCall, apiVerb_asked, hasked,
      Daemon.call_of_open hopen, Daemon.call_of_open (by exact hopen)]
  obtain ⟨write, read, hcalls, -, -, hread, hpending, hresult⟩ :=
    (setVerbosity_reports_first_failure s .all .debug).1 hguard
  obtain ⟨rfl, rfl⟩ : write = (s.asking .all .debug).settledCall "set" args ∧
      read = (s.asked .all .debug).settledCall "get" levelsArgs := by
    simpa using hcalls.symm.trans hmade
  have hfailure : ((s.asking .all .debug).settledCall "set" args).failure? =
      some (.call (.rejected (Daemon.refuse "injected failure"))) := by
    have hsettled : ((s.asking .all .debug).settledCall "set" args).settlement =
        .ok (Daemon.refuse "injected failure") := congrArg Prod.fst hwritten
    rw [SettledCall.failure?, hsettled]
    rfl
  refine ⟨hguard, by rw [hmade]; rfl, ?_, (hread s rfl hrefresh).2, hpending .all⟩
  rw [hresult, hfailure]
  rfl

end Session

end LiveTrace
