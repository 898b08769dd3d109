import Mathlib.Data.List.Induction
import LiveTrace.Daemon
import LiveTrace.Proofs.Session.Transcript
import LiveTrace.Proofs.Verbosity.Reported
/-!
# LiveTrace.Proofs.Session.Levels

**Displayed levels come from the daemon only.** As long as no level is set under a guard that
someone else holds, the levels on display are those that accepted replies to the verb `get`
reported last (`Session.levels_reported_last`), whatever else the channel answers or fails to
answer.

A session heeds a settled call of that verb in one way only (`VerbosityState.heed`), be it for
discovery, for reading the levels back, or after setting one. The invariant `Reflects` compares the
state with a record of calls; one lemma says that heeding a call keeps it, and another that every
other call does.
-/

namespace LiveTrace

universe u v

/-! ### What a record of calls reports -/

/-- The document that a call gives: the body of an accepted reply to the verb `get`. -/
def SettledCall.snapshot? (monitorApi : String) (e : SettledCall) : Option Snapshot :=
  if e.apiVerb = monitorApi ++ "/get" then
    match Caller.outcome e.settlement with
    | .ok reply => (Snapshot.ofJson reply.body).toOption
    | .error _ => none
  else none

/-- The level of a target that was reported last. -/
def latestLevel? (monitorApi : String) (target : VerbosityTarget) (record : List SettledCall) :
    Option VerbosityLevel :=
  record.reverse.findSome? fun e => (e.snapshot? monitorApi).bind (Snapshot.level? target)

theorem latestLevel?_concat (monitorApi : String) (target : VerbosityTarget)
    (record : List SettledCall) (e : SettledCall) :
    latestLevel? monitorApi target (record ++ [e]) =
      ((e.snapshot? monitorApi).bind (Snapshot.level? target)).or
        (latestLevel? monitorApi target record) := by
  simp only [latestLevel?, List.reverse_append, List.reverse_singleton, List.singleton_append,
    List.findSome?_cons]
  cases (e.snapshot? monitorApi).bind (Snapshot.level? target) <;> rfl

namespace VerbosityState

/-- Take over what a call reports. -/
def heed (v : VerbosityState) (monitorApi : String) (e : SettledCall) : VerbosityState :=
  match e.snapshot? monitorApi with
  | some snapshot => (v.applyReported monitorApi (snapshot.verbosity.getD [])).2
  | none => v

theorem heed_of_none {monitorApi : String} {e : SettledCall} (h : e.snapshot? monitorApi = none)
    (v : VerbosityState) : v.heed monitorApi e = v := by rw [heed, h]

/-- Heeding a call that gives a document puts the levels that count into both tables. -/
theorem heed_of_some {monitorApi : String} {e : SettledCall} {snapshot : Snapshot}
    (h : e.snapshot? monitorApi = some snapshot) (v : VerbosityState) :
    v.heed monitorApi e =
      { v with
        confirmed := putAll v.confirmed (reported monitorApi (snapshot.verbosity.getD []))
        displayed := putAll v.displayed (reported monitorApi (snapshot.verbosity.getD [])) } := by
  rw [heed, h, ← snd_applyReported]

/-- The levels are those that a record of calls reports last, nothing is pending, and so many guards
are held. -/
structure Reflects (v : VerbosityState) (monitorApi : String) (record : List SettledCall)
    (guards : Nat) : Prop where
  displayed : v.displayed = v.confirmed
  confirmed : ∀ target, v.confirmed.get? target =
    if target.wireName = monitorApi then none else latestLevel? monitorApi target record
  pending : v.pending = .empty
  guards : v.guards = guards

theorem reflects_empty (monitorApi : String) : empty.Reflects monitorApi [] 0 where
  displayed := rfl
  confirmed _ := (ite_self none).symm
  pending := rfl
  guards := rfl

/-- **Heeding a call keeps step with the record.** -/
theorem Reflects.heed {v : VerbosityState} {monitorApi : String} {record : List SettledCall}
    {guards : Nat} (h : v.Reflects monitorApi record guards) (e : SettledCall) :
    (v.heed monitorApi e).Reflects monitorApi (record ++ [e]) guards := by
  cases hsnapshot : e.snapshot? monitorApi with
  | none =>
    rw [heed_of_none hsnapshot]
    refine ⟨h.displayed, fun target => ?_, h.pending, h.guards⟩
    rw [h.confirmed, latestLevel?_concat, hsnapshot]
    rfl
  | some snapshot =>
    rw [heed_of_some hsnapshot]
    refine ⟨by rw [h.displayed], fun target => ?_, h.pending, h.guards⟩
    rw [get?_putAll_reported, h.confirmed, latestLevel?_concat, hsnapshot]
    split <;> rfl

/-- Other calls report nothing. -/
theorem Reflects.skip {v : VerbosityState} {monitorApi : String} {record : List SettledCall}
    {guards : Nat} (h : v.Reflects monitorApi record guards) {l : List SettledCall}
    (hl : ∀ e ∈ l, e.snapshot? monitorApi = none) :
    v.Reflects monitorApi (record ++ l) guards := by
  induction l generalizing record with
  | nil => rwa [List.append_nil]
  | cons e l ih =>
    have hstep := h.heed e
    rw [heed_of_none (hl e List.mem_cons_self)] at hstep
    rw [List.append_cons]
    exact ih hstep fun e he => hl e (List.mem_cons_of_mem _ he)

/-- Pending levels play no part in what is heeded. -/
theorem heed_pending (v : VerbosityState) (pending : Levels) (monitorApi : String)
    (e : SettledCall) :
    heed { v with pending } monitorApi e = { v.heed monitorApi e with pending } := by
  cases hsnapshot : e.snapshot? monitorApi with
  | none => rw [heed_of_none hsnapshot, heed_of_none hsnapshot]
  | some snapshot => rw [heed_of_some hsnapshot, heed_of_some hsnapshot]

end VerbosityState

namespace Session

/-! ### What the operations make of their calls -/

section Heed

variable {τ : Type u}

theorem apiVerb_get (s : Session τ) : s.apiVerb "get" = s.options.monitorApi ++ "/get" := by
  rw [apiVerb, String.append_assoc]
  rfl

/-- Other verbs give no document. -/
theorem snapshot?_of_verb (s : Session τ) {e : SettledCall} {verb : String}
    (he : e.apiVerb = s.apiVerb verb) (hverb : verb ≠ "get") :
    e.snapshot? s.options.monitorApi = none := by
  refine if_neg fun hget => hverb ?_
  rw [he, ← apiVerb_get] at hget
  exact (String.append_right_inj _).1 hget

theorem snd_applyLevels (s : Session τ) (levels : Option (List (String × Json))) :
    (s.applyLevels levels).2 =
      { s with
        verbosity := (s.verbosity.applyReported s.options.monitorApi (levels.getD [])).2 } := by
  cases levels <;> rfl

variable [Channel τ]

/-- What a query gives is told by its call. -/
theorem fst_querySnapshot (s : Session τ) (args : Json) :
    let e := s.settledCall "get" args
    (s.querySnapshot args).1 = ((Caller.outcome e.settlement).mapError .call).bind fun reply =>
      (Snapshot.ofJson reply.body).mapError fun mismatch =>
        .response e.apiVerb mismatch.message := by
  intro e
  have hverb : (s.call "get" args).2.apiVerb "get" = e.apiVerb := by
    rw [apiVerb, options_call]
    rfl
  show (s.call "get" args).1.bind ((s.call "get" args).2.readBody "get" Snapshot.ofJson) = _
  unfold readBody
  rw [fst_call_eq_settledCall, hverb]

/-- A query gives the document of its call. -/
theorem querySnapshot_toOption (s : Session τ) (args : Json) :
    (s.querySnapshot args).1.toOption =
      (s.settledCall "get" args).snapshot? s.options.monitorApi := by
  unfold SettledCall.snapshot?
  rw [if_pos (show (s.settledCall "get" args).apiVerb = _ from s.apiVerb_get),
    fst_querySnapshot]
  cases Caller.outcome (s.settledCall "get" args).settlement with
  | error e => rfl
  | ok reply =>
    show Except.toOption ((Snapshot.ofJson reply.body).mapError _) =
      (Snapshot.ofJson reply.body).toOption
    cases Snapshot.ofJson reply.body <;> rfl

/-- Reading the levels back heeds the call. -/
theorem verbosity_refreshVerbosity (s : Session τ) :
    s.refreshVerbosity.2.verbosity =
      s.verbosity.heed s.options.monitorApi (s.settledCall "get" levelsArgs) := by
  have hverbosity : (s.querySnapshot levelsArgs).2.verbosity = s.verbosity := s.verbosity_call ..
  have hoptions : (s.querySnapshot levelsArgs).2.options = s.options := s.options_call ..
  unfold refreshVerbosity VerbosityState.heed
  rw [← querySnapshot_toOption, ← hverbosity, ← hoptions]
  rcases s.querySnapshot levelsArgs with ⟨e | snapshot, s'⟩
  · rfl
  · show (s'.applyLevels snapshot.verbosity).2.verbosity = _
    rw [snd_applyLevels]
    rfl

/-- Discovery heeds the call. -/
theorem verbosity_discover (s : Session τ) :
    s.discover.2.verbosity =
      s.verbosity.heed s.options.monitorApi (s.settledCall "get" discoveryArgs) := by
  have hverbosity : (s.querySnapshot discoveryArgs).2.verbosity = s.verbosity :=
    s.verbosity_call ..
  have hoptions : (s.querySnapshot discoveryArgs).2.options = s.options := s.options_call ..
  unfold discover VerbosityState.heed
  rw [← querySnapshot_toOption, ← hverbosity, ← hoptions]
  rcases s.querySnapshot discoveryArgs with ⟨e | snapshot, s'⟩
  · rfl
  · show ((s'.mergeApis snapshot.apis).2.applyLevels snapshot.verbosity).2.verbosity = _
    rw [snd_applyLevels]
    cases snapshot.apis <;> rfl

/-- Setting a level heeds the second of its calls, whatever became of the first, and nothing is
pending for the target any more. -/
theorem verbosity_setVerbosity (s : Session τ) (hguard : ¬ s.verbosity.isHeld = true)
    (target : VerbosityTarget) (level : VerbosityLevel) :
    (s.setVerbosity target level).2.verbosity =
      { s.verbosity.heed s.options.monitorApi ((s.asked target level).settledCall "get" levelsArgs)
          with
        pending := s.verbosity.pending.erase target } := by
  have hpending : (s.asked target level).verbosity =
      { s.verbosity with pending := s.verbosity.pending.insert target level } :=
    (s.asking target level).verbosity_call ..
  rw [setVerbosity_of_not_isHeld _ hguard]
  show ((s.asked target level).refreshVerbosity.2.verbosity.settle target).2 = _
  rw [verbosity_refreshVerbosity, options_asked, hpending, VerbosityState.heed_pending,
    VerbosityState.settle, Table.erase_insert_self]

end Heed

/-! ### Runs -/

section Run

variable {τ : Type u} {δ : Type v}

/-- Guards that are held after a step, when so many were before. -/
def heldAfter (n : Nat) : Step δ → Nat
  | .act .hold => n + 1
  | .act .release => n - 1
  | _ => n

/-- Guards that a run has taken and not let go. -/
def held (steps : List (Step δ)) : Nat := steps.foldl heldAfter 0

/-- No level is set while a guard is held. -/
def Unguarded (steps : List (Step δ)) : Prop :=
  ∀ before target level after, steps = before ++ .act (.setVerbosity target level) :: after →
    held before = 0

theorem held_concat (steps : List (Step δ)) (e : Step δ) :
    held (steps ++ [e]) = heldAfter (held steps) e := by
  rw [held, List.foldl_append]
  rfl

theorem unguarded_nil : Unguarded ([] : List (Step δ)) := by
  intro before target level after heq
  cases before <;> cases heq

theorem Unguarded.concat {steps : List (Step δ)} (h : Unguarded steps) {e : Step δ}
    (he : ∀ target level, e = .act (.setVerbosity target level) → held steps = 0) :
    Unguarded (steps ++ [e]) := by
  intro before target level after heq
  -- the level is set by the last step or by one before it
  rcases List.eq_nil_or_concat after with rfl | ⟨rest, last, rfl⟩
  · obtain ⟨rfl, hlast⟩ := List.append_inj' heq rfl
    exact he target level (List.singleton_inj.1 hlast)
  · rw [List.concat_eq_append, ← List.cons_append, ← List.append_assoc] at heq
    exact h before target level rest (List.append_inj' heq rfl).1

theorem Unguarded.of_append {before after : List (Step δ)} (h : Unguarded (before ++ after)) :
    Unguarded before := by
  intro first target level rest heq
  refine h first target level (rest ++ after) ?_
  rw [heq, List.append_assoc, List.cons_append]

theorem Unguarded.last {steps : List (Step δ)} {target : VerbosityTarget} {level : VerbosityLevel}
    (h : Unguarded (steps ++ [.act (.setVerbosity target level)])) : held steps = 0 :=
  h steps target level [] rfl

/-- The levels of a session are those that its record reports last. -/
structure Faithful (s : Session (Recorded τ)) (monitorApi : String) (guards : Nat) : Prop where
  named : s.options.monitorApi = monitorApi
  reflects : s.verbosity.Reflects monitorApi s.record guards

/-- What does not touch the levels and calls other verbs only keeps step with the record. -/
theorem Faithful.skip {s t : Session (Recorded τ)} {monitorApi : String} {guards : Nat}
    (h : s.Faithful monitorApi guards) (hoptions : t.options.monitorApi = s.options.monitorApi)
    (hverbosity : t.verbosity = s.verbosity) {sent : List SettledCall}
    (hrecord : t.record = s.record ++ sent) {verb : String} (hverb : verb ≠ "get")
    (hsent : ∀ e ∈ sent, e.apiVerb = s.apiVerb verb) : t.Faithful monitorApi guards := by
  refine ⟨hoptions.trans h.named, ?_⟩
  rw [hverbosity, hrecord]
  refine h.reflects.skip fun e he => ?_
  rw [← h.named]
  exact s.snapshot?_of_verb (hsent e he) hverb

variable [Channel τ]

/-- **Every action keeps step with the record**, if no level is set under a guard. -/
theorem Faithful.act {s : Session (Recorded τ)} {monitorApi : String} {guards : Nat}
    (h : s.Faithful monitorApi guards) (a : Action)
    (hguards : ∀ target level, a = .setVerbosity target level → guards = 0) :
    (s.perform a).2.Faithful monitorApi (heldAfter guards (.act a : Step δ)) := by
  have hnamed := (s.monitorApi_perform a).trans h.named
  cases a with
  | discover =>
    refine ⟨hnamed, ?_⟩
    show s.discover.2.verbosity.Reflects monitorApi s.discover.2.record guards
    rw [verbosity_discover, record_discover, h.named]
    exact h.reflects.heed _
  | refreshVerbosity =>
    refine ⟨hnamed, ?_⟩
    show s.refreshVerbosity.2.verbosity.Reflects monitorApi s.refreshVerbosity.2.record guards
    rw [verbosity_refreshVerbosity, record_refreshVerbosity, h.named]
    exact h.reflects.heed _
  | setVerbosity target level =>
    have hguard : ¬ s.verbosity.isHeld = true := by
      simp [VerbosityState.isHeld, h.reflects.guards, hguards target level rfl]
    refine ⟨hnamed, ?_⟩
    show (s.setVerbosity target level).2.verbosity.Reflects monitorApi
      (s.setVerbosity target level).2.record guards
    rw [s.verbosity_setVerbosity hguard, h.named, s.record_setVerbosity hguard, List.append_cons,
      h.reflects.pending]
    -- the first of the two calls tells nothing about levels
    have hwritten : ∀ e ∈ [(s.asking target level).settledCall "set"
        (VerbosityCommand.args ⟨target, level⟩)], e.snapshot? monitorApi = none := by
      intro e he
      rw [List.mem_singleton.1 he, ← h.named]
      exact snapshot?_of_verb (s.asking target level) rfl (by decide)
    have hread := (h.reflects.skip hwritten).heed
      ((s.asked target level).settledCall "get" levelsArgs)
    exact ⟨hread.displayed, hread.confirmed, rfl, hread.guards⟩
  | trace a =>
    refine h.skip (s.monitorApi_perform (.trace a)) (s.verbosity_trace a) (s.record_trace a)
      (show "trace" ≠ "get" by decide) fun e he => ?_
    have hrequest := List.mem_map_of_mem (f := SettledCall.request) he
    rw [request_settledCalls] at hrequest
    obtain ⟨c, -, hc⟩ := List.mem_map.1 hrequest
    exact (congrArg Prod.fst hc).symm
  | sessionInfo refreshToken =>
    refine h.skip (s.monitorApi_perform (.sessionInfo refreshToken)) (s.verbosity_call ..)
      (s.record_sessionInfo refreshToken) (show "session" ≠ "get" by decide) fun e he => ?_
    rw [List.mem_singleton.1 he]
    rfl
  | close =>
    have hverbosity : s.close.2.verbosity = s.verbosity := by
      rw [snd_close]
      split
      · rfl
      · exact s.verbosity_untraceAll
    refine h.skip (s.monitorApi_perform .close) hverbosity s.record_close
      (show "trace" ≠ "get" by decide) fun e he => ?_
    split at he
    · contradiction
    · rw [List.mem_singleton.1 he]
      rfl
  | nextEvent =>
    refine ⟨hnamed, ?_⟩
    show s.nextEvent.2.verbosity.Reflects monitorApi s.nextEvent.2.record guards
    rw [verbosity_nextEvent, record_nextEvent]
    exact h.reflects
  | handlePush push =>
    refine ⟨hnamed, ?_⟩
    show (s.handlePush push).2.verbosity.Reflects monitorApi
      (s.handlePush push).2.channel.record guards
    rw [verbosity_handlePush, channel_handlePush]
    exact h.reflects
  | hold => exact ⟨h.named, h.reflects.displayed, h.reflects.confirmed, h.reflects.pending,
      congrArg (· + 1) h.reflects.guards⟩
  | release => exact ⟨h.named, h.reflects.displayed, h.reflects.confirmed, h.reflects.pending,
      congrArg (· - 1) h.reflects.guards⟩
  | clearTraceEvents | setShowMonitorEvents | setLogEnabled | clearLog =>
    exact ⟨h.named, h.reflects⟩

variable [Surroundings δ τ]

/-- What happens to the channel keeps step with the record. -/
theorem Faithful.disturb {s : Session (Recorded τ)} {monitorApi : String} {guards : Nat}
    (h : s.Faithful monitorApi guards) (d : δ) :
    (s.step (.disturb d)).Faithful monitorApi (heldAfter guards (.disturb d)) :=
  ⟨h.named, h.reflects⟩

/-- Every run in which no level is set under a guard keeps step with the record. -/
theorem faithful_run (channel : τ) (config : SessionConfig) {steps : List (Step δ)}
    (h : Unguarded steps) :
    ((new channel config).recorded.run steps).Faithful config.monitorApi (held steps) := by
  -- from the end, because the guards that are held at a step come from the steps before it
  induction steps using List.reverseRecOn with
  | nil => exact ⟨rfl, VerbosityState.reflects_empty _⟩
  | append_singleton steps e ih =>
    have hsteps := ih h.of_append
    rw [run_concat, held_concat]
    cases e with
    | act a =>
      refine hsteps.act a fun target level ha => ?_
      subst ha
      exact h.last
    | disturb d => exact hsteps.disturb d

/-- **Levels come from the daemon only.** Take any run over any channel in which no level is set
while someone else holds a guard. Afterwards the levels on display are the confirmed ones; each is
the one that an accepted reply to the verb `get` reported last, and a target without such a report
has none; nothing is pending; only the guards of others are held; and the monitoring API has no
level. The beginning of such a run is one too, so this holds after every operation. -/
theorem levels_reported_last (channel : τ) (config : SessionConfig) (steps : List (Step δ))
    (h : Unguarded steps) :
    let s := (new channel config).run steps
    let record := (new channel config).transcript steps
    s.verbosity.displayed = s.verbosity.confirmed ∧
      (∀ target, target.wireName ≠ config.monitorApi →
        s.verbosity.confirmed.get? target = latestLevel? config.monitorApi target record) ∧
      s.verbosity.pending = .empty ∧
      s.verbosity.guards = held steps ∧
      ∀ target, target.wireName = config.monitorApi →
        s.verbosity.confirmed.get? target = none := by
  intro s record
  have hrun : s.verbosity.Reflects config.monitorApi record (held steps) := by
    have hsame : ((new channel config).recorded.run steps).verbosity = s.verbosity :=
      congrArg Session.verbosity ((new channel config).erase_run_recorded steps)
    rw [← hsame]
    exact (faithful_run channel config h).reflects
  refine ⟨hrun.displayed, fun target ht => ?_, hrun.pending, hrun.guards, fun target ht => ?_⟩
  · rw [hrun.confirmed, if_neg ht]
  · rw [hrun.confirmed, if_pos ht]

/-- A guard that is let go again before a level is set. -/
theorem levels_reported_last_calculator :
    let steps : List (Step Empty) :=
      [.act .hold, .act .release, .act (.setVerbosity (.api "calc") .debug)]
    let s := (new Daemon.calculator.line SessionConfig.default).run steps
    Unguarded steps ∧ s.verbosity.displayed = s.verbosity.confirmed ∧
      s.verbosity.guards = held steps ∧
      s.verbosity.confirmed.get? (.api "calc") = some .debug := by
  intro steps s
  have hsteps : Unguarded steps :=
    ((unguarded_nil.concat (by simp)).concat (by simp)).concat fun _ _ _ => rfl
  obtain ⟨hdisplayed, -, -, hguards, -⟩ :=
    levels_reported_last Daemon.calculator.line SessionConfig.default steps hsteps
  refine ⟨hsteps, hdisplayed, hguards, ?_⟩
  decide +kernel

end Run

end Session

end LiveTrace
