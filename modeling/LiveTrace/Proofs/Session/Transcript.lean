import LiveTrace.Proofs.Session.Frame
/-!
# LiveTrace.Proofs.Session.Transcript

**What a session and its daemon say to each other.** A session keeps no record of its calls, so a
statement about every call of a run, or about the most recent reply of some kind, needs a record
from outside: a channel that works like another one and notes each call with its settlement
(`Recorded`). A session sees of a channel what `Channel` shows, so the record changes nothing
(`Session.erase_run`), and the transcript of a run is the record of the same run over a recorded
channel (`Session.transcript`).
-/

namespace LiveTrace

universe u v

/-- A call and how it was settled. -/
structure SettledCall where
  apiVerb : String
  args : Json
  settlement : Settlement
  deriving Inhabited

/-- What was asked. -/
def SettledCall.request (e : SettledCall) : String × Json := (e.apiVerb, e.args)

/-- Whether a call was accepted. -/
def SettledCall.isAccepted (e : SettledCall) : Bool := (Caller.outcome e.settlement).isOk

/-- A channel with a record of what went over it, oldest first. -/
structure Recorded (τ : Type u) where
  channel : τ
  record : List SettledCall

namespace Recorded

variable {τ : Type u} {δ : Type v}

/-- Call a verb, and record it. -/
def call [Channel τ] (c : Recorded τ) (apiVerb : String) (args : Json) :
    Settlement × Recorded τ :=
  let (settlement, channel) := Channel.call c.channel apiVerb args
  (settlement, ⟨channel, c.record ++ [⟨apiVerb, args, settlement⟩]⟩)

/-- Take the next pushed event. -/
def receive [Channel τ] (c : Recorded τ) : Arrival × Recorded τ :=
  let (arrival, channel) := Channel.receive c.channel
  (arrival, { c with channel })

instance [Channel τ] : Channel (Recorded τ) where
  url c := Channel.url c.channel
  call := call
  close c := { c with channel := Channel.close c.channel }
  receive := receive
  queued c := Channel.queued c.channel
  release c := { c with channel := Channel.release c.channel }

instance [Surroundings δ τ] : Surroundings δ (Recorded τ) where
  disturb c d := { c with channel := Surroundings.disturb c.channel d }

end Recorded

namespace Session

variable {τ : Type u}

/-- The session with a record that begins here. -/
def recorded (s : Session τ) : Session (Recorded τ) :=
  ⟨⟨⟨s.caller.channel, []⟩, s.caller.feed⟩, s.registry, s.verbosity, s.traces, s.kept, s.options,
    s.state⟩

/-- The session without its record. -/
def erase (s : Session (Recorded τ)) : Session τ :=
  ⟨⟨s.caller.channel.channel, s.caller.feed⟩, s.registry, s.verbosity, s.traces, s.kept, s.options,
    s.state⟩

/-- What was recorded. -/
def record (s : Session (Recorded τ)) : List SettledCall := s.caller.channel.record

theorem erase_recorded (s : Session τ) : s.recorded.erase = s := rfl

/-! ### The record changes nothing -/

theorem erase_log (s : Session (Recorded τ)) (e : LogEntry) :
    (s.log e).erase = s.erase.log e := rfl

theorem erase_note (s : Session (Recorded τ)) (c : Classification) :
    (s.note c).erase = s.erase.note c := by cases c <;> rfl

theorem erase_handlePush (s : Session (Recorded τ)) (p : PushEvent) :
    s.erase.handlePush p = (s.handlePush p).map id erase := by
  unfold handlePush
  rw [Prod.map, erase_note, erase_log]
  rfl

theorem erase_applyLevels (s : Session (Recorded τ)) (levels : Option (List (String × Json))) :
    s.erase.applyLevels levels = (s.applyLevels levels).map id erase := by cases levels <;> rfl

theorem erase_mergeApis (s : Session (Recorded τ)) (apis : Option (List (String × ApiDocument))) :
    s.erase.mergeApis apis = (s.mergeApis apis).map id erase := by cases apis <;> rfl

variable [Channel τ]

theorem erase_markClosed (s : Session (Recorded τ)) : s.markClosed.erase = s.erase.markClosed := by
  unfold markClosed
  by_cases h : s.state = .closed
  · rw [if_pos h, if_pos (show s.erase.state = .closed from h)]
  · rw [if_neg h, if_neg (show ¬ s.erase.state = .closed from h)]
    rfl

theorem erase_call (s : Session (Recorded τ)) (verb : String) (args : Json) :
    s.erase.call verb args = (s.call verb args).map id erase := by
  -- the log is written from what is called and how it is settled, and both are the same
  have hcaller : s.erase.caller.call (s.apiVerb verb) args =
      ((s.caller.call (s.apiVerb verb) args).1,
        ⟨(s.caller.call (s.apiVerb verb) args).2.channel.channel,
          (s.caller.call (s.apiVerb verb) args).2.feed⟩) := rfl
  unfold call
  rw [show s.erase.apiVerb verb = s.apiVerb verb from rfl, hcaller]
  rcases s.caller.call (s.apiVerb verb) args with ⟨failure | reply, caller⟩
  · by_cases h : failure.isClosed = true
    · simp only [h, if_true, Prod.map, id, erase_markClosed]
      rfl
    · simp only [h]
      rfl
  · rfl

theorem erase_querySnapshot (s : Session (Recorded τ)) (args : Json) :
    s.erase.querySnapshot args = (s.querySnapshot args).map id erase := by
  unfold querySnapshot
  rw [erase_call]
  rfl

theorem erase_discover (s : Session (Recorded τ)) :
    s.erase.discover = s.discover.map id erase := by
  unfold discover
  rw [erase_querySnapshot]
  rcases s.querySnapshot discoveryArgs with ⟨e | snapshot, s'⟩
  · rfl
  · simp only [Prod.map, id, erase_mergeApis, erase_applyLevels]

theorem erase_refreshVerbosity (s : Session (Recorded τ)) :
    s.erase.refreshVerbosity = s.refreshVerbosity.map id erase := by
  unfold refreshVerbosity
  rw [erase_querySnapshot]
  rcases s.querySnapshot levelsArgs with ⟨e | snapshot, s'⟩
  · rfl
  · simp only [Prod.map, id, erase_applyLevels]

theorem erase_setVerbosity (s : Session (Recorded τ)) (target : VerbosityTarget)
    (level : VerbosityLevel) :
    s.erase.setVerbosity target level = (s.setVerbosity target level).map id erase := by
  have hselect : s.erase.verbosity.select target level = s.verbosity.select target level := rfl
  unfold setVerbosity
  rw [hselect]
  rcases s.verbosity.select target level with ⟨_ | command, verbosity⟩
  · rfl
  · have hasking : { s.erase with verbosity } = erase { s with verbosity } := rfl
    simp only [hasking, erase_call, Prod.map, id, erase_refreshVerbosity]
    rcases call { s with verbosity } "set" command.args with ⟨e | r, s'⟩ <;> rfl

theorem erase_sendCommand (s : Session (Recorded τ)) (c : TraceCommand) :
    s.erase.sendCommand c = (s.sendCommand c).map id erase := by
  unfold sendCommand
  rw [erase_call]
  rcases s.call "trace" c.args with ⟨e | r, s'⟩ <;> rfl

theorem erase_sendCommands (s : Session (Recorded τ)) (l : List TraceCommand) :
    s.erase.sendCommands l = (s.sendCommands l).map id erase := by
  induction l generalizing s with
  | nil => rfl
  | cons c rest ih =>
    rw [sendCommands_cons, sendCommands_cons, erase_sendCommand]
    simp only [Prod.map, id, ih]

theorem erase_untraceAll (s : Session (Recorded τ)) :
    s.erase.untraceAll = s.untraceAll.map id erase := by
  unfold untraceAll
  rw [erase_call]
  rcases s.call "trace" TraceCommand.dropAll.args with ⟨e | r, s'⟩ <;> rfl

theorem erase_trace (s : Session (Recorded τ)) (a : TraceAction) :
    s.erase.trace a = (s.trace a).map id erase := by
  cases a with
  | select tag mode =>
    unfold trace selectTrace
    exact erase_sendCommands { s with traces := (s.traces.select tag mode).2 } _
  | untraceAll => exact s.erase_untraceAll

theorem erase_sessionInfo (s : Session (Recorded τ)) (refreshToken : Bool) :
    s.erase.sessionInfo refreshToken = (s.sessionInfo refreshToken).map id erase := by
  unfold sessionInfo
  rw [erase_call]
  rfl

theorem erase_nextEvent (s : Session (Recorded τ)) :
    s.erase.nextEvent = s.nextEvent.map id erase := by
  -- what arrives does not depend on the record, so both sides see the same cases
  have hreceive : Channel.receive s.channel =
      ((Channel.receive s.erase.channel).1,
        { s.channel with channel := (Channel.receive s.erase.channel).2 }) := rfl
  unfold nextEvent
  rw [hreceive]
  rcases Channel.receive s.erase.channel with ⟨push | _ | _, c⟩
  · have hpush := erase_handlePush (s.mapChannel fun _ => { s.channel with channel := c }) push
    exact congrArg (fun p => (NextEvent.classified p.1, p.2)) hpush
  · simp only [Prod.map, id, erase_markClosed]
    rfl
  · rfl

theorem erase_close (s : Session (Recorded τ)) : s.erase.close = s.close.map id erase := by
  unfold close
  by_cases h : s.state = .closed
  · rw [if_pos h, if_pos (show s.erase.state = .closed from h)]
    rfl
  · rw [if_neg h, if_neg (show ¬ s.erase.state = .closed from h), erase_untraceAll]
    rfl

/-- An action does the same and gives the same with and without a record. -/
theorem erase_perform (s : Session (Recorded τ)) (a : Action) :
    s.erase.perform a = (s.perform a).map id erase := by
  cases a with
  | discover => simp only [perform, erase_discover, Prod.map, id]
  | setVerbosity target level => simp only [perform, erase_setVerbosity, Prod.map, id]
  | refreshVerbosity => simp only [perform, erase_refreshVerbosity, Prod.map, id]
  | trace a => simp only [perform, erase_trace, Prod.map, id]
  | sessionInfo refreshToken => simp only [perform, erase_sessionInfo, Prod.map, id]
  | nextEvent => simp only [perform, erase_nextEvent, Prod.map, id]
  | handlePush push => simp only [perform, erase_handlePush, Prod.map, id]
  | close => simp only [perform, erase_close, Prod.map, id]
  | clearTraceEvents | setShowMonitorEvents | setLogEnabled | clearLog | hold | release => rfl

section Run

variable {δ : Type v} [Surroundings δ τ]

theorem erase_step (s : Session (Recorded τ)) (e : Step δ) : (s.step e).erase = s.erase.step e := by
  cases e with
  | act a =>
    show _ = (s.erase.perform a).2
    rw [erase_perform]
    rfl
  | disturb d => rfl

/-- **A record changes nothing**: without it, a run over a recorded channel is the run. -/
theorem erase_run (s : Session (Recorded τ)) (steps : List (Step δ)) :
    (s.run steps).erase = s.erase.run steps := by
  induction steps generalizing s with
  | nil => rfl
  | cons e steps ih =>
    show ((s.step e).run steps).erase = (s.erase.step e).run steps
    rw [ih, erase_step]

theorem erase_run_recorded (s : Session τ) (steps : List (Step δ)) :
    (s.recorded.run steps).erase = s.run steps := by
  rw [erase_run, erase_recorded]

/-- The calls of a run, oldest first, and how they were settled. -/
def transcript (s : Session τ) (steps : List (Step δ)) : List SettledCall :=
  (s.recorded.run steps).record

end Run

/-! ### What each operation records -/

/-- A call and how the channel settles it. -/
def settledCall (s : Session τ) (verb : String) (args : Json) : SettledCall :=
  ⟨s.apiVerb verb, args, (Channel.call s.channel (s.apiVerb verb) args).1⟩

theorem fst_call_eq_settledCall (s : Session τ) (verb : String) (args : Json) :
    (s.call verb args).1 = (Caller.outcome (s.settledCall verb args).settlement).mapError .call :=
  s.fst_call verb args

theorem record_call (s : Session (Recorded τ)) (verb : String) (args : Json) :
    (s.call verb args).2.record = s.record ++ [s.settledCall verb args] :=
  congrArg Recorded.record (s.channel_call verb args)

theorem record_discover (s : Session (Recorded τ)) :
    s.discover.2.record = s.record ++ [s.settledCall "get" discoveryArgs] :=
  congrArg Recorded.record s.channel_discover

theorem record_refreshVerbosity (s : Session (Recorded τ)) :
    s.refreshVerbosity.2.record = s.record ++ [s.settledCall "get" levelsArgs] :=
  congrArg Recorded.record s.channel_refreshVerbosity

/-- Without a guard, setting a level is two calls: the second reads everything back. -/
theorem record_setVerbosity (s : Session (Recorded τ)) (h : ¬ s.verbosity.isHeld = true)
    (target : VerbosityTarget) (level : VerbosityLevel) :
    (s.setVerbosity target level).2.record = s.record ++
      [(s.asking target level).settledCall "set" (VerbosityCommand.args ⟨target, level⟩),
        (s.asked target level).settledCall "get" levelsArgs] := by
  rw [setVerbosity_of_not_isHeld _ h, List.append_cons]
  refine (record_refreshVerbosity _).trans ?_
  rw [record_call]
  rfl

theorem record_sendCommand (s : Session (Recorded τ)) (c : TraceCommand) :
    (s.sendCommand c).2.record = s.record ++ [s.settledCall "trace" c.args] :=
  congrArg Recorded.record (s.channel_sendCommand c)

/-- The calls of commands that are sent one after the other. -/
def settledCalls (s : Session τ) : List TraceCommand → List SettledCall
  | [] => []
  | c :: rest => s.settledCall "trace" c.args :: (s.sendCommand c).2.settledCalls rest

theorem record_sendCommands (s : Session (Recorded τ)) (l : List TraceCommand) :
    (s.sendCommands l).2.record = s.record ++ s.settledCalls l := by
  induction l generalizing s with
  | nil => exact (List.append_nil _).symm
  | cons c rest ih =>
    rw [sendCommands_cons, ih, record_sendCommand, settledCalls, List.append_assoc,
      List.singleton_append]

/-- Every command is sent, in order, whatever becomes of those before it. -/
theorem request_settledCalls (s : Session τ) (l : List TraceCommand) :
    (s.settledCalls l).map SettledCall.request = l.map fun c => (s.apiVerb "trace", c.args) := by
  induction l generalizing s with
  | nil => rfl
  | cons c rest ih =>
    have hverb : (s.sendCommand c).2.apiVerb "trace" = s.apiVerb "trace" := by
      rw [apiVerb, options_sendCommand, apiVerb]
    rw [settledCalls, List.map_cons, List.map_cons, ih, hverb]
    rfl

/-- How commands are settled is up to the channel. -/
theorem settledCalls_congr {s t : Session τ} (hchannel : s.channel = t.channel)
    (hoptions : s.options = t.options) (l : List TraceCommand) :
    s.settledCalls l = t.settledCalls l := by
  induction l generalizing s t with
  | nil => rfl
  | cons c rest ih =>
    have hverb : s.apiVerb "trace" = t.apiVerb "trace" := by rw [apiVerb, hoptions, apiVerb]
    have hrest : (s.sendCommand c).2.settledCalls rest = (t.sendCommand c).2.settledCalls rest := by
      refine ih ?_ ?_
      · rw [channel_sendCommand, channel_sendCommand, hchannel, hverb]
      · rw [options_sendCommand, options_sendCommand, hoptions]
    rw [settledCalls, settledCalls, hrest, settledCall, settledCall, hverb, hchannel]

/-- Commands that are settled do not depend on what is displayed. -/
theorem settledCalls_traces (s : Session τ) (traces : TraceSubscriptions)
    (l : List TraceCommand) : settledCalls { s with traces } l = s.settledCalls l :=
  settledCalls_congr (by rfl) (by rfl) l

theorem erase_settledCalls (s : Session (Recorded τ)) (l : List TraceCommand) :
    s.erase.settledCalls l = s.settledCalls l := by
  induction l generalizing s with
  | nil => rfl
  | cons c rest ih =>
    rw [settledCalls, settledCalls, erase_sendCommand, ← ih]
    rfl

theorem record_untraceAll (s : Session (Recorded τ)) :
    s.untraceAll.2.record = s.record ++ [s.settledCall "trace" TraceCommand.dropAll.args] :=
  congrArg Recorded.record s.channel_untraceAll

/-- The commands of an action. -/
def commands (s : Session τ) : TraceAction → List TraceCommand
  | .select tag mode => s.traces.plan tag mode
  | .untraceAll => [.dropAll]

theorem record_trace (s : Session (Recorded τ)) (a : TraceAction) :
    (s.trace a).2.record = s.record ++ s.settledCalls (s.commands a) := by
  cases a with
  | select tag mode =>
    rw [trace_select, record_sendCommands, settledCalls_traces]
    rfl
  | untraceAll => exact s.record_untraceAll

/-- The calls that an action makes. -/
def sent (s : Session τ) (a : TraceAction) : List SettledCall := (s.recorded.trace a).2.record

theorem sent_eq_settledCalls (s : Session τ) (a : TraceAction) :
    s.sent a = s.settledCalls (s.commands a) := by
  rw [sent, record_trace, ← erase_settledCalls]
  rfl

theorem record_sessionInfo (s : Session (Recorded τ)) (refreshToken : Bool) :
    (s.sessionInfo refreshToken).2.record =
      s.record ++ [s.settledCall "session" (.object [("refresh-token", .bool refreshToken)])] :=
  s.record_call ..

theorem record_nextEvent (s : Session (Recorded τ)) : s.nextEvent.2.record = s.record :=
  (congrArg Recorded.record s.channel_nextEvent).trans rfl

/-- Closing retracts every subscription unless the channel is known to be closed. -/
theorem record_close (s : Session (Recorded τ)) :
    s.close.2.record = s.record ++
      if s.state = .closed then [] else [s.settledCall "trace" TraceCommand.dropAll.args] := by
  rw [snd_close]
  by_cases h : s.state = .closed
  · rw [if_pos h, if_pos h, List.append_nil]
    rfl
  · rw [if_neg h, if_neg h]
    exact s.record_untraceAll

end Session

end LiveTrace
