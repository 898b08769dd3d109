import LiveTrace.Proofs.Session.Log
import LiveTrace.Proofs.Session.Subscriptions
/-!
# LiveTrace.Proofs.Session.Closing

**How a session with a daemon ends.** A line to a daemon may be severed at any moment, also between
the calls of one operation; a channel to which things happen right before its calls says so
(`Interrupted`). Over such a line the connection state goes from connected to closed once, when the
session finds the line lost or closes it, and the end is reported at most once
(`Session.closes_once`). When the line is closed, by either side, nothing that the session does
reaches the daemon any more (`Session.standstill_run`).
-/

namespace LiveTrace

universe u v

/-! ### Interruptions -/

/-- A channel to which things happen while an operation is under way. -/
structure Interrupted (δ : Type v) (τ : Type u) where
  channel : τ
  /-- What happens right before each of the next calls. -/
  interruptions : List (List δ)

namespace Interrupted

variable {δ : Type v} {τ : Type u}

/-- The channel as the next call finds it. -/
def reached [Surroundings δ τ] (c : Interrupted δ τ) : τ :=
  (c.interruptions.headD []).foldl Surroundings.disturb c.channel

/-- Call a verb after what happens before the call. -/
def call [Channel τ] [Surroundings δ τ] (c : Interrupted δ τ) (apiVerb : String) (args : Json) :
    Settlement × Interrupted δ τ :=
  let (settlement, channel) := Channel.call c.reached apiVerb args
  (settlement, ⟨channel, c.interruptions.tail⟩)

/-- Take the next pushed event. -/
def receive [Channel τ] (c : Interrupted δ τ) : Arrival × Interrupted δ τ :=
  let (arrival, channel) := Channel.receive c.channel
  (arrival, { c with channel })

instance [Channel τ] [Surroundings δ τ] : Channel (Interrupted δ τ) where
  url c := Channel.url c.channel
  call := call
  close c := { c with channel := Channel.close c.channel }
  receive := receive
  queued c := Channel.queued c.channel
  release c := { c with channel := Channel.release c.channel }

instance [Surroundings δ τ] : Surroundings δ (Interrupted δ τ) where
  disturb c d := { c with channel := Surroundings.disturb c.channel d }

end Interrupted

/-! ### Standing still -/

/-- A line is closed and has been since it was like another one: no call has reached the daemon,
whose state is the same, apart from the verbs that were made to fail. -/
structure StandsStill (l₀ l : Line Daemon) : Prop where
  closed : l.closed = true
  calls : l.calls = l₀.calls
  peer : { l.peer with failing := l₀.peer.failing } = l₀.peer

namespace StandsStill

variable {l₀ l : Line Daemon}

theorem refl (h : l.closed = true) : StandsStill l l := ⟨h, rfl, rfl⟩

theorem happen (h : StandsStill l₀ l) (i : Incident) : StandsStill l₀ (i.happen l) := by
  cases i with
  | push p =>
    show StandsStill l₀ (l.push p).2
    unfold Line.push
    split
    · exact ⟨h.closed, h.calls, h.peer⟩
    · exact h
  | sever => exact ⟨rfl, h.calls, h.peer⟩
  | fail apiVerb | recover apiVerb => exact ⟨h.closed, h.calls, h.peer⟩

theorem happenAll (h : StandsStill l₀ l) (incidents : List Incident) :
    StandsStill l₀ (incidents.foldl Surroundings.disturb l) := by
  induction incidents generalizing l with
  | nil => exact h
  | cons i incidents ih => exact ih (h.happen i)

theorem receive (h : StandsStill l₀ l) : StandsStill l₀ l.receive.2 := by
  unfold Line.receive
  split
  · exact ⟨h.closed, h.calls, h.peer⟩
  · exact h

end StandsStill

namespace Session

/-- A recorded line that stands still, and on which every call failed because it is closed. -/
def Ended (l₀ : Line Daemon) (c : Recorded (Interrupted Incident (Line Daemon))) : Prop :=
  StandsStill l₀ c.channel.channel ∧ ∀ e ∈ c.record, e.settlement = .error .closed

/-- **Whatever a session does with a closed line leaves it and the daemon as they are.** -/
theorem keeps_ended (l₀ : Line Daemon) : Keeps (Ended l₀) where
  call c apiVerb args := by
    rintro ⟨hstill, hrecord⟩
    have hreached : StandsStill l₀ c.channel.reached := hstill.happenAll _
    have hcall := Daemon.call_of_closed hreached.closed apiVerb args
    have hsettled : (Channel.call c.channel apiVerb args).1 = .error .closed :=
      congrArg Prod.fst hcall
    have hline : (Channel.call c.channel apiVerb args).2.channel = c.channel.reached :=
      congrArg Prod.snd hcall
    refine ⟨?_, ?_⟩
    · show StandsStill l₀ (Channel.call c.channel apiVerb args).2.channel
      rw [hline]
      exact hreached
    · intro e he
      rcases List.mem_append.1 he with he | he
      · exact hrecord e he
      · rw [List.mem_singleton.1 he]
        exact hsettled
  receive c := by
    rintro ⟨hstill, hrecord⟩
    exact ⟨hstill.receive, hrecord⟩
  close c := by
    rintro ⟨hstill, hrecord⟩
    exact ⟨⟨rfl, hstill.calls, hstill.peer⟩, hrecord⟩

variable {s : Session (Interrupted Incident (Line Daemon))}

/-- **On a closed line every call fails because it is closed, and nothing reaches the daemon.** -/
theorem standstill_run (h : s.channel.channel.closed = true) (steps : List (Step Incident)) :
    StandsStill s.channel.channel (s.run steps).channel.channel ∧
      ∀ e ∈ s.transcript steps, e.settlement = .error .closed := by
  have hstart : Ended s.channel.channel s.recorded.channel := by
    refine ⟨.refl h, fun e he => ?_⟩
    exact absurd he List.not_mem_nil
  have hrun : Ended s.channel.channel (s.recorded.run steps).channel := by
    refine (keeps_ended s.channel.channel).run (fun c i hc => ?_) hstart steps
    exact ⟨hc.1.happen i, hc.2⟩
  have herase : (s.recorded.run steps).channel.channel = (s.run steps).channel :=
    congrArg Session.channel (s.erase_run_recorded steps)
  rw [← herase]
  exact hrun

/-- A call finds the line closed if and only if it is closed by then: a daemon answers every call
that reaches it. -/
theorem findsClosed_settledCall (s : Session (Interrupted Incident (Line Daemon))) (verb : String)
    (args : Json) : (s.settledCall verb args).findsClosed = s.channel.reached.closed := by
  have hsettled : (s.settledCall verb args).settlement =
      (Channel.call s.channel.reached (s.apiVerb verb) args).1 := rfl
  rw [SettledCall.findsClosed, hsettled]
  cases hclosed : s.channel.reached.closed with
  | true => rw [Daemon.call_of_closed hclosed]
  | false => rw [Daemon.call_of_open hclosed]

/-- Closing a session over a line that is open by then finds no loss. -/
theorem findsLoss_close (s : Session (Interrupted Incident (Line Daemon)))
    (h : s.channel.reached.closed = false) : s.findsLoss .close = false := by
  show (s.made .close).any SettledCall.findsClosed = false
  rw [made_close]
  split
  · rfl
  · rw [List.any_cons, findsClosed_settledCall, h]
    rfl

/-- **The connection state only moves forward, and the end is reported once.** Take any run of a
session with a daemon. Things may happen to the line at any moment: between the steps of the run,
and before each call of an operation. The state is connected at first, and stays so until the
session finds the line lost, by a call that fails because the line is closed or by waiting when
there are no more events, or is told to close; from then on it is closed. When the line is closed,
every call fails for this reason and the daemon and the calls that reached it stay as they are,
apart from the verbs that others make to fail. Of all entries that are offered to the log, at most
one reports that the connection was closed; there is one if and only if the session finds the line
lost while it is connected, so there is none if it is told to close over a line that is open when
the subscriptions are retracted. -/
theorem closes_once (line : Line Daemon) (interruptions : List (List Incident))
    (config : SessionConfig) (steps : List (Step Incident)) :
    let start := new (⟨line, interruptions⟩ : Interrupted Incident (Line Daemon)) config
    let s := start.run steps
    let closures := (start.logHistory steps).countP LogChange.isClosure
    start.state = .connected line.url ∧
      (s.state = .closed ∨ s.state = .connected line.url) ∧
      (s.state = .closed ↔
        start.Meets steps fun t e => t.stepFindsLoss e = true ∨ e = .act .close) ∧
      (∀ verb args, (s.call verb args).2.state =
        if (s.settledCall verb args).findsClosed then .closed else s.state) ∧
      (s.state = .closed → ∀ more : List (Step Incident), (s.run more).state = .closed) ∧
      (s.channel.channel.closed = true → ∀ more : List (Step Incident),
        StandsStill s.channel.channel (s.run more).channel.channel ∧
          ∀ e ∈ s.transcript more, e.settlement = .error .closed) ∧
      s.feed = start.feed.changeAll (start.logHistory steps) ∧
      closures ≤ 1 ∧
      (closures = 1 ↔
        start.Meets steps fun t e => t.state ≠ .closed ∧ t.stepFindsLoss e = true) ∧
      ∀ before after, steps = before ++ .act .close :: after →
        (start.run before).state ≠ .closed →
        (start.run before).channel.reached.closed = false → closures = 0 := by
  intro start s closures
  have hclosed := start.state_run_eq_closed_iff steps
  obtain ⟨honce, hreported⟩ := start.countP_logHistory steps
  refine ⟨rfl, ?_, ?_, fun verb args => s.state_call verb args, fun h more => ?_,
    fun h more => standstill_run h more, start.feed_run steps, honce, hreported, ?_⟩
  · exact (Onward.run start steps).symm
  · rw [hclosed, or_iff_right]
    exact fun h => ConnectionState.noConfusion h
  · exact state_run_of_closed h more
  · intro before after hsteps hopen hreached
    subst hsteps
    have hbefore := countP_logHistory_of_open hopen
    have hclose : (start.run before).stepFindsLoss (.act .close : Step Incident) = false :=
      findsLoss_close _ hreached
    have hafter : ((start.run before).step (.act .close : Step Incident)).state = .closed := rfl
    show (start.logHistory (before ++ .act .close :: after)).countP _ = 0
    rw [logHistory_append, logHistory, List.countP_append, List.countP_append, hbefore,
      countP_stepChanges, hclose, countP_logHistory_of_closed hafter]
    simp

/-- The line is severed between the two calls of an operation, after the old mode is dropped and
before the new one is added. The session still waits for events, asks the daemon and closes. A
session that closes at once reports nothing. -/
theorem closes_once_between_calls :
    let tag : TraceTag := ⟨some "calc", .request⟩
    let select (mode : String) : Step Incident :=
      .act (.trace (.select tag ((TraceMode.ofName? mode).getD .off)))
    let start := new (⟨Daemon.calculator.line, [[], [], [], [.sever]]⟩ : Interrupted Incident _)
      SessionConfig.default
    let steps := [.act .discover, select "all", select "common"]
    let more : List (Step Incident) := [.act .nextEvent, .act .discover, .act .close]
    let quiet : List (Step Incident) := [.act .discover, .act .close]
    let s := start.run steps
    s.state = .closed ∧ (s.run more).state = .closed ∧ s.channel.channel.closed = true ∧
      s.channel.channel.calls.length = 3 ∧
      (s.run more).channel.channel.calls = s.channel.channel.calls ∧
      (start.logHistory (steps ++ more)).countP LogChange.isClosure = 1 ∧
      (start.logHistory quiet).countP LogChange.isClosure = 0 := by
  have hlaw := closes_once Daemon.calculator.line [[], [], [], [.sever]] SessionConfig.default
  refine ⟨by decide +kernel, ?stays, by decide +kernel, by decide +kernel, ?still, ?reported,
    ?unreported⟩
  case stays =>
    obtain ⟨-, -, -, -, hstays, -⟩ := hlaw _
    exact hstays (by decide +kernel) _
  case still =>
    obtain ⟨-, -, -, -, -, hstill, -⟩ := hlaw _
    exact (hstill (by decide +kernel) _).1.calls
  case reported =>
    obtain ⟨-, -, -, -, -, -, -, -, hreported, -⟩ := hlaw _
    exact hreported.2 ⟨[.act .discover, _], _, _, rfl, by decide +kernel, by decide +kernel⟩
  case unreported =>
    obtain ⟨-, -, -, -, -, -, -, -, -, hunreported⟩ := hlaw _
    exact hunreported [.act .discover] [] rfl (by decide +kernel) (by decide +kernel)

end Session

end LiveTrace
