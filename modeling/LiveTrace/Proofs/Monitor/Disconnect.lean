import LiveTrace.Proofs.Daemon.Trace
import LiveTrace.Proofs.Monitor.Channels
import LiveTrace.Proofs.Session.Subscriptions
/-!
# LiveTrace.Proofs.Monitor.Disconnect

**Disconnecting leaves nothing behind.** Whatever was done with a session and happened to its line,
disconnecting retracts every subscription by one call, unless the line is known to be closed, and
then closes the line whatever became of the call (`Monitor.disconnect_leaves_nothing`). That the
daemon holds nothing afterwards does not depend on what the session takes it to hold, because the
call names no tag.
-/

namespace LiveTrace

universe u

namespace Session

/-! ### Closing a session over a line -/

/-- The call that retracts everything. -/
def retraction {τ : Type*} (s : Session τ) : String × Json :=
  (s.options.monitorApi ++ "/trace", .object [("drop", .bool true)])

theorem retraction_eq {τ : Type*} (s : Session τ) :
    s.retraction = (s.apiVerb "trace", TraceCommand.dropAll.args) := by
  rw [retraction, apiVerb, String.append_assoc]
  rfl

variable {s : Session (Line Daemon)}

/-- What the daemon answers when everything is retracted. -/
def retracted (s : Session (Line Daemon)) : Reply :=
  (s.channel.peer.handle s.retraction.1 s.retraction.2).1

/-- The line after everything is retracted over it. -/
def retractedLine (s : Session (Line Daemon)) : Line Daemon :=
  { s.channel with
    peer :=
      if s.retracted.isSuccess then { s.channel.peer with traces := .empty } else s.channel.peer
    calls := s.channel.calls ++ [s.retraction] }

/-- Over an open line the daemon is asked to retract everything. -/
theorem call_retraction (h : s.channel.closed = false) :
    Channel.call s.channel (s.apiVerb "trace") TraceCommand.dropAll.args =
      (.ok s.retracted, s.retractedLine) := by
  have hanswered := s.channel.peer.snd_handle_trace s.options.monitorApi .dropAll
  rw [Daemon.call_of_open h, retracted, retractedLine, retracted, retraction_eq]
  exact congrArg (fun peer => (_, ({ s.channel with peer, calls := _ } : Line Daemon))) hanswered

theorem close_of_closed (h : s.state = .closed) :
    s.close.1 = .ok () ∧ s.close.2.channel = Channel.close s.channel := by
  rw [fst_close, channel_close, if_pos h, if_pos h]
  exact ⟨rfl, rfl⟩

theorem close_of_open (h : s.state ≠ .closed) (hline : s.channel.closed = false) :
    s.close.1 =
        (if s.retracted.isSuccess then .ok () else .error (.call (.rejected s.retracted))) ∧
      s.close.2.channel = Channel.close s.retractedLine := by
  rw [fst_close, channel_close, if_neg h, if_neg h, fst_untraceAll, channel_untraceAll, fst_call,
    call_retraction hline, Caller.outcome]
  refine ⟨?_, rfl⟩
  split <;> rfl

/-- A line that was cut off without notice is found closed. -/
theorem close_of_cut_off (h : s.state ≠ .closed) (hline : s.channel.closed = true) :
    s.close.1 = .error (.call (.channel .closed)) ∧
      s.close.2.channel = Channel.close s.channel := by
  rw [fst_close, channel_close, if_neg h, if_neg h, fst_untraceAll, channel_untraceAll, fst_call,
    Daemon.call_of_closed hline]
  exact ⟨rfl, rfl⟩

end Session

namespace Monitor

/-- **Disconnecting leaves nothing behind.** In whatever state a session and its line are,
disconnecting ends without a session and with a closed line. If the line is known to be closed
nothing is sent. Otherwise the daemon is asked once to retract everything: if it accepts it holds no
subscription afterwards, if it rejects this is what comes of disconnecting and nothing changes, and
on a line that was cut off without notice nothing reaches it. -/
theorem disconnect_leaves_nothing {γ : Type u} (m : Monitor γ (Line Daemon))
    {s : Session (Line Daemon)} (hs : m.session = some s) :
    let call := (s.options.monitorApi ++ "/trace", Json.object [("drop", .bool true)])
    let reply := (s.channel.peer.handle call.1 call.2).1
    m.disconnect.2.session = none ∧ m.disconnect.2.state = .closed ∧
      ∃ l, m.disconnect.2.past = m.past ++ [l] ∧ l.closed = true ∧
        (s.state = .closed →
          m.disconnect.1 = .ok () ∧ l.calls = s.channel.calls ∧ l.peer = s.channel.peer) ∧
        (s.state ≠ .closed → s.channel.closed = false →
          l.calls = s.channel.calls ++ [call] ∧
            (reply.isSuccess = true → m.disconnect.1 = .ok () ∧ l.peer.traceTags = [] ∧
              l.peer = { s.channel.peer with traces := .empty }) ∧
            (reply.isSuccess = false →
              m.disconnect.1 = .error (.call (.rejected reply)) ∧ l.peer = s.channel.peer)) ∧
        (s.state ≠ .closed → s.channel.closed = true →
          m.disconnect.1 = .error (.call (.channel .closed)) ∧ l.calls = s.channel.calls ∧
            l.peer = s.channel.peer) := by
  intro call reply
  have hpast : m.disconnect.2.past = m.past ++ [Channel.release s.close.2.channel] := by
    rw [disconnect_of_some hs]
    rfl
  have hresult : m.disconnect.1 = s.close.1 := by rw [disconnect_of_some hs]
  refine ⟨m.session_disconnect, state_of_closed m.session_disconnect ?_, _, hpast, ?_, ?_, ?_, ?_⟩
  · rw [disconnect_of_some hs]
  · rw [s.channel_close]
    rfl
  · intro hclosed
    obtain ⟨hok, hchannel⟩ := Session.close_of_closed hclosed
    rw [hresult, hchannel]
    exact ⟨hok, rfl, rfl⟩
  · intro hstate hline
    obtain ⟨hclose, hchannel⟩ := Session.close_of_open hstate hline
    rw [hresult, hchannel, hclose]
    refine ⟨rfl, fun haccepted => ?_, fun hrejected => ?_⟩
    · have hpeer : s.retractedLine.peer = { s.channel.peer with traces := .empty } :=
        if_pos haccepted
      refine ⟨if_pos haccepted, ?_, hpeer⟩
      show s.retractedLine.peer.traceTags = []
      rw [hpeer]
      rfl
    · have hrejected : ¬ s.retracted.isSuccess = true := by
        rw [show s.retracted.isSuccess = false from hrejected]
        decide
      exact ⟨if_neg hrejected, if_neg hrejected⟩
  · intro hstate hline
    obtain ⟨hfailed, hchannel⟩ := Session.close_of_cut_off hstate hline
    rw [hresult, hchannel]
    exact ⟨hfailed, rfl, rfl⟩

/-- A subscription that could not be dropped, and is not displayed any more, is retracted too. -/
theorem disconnect_leaves_nothing_drifted :
    let tag : TraceTag := ⟨some "calc", .request⟩
    let mode := (TraceMode.ofName? "all").getD .off
    let steps : List (Step Exchange Incident) :=
      [.connect (.new "localhost" none), .act (.trace (.select tag mode)),
        .disturb (.fail "monitor/trace"), .act (.trace (.select tag .off)),
        .disturb (.recover "monitor/trace")]
    let m : Monitor Exchange (Line Daemon) := (new ⟨.calculator, false⟩ .default).run steps
    (m.session.map fun s => (s.traces.drifted, s.channel.peer.traceTags)) =
        some ([tag], ["calc/request"]) ∧
      m.disconnect.1 = .ok () ∧ m.disconnect.2.session = none ∧
      ∃ l, m.disconnect.2.past = [l] ∧ l.closed = true ∧ l.peer.traceTags = [] := by
  intro tag mode steps m
  have hfacts : (m.session.map fun s => (s.state, s.channel.closed, s.retracted.isSuccess)) =
      some (.connected "mock://daemon/api", false, true) := by decide +kernel
  have hdrifted : (m.session.map fun s => (s.traces.drifted, s.channel.peer.traceTags)) =
      some ([tag], ["calc/request"]) := by decide +kernel
  have hnone : m.past = [] := by decide +kernel
  clear_value m
  obtain ⟨s, hs, hfacts⟩ := Option.map_eq_some_iff.1 hfacts
  obtain ⟨hstate, hline, haccepted⟩ : s.state = .connected "mock://daemon/api" ∧
      s.channel.closed = false ∧ s.retracted.isSuccess = true := by simpa using hfacts
  have hopen : s.state ≠ .closed := by simp [hstate]
  obtain ⟨hsession, -, l, hpast, hclosed, -, hasked, -⟩ := disconnect_leaves_nothing m hs
  obtain ⟨hok, htags, -⟩ := (hasked hopen hline).2.1 haccepted
  rw [hnone] at hpast
  exact ⟨hdrifted, hok, hsession, l, hpast, hclosed, htags⟩

end Monitor

end LiveTrace
