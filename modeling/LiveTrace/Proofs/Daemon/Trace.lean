import LiveTrace.Log.Caller
import LiveTrace.Proofs.Daemon.Verbs
import LiveTrace.Proofs.Trace.Agreement
/-!
# LiveTrace.Proofs.Daemon.Trace

**What calls do to the subscriptions that a daemon holds.** Only calls of `monitor/trace` touch them
(`Daemon.traces_handle`), and those that carry a command do what `TraceCommand.isAccepted` and
`TraceCommand.effect` say (`Daemon.handle_trace`), unless they are made to fail. Over a line, where
the call may also be lost, a command has its effect if and only if its call is accepted
(`Daemon.traces_call_trace`).
-/

namespace LiveTrace

/-- A verb without slashes is told apart from its API. -/
theorem Text.append_slash_inj {api api' verb verb' : String} (h : '/' ∉ verb.toList)
    (h' : '/' ∉ verb'.toList) (heq : api ++ "/" ++ verb = api' ++ "/" ++ verb') :
    api = api' ∧ verb = verb' := by
  have hlist := congrArg String.toList heq
  have hslash : "/".toList = ['/'] := by decide +kernel
  simp only [String.toList_append, hslash, List.append_assoc, List.singleton_append] at hlist
  obtain ⟨hapi, hverb⟩ := append_cons_inj h h' hlist
  exact ⟨String.toList_inj.1 hapi, String.toList_inj.1 hverb⟩

theorem Caller.isOk_outcome (r : Reply) : (outcome (.ok r)).isOk = r.isSuccess := by
  cases h : r.isSuccess <;> simp [outcome, h, Except.isOk, Except.toBool]

namespace Daemon

/-! ### The tags of a daemon -/

theorem mem_traceTags {d : Daemon} {x : String} :
    x ∈ d.traceTags ↔ d.traces.contains x = true :=
  (d.traces.contains_iff_mem_keys x).symm

theorem traceTags_ascending (d : Daemon) : d.traceTags.Pairwise (· < ·) := by
  unfold traceTags Table.keys
  rw [List.pairwise_map]
  exact d.traces.ascending.imp fun h => compare_lt_iff_lt.1 h

/-- Only calls of `monitor/trace` touch subscriptions. -/
theorem traces_handle (d : Daemon) {apiVerb : String} (h : apiVerb ≠ "monitor/trace")
    (args : Json) : (d.handle apiVerb args).2.traces = d.traces :=
  (d.isCall apiVerb args).traces h

/-! ### Calls that carry a command -/

theorem addedTag?_specification (tag : TraceTag) (mode : TraceMode) :
    addedTag? (TraceCommand.specification tag mode) = some tag.text := by
  unfold addedTag? TraceCommand.specification
  rw [Json.get?_ofFields, Json.get?_ofFields]
  cases tag.api <;> cases tag.category <;>
    simp [Entries.lookup?, TraceCategory.name, Json.asString?]

/-- **How a daemon answers a command.** -/
theorem trace_args (d : Daemon) (c : TraceCommand) :
    d.trace c.args =
      if c.isAccepted d.traces then (.success none, { d with traces := c.effect d.traces })
      else (refuse "tag not found", d) := by
  cases c with
  | drop tag => rfl
  | add tag mode =>
    have hadd : (TraceCommand.add tag mode).args.get? "add" =
        some (TraceCommand.specification tag mode) := rfl
    rw [trace, hadd]
    simp only [addedTag?_specification]
    rfl
  | dropAll => rfl

theorem handle_trace (d : Daemon) (h : d.failing.contains "monitor/trace" = false)
    (c : TraceCommand) :
    d.handle "monitor/trace" c.args =
      if c.isAccepted d.traces then (.success none, { d with traces := c.effect d.traces })
      else (refuse "tag not found", d) := by
  have hverb : verb? "monitor/trace" = some "trace" := verb?_eq_some.2 rfl
  rw [handle, if_neg (by rw [h]; decide), hverb]
  exact d.trace_args c

/-- The verb `trace` of an API other than the one the daemon has is not known to it. -/
theorem handle_foreign_trace (d : Daemon) {monitorApi : String} (h : monitorApi ≠ "monitor")
    (args : Json) :
    ∃ r : Reply, r.isSuccess = false ∧
      d.handle (monitorApi ++ "/" ++ "trace") args = (r, d) := by
  -- whatever verb of the daemon was called, its API would be `monitor`
  have hverb (verb : String) (hslash : '/' ∉ verb.toList) :
      verb? (monitorApi ++ "/" ++ "trace") ≠ some verb := by
    intro hsome
    have heq : monitorApi ++ "/" ++ "trace" = "monitor" ++ "/" ++ verb := verb?_eq_some.1 hsome
    exact h (Text.append_slash_inj (by decide +kernel) hslash heq).1
  unfold handle
  split
  · exact ⟨_, rfl, rfl⟩
  · split
    · rename_i hsome
      exact absurd hsome (hverb "get" (by decide +kernel))
    · rename_i hsome
      exact absurd hsome (hverb "set" (by decide +kernel))
    · rename_i hsome
      exact absurd hsome (hverb "trace" (by decide +kernel))
    · rename_i hsome
      exact absurd hsome (hverb "session" (by decide +kernel))
    · exact ⟨_, rfl, rfl⟩

/-- A command has its effect if and only if it succeeds, and nothing else changes. -/
theorem snd_handle_trace (d : Daemon) (monitorApi : String) (c : TraceCommand) :
    let answered := d.handle (monitorApi ++ "/" ++ "trace") c.args
    answered.2 = if answered.1.isSuccess then { d with traces := c.effect d.traces } else d := by
  intro answered
  by_cases hfailing : d.failing.contains (monitorApi ++ "/" ++ "trace") = true
  · have hanswered : answered = _ := d.handle_failing hfailing c.args
    rw [hanswered]
    rfl
  · -- no failure is injected, so it depends on whether the daemon has an API of that name
    by_cases hmonitor : monitorApi = "monitor"
    · subst hmonitor
      have hanswered : answered = _ := d.handle_trace (eq_false_of_ne_true hfailing) c
      rw [hanswered]
      cases c.isAccepted d.traces <;> rfl
    · obtain ⟨r, hr, hanswered⟩ := d.handle_foreign_trace hmonitor c.args
      have hanswered : answered = (r, d) := hanswered
      rw [hanswered, hr]
      rfl

theorem traces_handle_trace (d : Daemon) (monitorApi : String) (c : TraceCommand) :
    let answered := d.handle (monitorApi ++ "/" ++ "trace") c.args
    answered.2.traces = if answered.1.isSuccess then c.effect d.traces else d.traces := by
  intro answered
  rw [show answered.2 = _ from d.snd_handle_trace monitorApi c]
  split <;> rfl

/-! ### Calls over a line -/

/-- What a call over an open line comes to. -/
theorem call_of_open {l : Line Daemon} (h : l.closed = false) (apiVerb : String) (args : Json) :
    Channel.call l apiVerb args =
      (.ok (l.peer.handle apiVerb args).1,
        { l with
          peer := (l.peer.handle apiVerb args).2
          calls := l.calls ++ [(apiVerb, args)] }) := by
  show l.call apiVerb args = _
  rw [Line.call, h]
  rfl

/-- A closed line settles calls itself. -/
theorem call_of_closed {l : Line Daemon} (h : l.closed = true) (apiVerb : String) (args : Json) :
    Channel.call l apiVerb args = (.error .closed, l) := by
  show l.call apiVerb args = _
  rw [Line.call, h]
  rfl

theorem traces_call (l : Line Daemon) {apiVerb : String} (h : apiVerb ≠ "monitor/trace")
    (args : Json) : (Channel.call l apiVerb args).2.peer.traces = l.peer.traces := by
  cases hclosed : l.closed with
  | true => rw [call_of_closed hclosed]
  | false =>
    rw [call_of_open hclosed]
    exact l.peer.traces_handle h args

/-- **A command has its effect if and only if it is accepted**, whatever the monitoring API is
called and whatever becomes of the line. -/
theorem traces_call_trace (l : Line Daemon) (monitorApi : String) (c : TraceCommand) :
    let called := Channel.call l (monitorApi ++ "/" ++ "trace") c.args
    called.2.peer.traces =
      if (Caller.outcome called.1).isOk then c.effect l.peer.traces else l.peer.traces := by
  intro called
  cases hclosed : l.closed with
  | true =>
    have hcalled : called = _ := call_of_closed hclosed ..
    rw [hcalled]
    rfl
  | false =>
    have hcalled : called = _ := call_of_open hclosed ..
    rw [hcalled, Caller.isOk_outcome]
    exact l.peer.traces_handle_trace monitorApi c

end Daemon

end LiveTrace
