import LiveTrace.Line
import LiveTrace.Proofs.Session.Log
/-!
# LiveTrace.Proofs.Session.History

**The log is the exact recent history of calls.** While its log is switched on, a session offers
it an entry for each call that is sent, one for each that is settled, and others for events and
failures. What is offered recounts the calls that are made (`Recounts`): the two entries of a call
are next to each other, in the order of the calls, with other entries only between calls. This is
shown for the changes of one action (`Session.recounted_changes`) and then of any run.

The log keeps the last entries of what was offered since it was cleared
(`Session.log_recounts_calls`). A capacity of zero counts as one.
-/

namespace LiveTrace

universe u v w

/-! ### Entries about calls -/

/-- Whether an entry is about a call that was sent. -/
def LogEntry.isSend (e : LogEntry) : Bool := e.tag = "send request"

/-- Whether an entry is about a call that was settled. -/
def LogEntry.isReceive (e : LogEntry) : Bool :=
  e.tag = "receive success" ∨ e.tag = "receive error"

namespace SettledCall

/-- The entry for sending a call. -/
def sendEntry (c : SettledCall) : LogEntry := Caller.sendEntry c.apiVerb c.args

/-- The entry for the settlement of a call. -/
def receiveEntry (c : SettledCall) : LogEntry := Caller.receiveEntry c.apiVerb c.args c.settlement

/-- A call was accepted if and only if the daemon replied with success. -/
theorem isAccepted_iff (c : SettledCall) :
    c.isAccepted = true ↔
      ∃ reply, c.settlement = .ok reply ∧ reply.rejected = false ∧
        reply.request.status = "success" := by
  rcases c with ⟨apiVerb, args, e | reply⟩
  · simp [isAccepted, Caller.outcome, Except.isOk, Except.toBool]
  · have hsuccess : reply.isSuccess = true ↔
        reply.rejected = false ∧ reply.request.status = "success" := by
      simp [Reply.isSuccess, Reply.statusSuccess]
    rw [isAccepted, Caller.outcome]
    cases h : reply.isSuccess <;> simp [← hsuccess, h, Except.isOk, Except.toBool]

/-- What is logged of a settlement: the call as it was logged when it was sent, and then the reply
or what went wrong. -/
theorem receiveEntry_eq (c : SettledCall) :
    c.receiveEntry =
      ⟨if c.isAccepted then .retok else .reterr,
        if c.isAccepted then "receive success" else "receive error",
        c.apiVerb ++ "(" ++ c.args.pretty ++ ")" ++ " -> " ++
          match c.settlement with
          | .ok reply => reply.toJson.pretty
          | .error e => e.message⟩ := by
  rcases c with ⟨apiVerb, args, e | reply⟩
  · rfl
  · unfold receiveEntry Caller.receiveEntry isAccepted
    cases Caller.outcome (.ok reply) <;> rfl

theorem isSend_receiveEntry (c : SettledCall) : c.receiveEntry.isSend = false := by
  rw [LogEntry.isSend, receiveEntry_eq]
  cases c.isAccepted <;> rfl

end SettledCall

/-- Entries that recount calls, each by the entry for sending it and next to it the one for its
settlement, among entries that are not about calls. -/
inductive Recounts : List SettledCall → List LogEntry → Prop
  | nil : Recounts [] []
  | call (c : SettledCall) {calls : List SettledCall} {entries : List LogEntry}
    (rest : Recounts calls entries) :
    Recounts (c :: calls) (c.sendEntry :: c.receiveEntry :: entries)
  | other (e : LogEntry) (hsend : e.isSend = false) (hreceive : e.isReceive = false)
    {calls : List SettledCall} {entries : List LogEntry} (rest : Recounts calls entries) :
    Recounts calls (e :: entries)

namespace Recounts

variable {calls calls' : List SettledCall} {entries entries' : List LogEntry}

theorem append (h : Recounts calls entries) (h' : Recounts calls' entries') :
    Recounts (calls ++ calls') (entries ++ entries') := by
  induction h with
  | nil => exact h'
  | call c _ ih => exact .call c ih
  | other e hsend hreceive _ ih => exact .other e hsend hreceive ih

/-- The calls that are sent are all the calls, in order. -/
theorem filter_isSend (h : Recounts calls entries) :
    entries.filter LogEntry.isSend = calls.map SettledCall.sendEntry := by
  induction h with
  | nil => rfl
  | call c _ ih =>
    rw [List.filter_cons_of_pos rfl, List.filter_cons_of_neg (by simp [c.isSend_receiveEntry]), ih,
      List.map_cons]
  | other e hsend _ _ ih => rw [List.filter_cons_of_neg (by simp [hsend]), ih]

/-- The entry for sending a call is followed by the one for its settlement. -/
theorem settled_after (h : Recounts calls entries) {before after : List LogEntry} {e : LogEntry}
    (hentries : entries = before ++ e :: after) (he : e.isSend = true) :
    ∃ c rest, calls[before.countP LogEntry.isSend]? = some c ∧ e = c.sendEntry ∧
      after = c.receiveEntry :: rest := by
  induction h generalizing before with
  | nil => exact absurd hentries.symm (by simp)
  | @call c calls entries _ ih =>
    -- `e` is the first of the two entries of `c`, or the second, or comes after both
    match before, hentries with
    | [], hentries =>
      obtain ⟨rfl, rfl⟩ := List.cons.inj hentries
      exact ⟨c, entries, rfl, rfl, rfl⟩
    | [x], hentries =>
      obtain ⟨-, hrest⟩ := List.cons.inj hentries
      obtain ⟨rfl, -⟩ := List.cons.inj hrest
      rw [c.isSend_receiveEntry] at he
      contradiction
    | x :: y :: before, hentries =>
      obtain ⟨rfl, htail⟩ := List.cons.inj hentries
      obtain ⟨rfl, hrest⟩ := List.cons.inj htail
      have hcount : (c.sendEntry :: c.receiveEntry :: before).countP LogEntry.isSend =
          before.countP LogEntry.isSend + 1 := by
        rw [List.countP_cons_of_pos rfl, List.countP_cons_of_neg (by simp [c.isSend_receiveEntry])]
      rw [hcount, List.getElem?_cons_succ]
      exact ih hrest
  | other x hsend _ _ ih =>
    cases before with
    | nil =>
      obtain ⟨rfl, -⟩ := List.cons.inj hentries
      rw [hsend] at he
      contradiction
    | cons y before =>
      obtain ⟨rfl, hrest⟩ := List.cons.inj hentries
      rw [List.countP_cons_of_neg (by simp [hsend])]
      exact ih hrest

/-- The entry for a settlement comes after the one for sending the call. -/
theorem sent_before (h : Recounts calls entries) {before after : List LogEntry} {e : LogEntry}
    (hentries : entries = before ++ e :: after) (he : e.isReceive = true) :
    ∃ c ∈ calls, ∃ front, before = front ++ [c.sendEntry] ∧ e = c.receiveEntry := by
  induction h generalizing before with
  | nil => exact absurd hentries.symm (by simp)
  | @call c calls entries _ ih =>
    match before, hentries with
    | [], hentries =>
      obtain ⟨rfl, -⟩ := List.cons.inj hentries
      contradiction
    | [x], hentries =>
      obtain ⟨rfl, hrest⟩ := List.cons.inj hentries
      obtain ⟨rfl, -⟩ := List.cons.inj hrest
      exact ⟨c, List.mem_cons_self, [], rfl, rfl⟩
    | x :: y :: before, hentries =>
      obtain ⟨-, htail⟩ := List.cons.inj hentries
      obtain ⟨-, hrest⟩ := List.cons.inj htail
      obtain ⟨c', hmem, front, rfl, rfl⟩ := ih hrest
      exact ⟨c', List.mem_cons_of_mem c hmem, x :: y :: front, rfl, rfl⟩
  | other x _ hreceive _ ih =>
    cases before with
    | nil =>
      obtain ⟨rfl, -⟩ := List.cons.inj hentries
      rw [hreceive] at he
      contradiction
    | cons y before =>
      obtain ⟨-, hrest⟩ := List.cons.inj hentries
      obtain ⟨c, hmem, front, rfl, rfl⟩ := ih hrest
      exact ⟨c, hmem, y :: front, rfl, rfl⟩

end Recounts

/-! ### Entries that are offered -/

/-- The entry that is offered. -/
def LogChange.entry? : LogChange → Option LogEntry
  | entry e => some e
  | enable _ | clear => none

/-- Changes that offer entries and do nothing else, and recount calls. -/
def Recounted (calls : List SettledCall) (changes : List LogChange) : Prop :=
  ∃ entries, changes = entries.map .entry ∧ Recounts calls entries

namespace Recounted

variable {calls calls' : List SettledCall} {changes changes' : List LogChange}

theorem nil : Recounted [] [] := ⟨[], rfl, .nil⟩

theorem append (h : Recounted calls changes) (h' : Recounted calls' changes') :
    Recounted (calls ++ calls') (changes ++ changes') := by
  obtain ⟨entries, rfl, hentries⟩ := h
  obtain ⟨entries', rfl, hentries'⟩ := h'
  exact ⟨entries ++ entries', List.map_append.symm, hentries.append hentries'⟩

/-- An entry that is not about a call. -/
theorem other (e : LogEntry) (hsend : e.isSend = false) (hreceive : e.isReceive = false) :
    Recounted [] [.entry e] := ⟨[e], rfl, .other e hsend hreceive .nil⟩

end Recounted

namespace LogFeed

theorem changeAll_entries (f : LogFeed) (l : List LogEntry) :
    f.changeAll (l.map .entry) = f.pushAll l := by
  rw [changeAll, List.foldl_map]
  rfl

/-- Entries that are offered one after the other are kept as a whole or dropped as a whole. -/
theorem pushAll_eq (f : LogFeed) (l : List LogEntry) :
    f.pushAll l = if f.enabled then { f with recent := f.recent.pushAll l } else f := by
  obtain ⟨recent, enabled⟩ := f
  induction l generalizing recent with
  | nil => cases enabled <;> rfl
  | cons e l ih =>
    cases enabled with
    | false => exact ih recent
    | true => exact ih (recent.push e)

/-- A log that keeps the last of some entries. -/
def Keeps (f : LogFeed) (capacity : Nat) (seen : List LogEntry) : Prop :=
  f.recent.capacity = capacity ∧ f.entries = Recent.last capacity seen

theorem keeps_nil {f : LogFeed} (hempty : f.entries = []) : f.Keeps f.recent.capacity [] :=
  ⟨rfl, hempty.trans (Recent.last_eq_self (Nat.zero_le _)).symm⟩

theorem Keeps.pushAll {f : LogFeed} {capacity : Nat} {seen : List LogEntry}
    (h : f.Keeps capacity seen) (l : List LogEntry) :
    (f.pushAll l).Keeps capacity (if f.enabled then seen ++ l else seen) := by
  obtain ⟨rfl, hentries⟩ := h
  rw [pushAll_eq]
  split
  · refine ⟨Recent.capacity_pushAll .., ?_⟩
    show (f.recent.pushAll l).items = _
    rw [Recent.items_pushAll, show f.recent.items = _ from hentries, Recent.last_append_last]
  · exact ⟨rfl, hentries⟩

end LogFeed

namespace Session

variable {τ : Type u} [Channel τ]

theorem recounted_closureReport (state : ConnectionState) (url : String) :
    Recounted [] (closureReport state url) := by
  unfold closureReport
  split
  · exact .nil
  · exact .other _ rfl rfl

omit [Channel τ] in
theorem recounted_pushChanges (s : Session τ) (push : PushEvent) :
    Recounted [] (s.pushChanges push) := by
  have hpush : Recounted [] [.entry (pushEntry s.options push)] := by
    unfold pushEntry
    split <;> exact .other _ rfl rfl
  unfold pushChanges
  cases Classification.ofPush s.options push with
  | malformed reason => exact hpush.append (.other ⟨.error, _, reason⟩ rfl rfl)
  | trace | suppressed | unexpected => exact hpush

theorem recounted_callChanges (s : Session τ) (verb : String) (args : Json) :
    Recounted [s.settledCall verb args] (s.callChanges verb args) := by
  have hcall : Recounted [s.settledCall verb args]
      [.entry (Caller.sendEntry (s.settledCall verb args).apiVerb args),
        .entry (Caller.receiveEntry (s.settledCall verb args).apiVerb args
          (s.settledCall verb args).settlement)] := ⟨_, rfl, .call (s.settledCall verb args) .nil⟩
  rw [callChanges, ← List.append_nil [s.settledCall verb args]]
  refine hcall.append ?_
  split
  · exact recounted_closureReport ..
  · exact .nil

theorem recounted_sendChanges (s : Session τ) (l : List TraceCommand) :
    Recounted (s.settledCalls l) (s.sendChanges l) := by
  induction l generalizing s with
  | nil => exact .nil
  | cons c rest ih => exact (s.recounted_callChanges ..).append (ih _)

/-- **What an action does to the log recounts its calls**, unless it is about the log itself. -/
theorem recounted_changes (s : Session τ) {a : Action} (hclear : a ≠ .clearLog)
    (henable : ∀ enabled, a ≠ .setLogEnabled enabled) : Recounted (s.made a) (s.changes a) := by
  cases a with
  | discover =>
    -- a failure is reported after the call, by an entry that is not about it
    rw [made_discover, ← List.append_nil [_], changes]
    refine (s.recounted_callChanges ..).append ?_
    split
    · exact .other _ rfl rfl
    · exact .nil
  | setVerbosity target level =>
    by_cases h : s.verbosity.isHeld = true
    · rw [made_setVerbosity_of_isHeld _ h, changes, if_pos h]
      exact .nil
    · rw [made_setVerbosity _ h, changes, if_neg h]
      exact (recounted_callChanges _ "set" _).append (recounted_callChanges _ "get" _)
  | refreshVerbosity =>
    rw [made_refreshVerbosity]
    exact s.recounted_callChanges ..
  | trace a =>
    rw [made_trace]
    cases a with
    | select tag mode =>
      rw [changes, commands, ← settledCalls_traces s (s.traces.select tag mode).2]
      exact recounted_sendChanges ..
    | untraceAll => exact s.recounted_callChanges ..
  | sessionInfo refreshToken =>
    rw [made_sessionInfo]
    exact s.recounted_callChanges ..
  | nextEvent =>
    rw [made_nextEvent, changes]
    split
    · exact s.recounted_pushChanges _
    · exact recounted_closureReport ..
    · exact .nil
  | handlePush push =>
    rw [made_handlePush]
    exact s.recounted_pushChanges push
  | close =>
    rw [made_close, changes]
    split
    · exact .nil
    · exact s.recounted_callChanges ..
  | clearLog => exact absurd rfl hclear
  | setLogEnabled enabled => exact absurd rfl (henable enabled)
  | clearTraceEvents | setShowMonitorEvents | hold | release => exact .nil

/-! ### Runs -/

section Run

variable {δ : Type v} [Surroundings δ τ]

/-- The entries that a step offers to the log. -/
def offered (s : Session τ) (e : Step δ) : List LogEntry :=
  (s.stepChanges e).filterMap LogChange.entry?

/-- What the steps of a run come to while the log is switched on, since it was last cleared; `seen`
is what it came to before the run. -/
def sinceClear {α : Type w} (items : Session τ → Step δ → List α) (s : Session τ) (seen : List α) :
    List (Step δ) → List α
  | [] => seen
  | .act .clearLog :: steps => (s.step (.act .clearLog : Step δ)).sinceClear items [] steps
  | e :: steps =>
    (s.step e).sinceClear items (if s.feed.enabled then seen ++ items s e else seen) steps

theorem sinceClear_cons {α : Type w} (items : Session τ → Step δ → List α) {s : Session τ}
    (seen : List α) {e : Step δ} (hclear : e ≠ .act .clearLog) (steps : List (Step δ)) :
    s.sinceClear items seen (e :: steps) =
      (s.step e).sinceClear items (if s.feed.enabled then seen ++ items s e else seen) steps := by
  rw [sinceClear]
  exact hclear

/-- What a step offers goes to the log and recounts the calls of the step, unless it clears the
log. -/
theorem offered_step (s : Session τ) {e : Step δ} (hclear : e ≠ .act .clearLog) :
    (s.step e).feed.recent = (s.feed.pushAll (s.offered e)).recent ∧
      Recounts (s.stepCalls e) (s.offered e) := by
  match e with
  | .disturb d => exact ⟨rfl, .nil⟩
  | .act a =>
    by_cases henable : ∃ enabled, a = .setLogEnabled enabled
    · obtain ⟨enabled, rfl⟩ := henable
      exact ⟨rfl, .nil⟩
    · obtain ⟨entries, hchanges, hrecounts⟩ := s.recounted_changes
        (fun ha => hclear (congrArg Step.act ha)) fun enabled ha => henable ⟨enabled, ha⟩
      have hoffered : s.offered (.act a : Step δ) = entries := by
        rw [offered, stepChanges, hchanges, List.filterMap_map]
        exact List.filterMap_some
      have hfeed : (s.step (.act a : Step δ)).feed = s.feed.pushAll entries := by
        rw [← LogFeed.changeAll_entries, ← hchanges]
        exact s.feed_perform a
      rw [hoffered, hfeed]
      exact ⟨rfl, hrecounts⟩

theorem keeps_step {s : Session τ} {capacity : Nat} {seen : List LogEntry}
    (h : s.feed.Keeps capacity seen) {e : Step δ} (hclear : e ≠ .act .clearLog) :
    (s.step e).feed.Keeps capacity (if s.feed.enabled then seen ++ s.offered e else seen) := by
  rw [LogFeed.Keeps, LogFeed.entries, (s.offered_step hclear).1]
  exact h.pushAll _

/-- **The log keeps the last of the entries that were offered since it was cleared.** -/
theorem keeps_run {s : Session τ} {capacity : Nat} {seen : List LogEntry}
    (h : s.feed.Keeps capacity seen) (steps : List (Step δ)) :
    (s.run steps).feed.Keeps capacity (s.sinceClear offered seen steps) := by
  induction steps generalizing s seen with
  | nil => exact h
  | cons e steps ih =>
    -- clearing starts anew with no entries; any other step adds what it offers
    by_cases hclear : e = .act .clearLog
    · subst hclear
      obtain ⟨rfl, -⟩ := h
      exact ih (LogFeed.keeps_nil rfl)
    · rw [sinceClear_cons _ _ hclear]
      exact ih (keeps_step h hclear)

/-- **The entries that were offered since the log was cleared recount the calls made since.** -/
theorem recounts_sinceClear (s : Session τ) {calls : List SettledCall} {entries : List LogEntry}
    (h : Recounts calls entries) (steps : List (Step δ)) :
    Recounts (s.sinceClear stepCalls calls steps) (s.sinceClear offered entries steps) := by
  induction steps generalizing s calls entries with
  | nil => exact h
  | cons e steps ih =>
    by_cases hclear : e = .act .clearLog
    · subst hclear
      exact ih _ .nil
    · rw [sinceClear_cons _ _ hclear, sinceClear_cons _ _ hclear]
      refine ih _ ?_
      split
      · exact h.append (s.offered_step hclear).2
      · exact h

/-- **The log is the exact recent history of calls.** After any run, the log has the last entries of
those that were offered while it was switched on, since it was last cleared: as many as the capacity
tells, and at least one. Among these the entries about calls that were sent are those of the calls
made meanwhile, in order. Each is followed by the entry about the settlement of the same call, and
there is no entry about a settlement but those. A call reads as its verb with the arguments in
parentheses. Its settlement reads as the same text, an arrow and the reply or the failure, under the
name of a success exactly if the daemon accepted the call. -/
theorem log_recounts_calls (channel : τ) (config : SessionConfig) (steps : List (Step δ)) :
    let s := new channel config
    let entries := s.sinceClear offered [] steps
    let calls := s.sinceClear stepCalls [] steps
    (s.run steps).feed.entries = Recent.last (max 1 config.maxLogEntries) entries ∧
      entries.filter LogEntry.isSend = calls.map SettledCall.sendEntry ∧
      (∀ before e after, entries = before ++ e :: after → e.isSend = true →
        ∃ c rest, calls[before.countP LogEntry.isSend]? = some c ∧ e = c.sendEntry ∧
          after = c.receiveEntry :: rest) ∧
      (∀ before e after, entries = before ++ e :: after → e.isReceive = true →
        ∃ c ∈ calls, ∃ front, before = front ++ [c.sendEntry] ∧ e = c.receiveEntry) ∧
      ∀ c ∈ calls,
        c.sendEntry = ⟨.call, "send request", c.apiVerb ++ "(" ++ c.args.pretty ++ ")"⟩ ∧
        c.receiveEntry =
          ⟨if c.isAccepted then .retok else .reterr,
            if c.isAccepted then "receive success" else "receive error",
            c.apiVerb ++ "(" ++ c.args.pretty ++ ")" ++ " -> " ++
              match c.settlement with
              | .ok reply => reply.toJson.pretty
              | .error e => e.message⟩ ∧
        (c.isAccepted = true ↔ ∃ reply, c.settlement = .ok reply ∧ reply.rejected = false ∧
          reply.request.status = "success") := by
  intro s entries calls
  have hkeeps : (s.run steps).feed.Keeps (max 1 config.maxLogEntries) entries :=
    keeps_run (LogFeed.keeps_nil rfl) steps
  have hrecounts : Recounts calls entries := s.recounts_sinceClear .nil steps
  exact ⟨hkeeps.2, hrecounts.filter_isSend, fun _ _ _ => hrecounts.settled_after,
    fun _ _ _ => hrecounts.sent_before, fun c _ => ⟨rfl, c.receiveEntry_eq, c.isAccepted_iff⟩⟩

/-- A call before the log is cleared, one that is accepted, one that is refused and one that cannot
be sent, with room for all entries but the oldest, and a call that is made after the log is switched
off. -/
theorem log_recounts_calls_refused :
    let settlements : List Settlement := [.ok (.success none),
      .ok (.success (some (.object [("uuid", .string "5c3f"), ("token", .string "HELLO")]))),
      .ok (.failure "denied" (some "no")), .error (.send "broken pipe"), .error .closed]
    let line : Line Script := .new "mock" ⟨settlements⟩
    let config : SessionConfig := ⟨"monitor", false, true, 5, 5⟩
    let steps : List (Step Empty) := [.act .refreshVerbosity, .act .clearLog,
      .act (.sessionInfo true), .act .refreshVerbosity, .act (.trace .untraceAll),
      .act (.setLogEnabled false), .act .discover]
    let session := "monitor/session(\x7b\n  \"refresh-token\": true\n\x7d)"
    let levels := "monitor/get(\x7b\n  \"verbosity\": true\n\x7d)"
    let drop := "monitor/trace(\x7b\n  \"drop\": true\n\x7d)"
    let accepted := "\x7b\n  \"jtype\": \"afb-reply\",\n  \"request\": \x7b\n" ++
      "    \"status\": \"success\"\n  \x7d,\n" ++
      "  \"response\": \x7b\n    \"uuid\": \"5c3f\",\n    \"token\": \"HELLO\"\n  \x7d\n\x7d"
    let refused := "\x7b\n  \"jtype\": \"afb-reply\",\n  \"request\": \x7b\n" ++
      "    \"status\": \"denied\",\n    \"info\": \"no\"\n  \x7d\n\x7d"
    ((new line config).run steps).feed.entries =
        [⟨.retok, "receive success", session ++ " -> " ++ accepted⟩,
          ⟨.call, "send request", levels⟩,
          ⟨.reterr, "receive error", levels ++ " -> " ++ refused⟩,
          ⟨.call, "send request", drop⟩,
          ⟨.reterr, "receive error", drop ++ " -> failed to send frame: broken pipe"⟩] ∧
      ((new line config).sinceClear offered [] steps).filter LogEntry.isSend =
        [⟨.call, "send request", session⟩, ⟨.call, "send request", levels⟩,
          ⟨.call, "send request", drop⟩] := by
  intro settlements line config steps session levels drop accepted refused
  obtain ⟨hlog, hsends, -⟩ := log_recounts_calls line config steps
  exact ⟨hlog.trans (by decide +kernel), hsends.trans (by decide +kernel)⟩

end Run

end Session

end LiveTrace
