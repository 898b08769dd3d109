import Mathlib
import LiveTrace.Proofs.Entries
import LiveTrace.Proofs.Socket.Settlement
import LiveTrace.Proofs.Wire.Frame
/-!
# LiveTrace.Proofs.Socket.Correlation

**A reply settles the call that it answers, and no other.** A pending call waits for the first step
that decides about it: a reply to its identifier, or the end of the connection, or that its own
message cannot be handed over (`Socket.Step.verdict?`). That step settles it
(`Socket.Accounted.outcome?_run`), and no other step changes anything about it. So a call is settled
by a reply if and only if one to its identifier arrives while it is pending, and replies to several
calls may arrive in any order, among any pushed events (`Socket.replies_settle_their_calls`).
-/

namespace LiveTrace

/-- How a reply settles the call that it answers. -/
def Reply.settlement (v : Json) (rejected : Bool) : Settlement :=
  match Reply.ofJson v rejected with
  | .ok r => .ok r
  | .error e => .error (.violation e.message)

theorem Reply.settlement_ne_closed (v : Json) (rejected : Bool) :
    Reply.settlement v rejected ≠ .error .closed := by
  unfold Reply.settlement
  cases Reply.ofJson v rejected <;> simp

namespace Socket

/-! ### What a step decides -/

/-- The reply that a text brings: the identifier of the call that it answers, and how it settles
it. -/
def reply? (text : String) : Option (String × Settlement) :=
  match Frame.decode text with
  | .ok (.success id reply) => some (id, Reply.settlement reply false)
  | .ok (.failure id reply) => some (id, Reply.settlement reply true)
  | _ => none

/-- What a step decides about a pending call. -/
def Step.verdict? (n : Nat) : Step → Option Settlement
  | .call .. | .noise => none
  | .unsent m => if identifier n = identifier m then some (.error .closed) else none
  | .text t => (reply? t).bind fun e => if identifier n = e.1 then some e.2 else none
  | .ended | .writeFailed | .close | .drop => some (.error .closed)

/-- How a call is settled, if it is. -/
def outcome? (s : Socket) (n : Nat) : Option Settlement := Entries.lookup? n s.settled

theorem reply?_of_carries {text id : String} {reply : Json} {rejected : Bool}
    (h : Frame.Carries text id reply rejected) :
    reply? text = some (id, Reply.settlement reply rejected) := by
  rw [reply?, Frame.decode_eq_ofReply_iff.2 h]
  cases rejected <;> rfl

theorem carries_of_reply? {text id : String} {outcome : Settlement}
    (h : reply? text = some (id, outcome)) :
    ∃ reply rejected, Frame.Carries text id reply rejected ∧
      outcome = Reply.settlement reply rejected := by
  unfold reply? at h
  split at h
  · rename_i id' reply hdecode
    obtain ⟨rfl, rfl⟩ := Prod.mk.inj (Option.some.inj h)
    exact ⟨reply, false, Frame.decode_eq_ofReply_iff.1 hdecode, rfl⟩
  · rename_i id' reply hdecode
    obtain ⟨rfl, rfl⟩ := Prod.mk.inj (Option.some.inj h)
    exact ⟨reply, true, Frame.decode_eq_ofReply_iff.1 hdecode, rfl⟩
  · contradiction

theorem reply?_of_isEvent {text : String} (h : Frame.IsEvent text) : reply? text = none := by
  obtain ⟨name, message, hdecode⟩ := h
  rw [reply?, hdecode]

/-- A text decides about a call if it is a reply to its identifier. -/
theorem verdict?_text_eq_some_iff {n : Nat} {text : String} {outcome : Settlement} :
    Step.verdict? n (.text text) = some outcome ↔ reply? text = some (identifier n, outcome) := by
  rw [Step.verdict?]
  cases reply? text with
  | none => simp
  | some e => simp [Prod.ext_iff, eq_comm]

/-- Only a reply settles a call as anything but closed. -/
theorem verdict?_eq_some_iff {n : Nat} {e : Step} {outcome : Settlement}
    (hne : outcome ≠ .error .closed) :
    Step.verdict? n e = some outcome ↔
      ∃ text, e = .text text ∧ reply? text = some (identifier n, outcome) := by
  cases e with
  | text text => simp [verdict?_text_eq_some_iff]
  | unsent m =>
    have hne' : Except.error ChannelError.closed ≠ outcome := hne.symm
    by_cases hid : identifier n = identifier m <;> simp [Step.verdict?, hid, hne']
  | call | noise => simp [Step.verdict?]
  | ended | writeFailed | close | drop => simp [Step.verdict?, hne.symm]

/-! ### Settling a call -/

/-- While the connection is read, a text settles the call that it answers, if it is a reply, and
does nothing about calls otherwise. -/
theorem step_text (s : Socket) (hreading : s.reading = true) (text : String) :
    ∃ s', Alike s s' ∧ s.step (.text text) =
      match reply? text with
      | some (id, outcome) => s'.settle id outcome
      | none => s' := by
  have hreply (id : String) (v : Json) (rejected : Bool) :
      ∃ s', Alike s s' ∧
        s.receiveReply id v rejected = s'.settle id (Reply.settlement v rejected) := by
    unfold receiveReply Reply.settlement
    cases Reply.ofJson v rejected with
    | ok r => exact ⟨{ s with token := announced r <|> s.token }, ⟨rfl, rfl, rfl, rfl, rfl⟩, rfl⟩
    | error e => exact ⟨s, .refl s, rfl⟩
  show ∃ s', Alike s s' ∧ s.receive text = _
  rw [receive, if_pos hreading]
  unfold reply?
  cases Frame.decode text with
  | error e => exact ⟨s, .refl s, rfl⟩
  | ok f =>
    cases f with
    | call id apiVerb args => exact ⟨s, .refl s, rfl⟩
    | success id reply => exact hreply id reply false
    | failure id reply => exact hreply id reply true
    | event name message =>
      exact ⟨{ s with events := s.events ++ [.ofMessage name message] },
        ⟨rfl, rfl, rfl, rfl, rfl⟩, rfl⟩

theorem outcome?_eq_none_iff {s : Socket} {n : Nat} : s.outcome? n = none ↔ n ∉ s.done := by
  rw [done, ← Table.isSome_lookup?, outcome?, Bool.not_eq_true, Option.isSome_eq_false_iff,
    Option.isNone_iff_eq_none]

theorem lookup?_lost (n : Nat) (calls : List Nat) :
    Entries.lookup? n (lost calls) = if n ∈ calls then some (.error .closed) else none := by
  induction calls with
  | nil => rfl
  | cons m calls ih =>
    have hcons : lost (m :: calls) = (m, .error .closed) :: lost calls := rfl
    by_cases h : n = m <;> simp [hcons, Entries.lookup?, h, ih]

theorem Alike.outcome? {s s' : Socket} (h : Alike s s') (n : Nat) :
    s'.outcome? n = s.outcome? n := by
  rw [Socket.outcome?, h.settled, Socket.outcome?]

theorem Alike.mem_waiting {s s' : Socket} (h : Alike s s') {n : Nat} :
    n ∈ s'.waiting ↔ n ∈ s.waiting := by
  rw [waiting, h.pending, waiting]

namespace Accounted

variable {s : Socket}

theorem outcome?_of_mem_waiting (h : Accounted s) {n : Nat} (hn : n ∈ s.waiting) :
    s.outcome? n = none := by
  have hnodup : (s.waiting ++ s.done).Nodup := h.perm.nodup_iff.2 List.nodup_range
  exact outcome?_eq_none_iff.2 fun hd => List.disjoint_of_nodup_append hnodup hn hd

theorem mem_waiting_iff (h : Accounted s) {n : Nat} :
    n ∈ s.waiting ↔ n < s.issued ∧ s.outcome? n = none := by
  constructor
  · intro hn
    exact ⟨h.lt_issued hn, h.outcome?_of_mem_waiting hn⟩
  · rintro ⟨hissued, hnone⟩
    have hmem : n ∈ s.waiting ++ s.done := h.perm.mem_iff.2 (List.mem_range.2 hissued)
    exact (List.mem_append.1 hmem).resolve_right (outcome?_eq_none_iff.1 hnone)

theorem closed_of_mem_waiting (h : Accounted s) {n : Nat} (hn : n ∈ s.waiting) :
    s.closed = false := by
  by_contra hc
  simp [waiting, h.closed (by simpa using hc)] at hn

theorem reading_of_mem_waiting (h : Accounted s) {n : Nat} (hn : n ∈ s.waiting) :
    s.reading = true := by
  by_contra hr
  have hc := h.reading (by simpa using hr)
  rw [h.closed_of_mem_waiting hn] at hc
  contradiction

/-- The table of pending calls finds a call under its identifier, and under no other. -/
theorem lookup?_pending (h : Accounted s) (hs : s.issued ≤ identifiers) {id : String} {n : Nat} :
    Entries.lookup? id s.pending = some n ↔ n ∈ s.waiting ∧ identifier n = id := by
  rw [Entries.lookup?_eq_some_iff (h.nodup_keys hs)]
  constructor
  · intro hmem
    exact ⟨List.mem_map.2 ⟨_, hmem, rfl⟩, (h.keyed _ hmem).symm⟩
  · rintro ⟨hn, rfl⟩
    obtain ⟨e, he, rfl⟩ := List.mem_map.1 hn
    rw [← h.keyed e he]
    exact he

/-- Settling an identifier settles the pending call that has it, and changes no other call. -/
theorem outcome?_settle (h : Accounted s) (hs : s.issued ≤ identifiers) (id : String)
    (outcome : Settlement) (n : Nat) :
    (s.settle id outcome).outcome? n =
      if n ∈ s.waiting ∧ identifier n = id then some outcome else s.outcome? n := by
  have hpending : Entries.lookup? id s.pending = some n ↔ n ∈ s.waiting ∧ identifier n = id :=
    h.lookup?_pending hs
  unfold Socket.settle
  split
  · rename_i m hm
    have hcall : (n ∈ s.waiting ∧ identifier n = id) ↔ n = m := by
      rw [← hpending, hm, Option.some_inj, eq_comm]
    have hsettled : Entries.lookup? n (s.settled ++ [(m, outcome)]) =
        (s.outcome? n).or (if n = m then some outcome else none) := by
      rw [Entries.lookup?_append]
      by_cases hnm : n = m <;> simp [Entries.lookup?, outcome?, hnm]
    simp only [hcall]
    refine hsettled.trans ?_
    by_cases hnm : n = m
    · rw [if_pos hnm, if_pos hnm, h.outcome?_of_mem_waiting (hcall.2 hnm).1, Option.none_or]
    · rw [if_neg hnm, if_neg hnm, Option.or_none]
  · rename_i hnone
    rw [if_neg fun hcall => by simp [hpending.2 hcall] at hnone]

/-- A text settles the pending call that it answers, and changes no other call. -/
theorem outcome?_text (h : Accounted s) (hs : s.issued ≤ identifiers) (text : String) (n : Nat) :
    (s.step (.text text)).outcome? n =
      if n ∈ s.waiting then Step.verdict? n (.text text) else s.outcome? n := by
  by_cases hr : s.reading = true
  · obtain ⟨s', ha, hstep⟩ := step_text s hr text
    rw [hstep, Step.verdict?]
    cases reply? text with
    | none =>
      rw [ha.outcome? n]
      split
      · rename_i hn
        exact h.outcome?_of_mem_waiting hn
      · rfl
    | some e =>
      have hsettle := (h.alike ha).outcome?_settle (ha.issued ▸ hs) e.1 e.2 n
      simp only [ha.mem_waiting, ha.outcome? n] at hsettle
      refine hsettle.trans ?_
      by_cases hn : n ∈ s.waiting
      · simp [hn, h.outcome?_of_mem_waiting hn]
      · simp [hn]
  · -- the reader has stopped, and so nothing waits
    have hn : n ∉ s.waiting := fun hn => hr (h.reading_of_mem_waiting hn)
    have hstep : s.step (.text text) = s := if_neg hr
    rw [hstep, if_neg hn]

/-- A text takes from the pending calls the one that it answers. -/
theorem mem_waiting_text (h : Accounted s) (hs : s.issued ≤ identifiers) (text : String)
    (n : Nat) :
    n ∈ (s.step (.text text)).waiting ↔
      n ∈ s.waiting ∧ Step.verdict? n (.text text) = none := by
  have heffect := effect_step s (.text text)
  have hissued : (s.step (.text text)).issued = s.issued := heffect.issued
  rw [(h.effect hs heffect).mem_waiting_iff, hissued, h.outcome?_text hs text n]
  by_cases hn : n ∈ s.waiting
  · simp [hn, h.lt_issued hn]
  · rw [if_neg hn, ← h.mem_waiting_iff]
    simp [hn]

/-- The end of the connection settles what waits, and changes no other call. -/
theorem outcome?_end (h : Accounted s) {e : Step} (he : e.isEnd = true) (n : Nat) :
    (s.step e).outcome? n = if n ∈ s.waiting then some (.error .closed) else s.outcome? n := by
  rw [Socket.outcome?, (h.ended he).2, Entries.lookup?_append, lookup?_lost, ← Socket.outcome?]
  by_cases hn : n ∈ s.waiting
  · rw [if_pos hn, if_pos hn, h.outcome?_of_mem_waiting hn, Option.none_or]
  · rw [if_neg hn, if_neg hn, Option.or_none]

/-- What a step decides about a pending call is what becomes of it. -/
theorem outcome?_step (h : Accounted s) (hs : s.issued ≤ identifiers) {n : Nat}
    (hn : n ∈ s.waiting) (e : Step) : (s.step e).outcome? n = Step.verdict? n e := by
  have hnone : s.outcome? n = none := h.outcome?_of_mem_waiting hn
  cases e with
  | call apiVerb args =>
    have hopen : ¬s.closed = true := by simp [h.closed_of_mem_waiting hn]
    rw [step, Socket.call, if_neg hopen]
    exact hnone
  | unsent m =>
    refine (h.outcome?_settle hs (identifier m) (.error .closed) n).trans ?_
    simp [Step.verdict?, hn, hnone]
  | text text => rw [h.outcome?_text hs text n, if_pos hn]
  | noise => exact hnone
  | ended | writeFailed | close | drop => rw [h.outcome?_end rfl n, if_pos hn, Step.verdict?]

/-- Nothing becomes of a call that does not wait, but that a new one may be closed at once. -/
theorem outcome?_step_of_not_mem_waiting (h : Accounted s) (hs : s.issued ≤ identifiers) {n : Nat}
    (hn : n ∉ s.waiting) (e : Step) {outcome : Settlement} (hne : outcome ≠ .error .closed) :
    (s.step e).outcome? n = some outcome ↔ s.outcome? n = some outcome := by
  cases e with
  | call apiVerb args =>
    rw [step, Socket.call]
    split
    · -- the new call is settled as closed, which is not `outcome`
      have hnew : Entries.lookup? n [(s.issued, Except.error ChannelError.closed)] ≠
          some outcome := by
        by_cases hissued : n = s.issued <;> simp [Entries.lookup?, hissued, hne.symm]
      rw [Socket.outcome?, Entries.lookup?_append, ← Socket.outcome?]
      cases s.outcome? n <;> simp [hnew]
    · rfl
  | unsent m =>
    have hsettle : (s.unsent m).outcome? n = s.outcome? n := by
      refine (h.outcome?_settle hs (identifier m) (.error .closed) n).trans ?_
      simp [hn]
    rw [step, hsettle]
  | text text => rw [h.outcome?_text hs text n, if_neg hn]
  | noise => rfl
  | ended | writeFailed | close | drop => rw [h.outcome?_end rfl n, if_neg hn]

/-! ### Runs -/

/-- A call that waits gets what the first step decides that decides about it. -/
theorem outcome?_run (h : Accounted s) {steps : List Step}
    (hs : s.issued + callCount steps ≤ identifiers) {n : Nat} (hn : n ∈ s.waiting) :
    (s.run steps).outcome? n = steps.findSome? (Step.verdict? n) := by
  induction steps generalizing s with
  | nil => exact h.outcome?_of_mem_waiting hn
  | cons e steps ih =>
    rw [callCount_cons e steps] at hs
    have hissued := (effect_step s e).issued
    have hle : s.issued ≤ identifiers := by omega
    have hstep : Accounted (s.step e) := h.effect hle (effect_step s e)
    have houtcome := h.outcome?_step hle hn e
    have hrun : s.run (e :: steps) = (s.step e).run steps := rfl
    rw [hrun, List.findSome?_cons]
    cases hv : Step.verdict? n e with
    | none =>
      have hlt : n < (s.step e).issued := by
        have := h.lt_issued hn
        omega
      exact ih hstep (by omega) (hstep.mem_waiting_iff.2 ⟨hlt, houtcome.trans hv⟩)
    | some outcome =>
      -- the call is settled now, and stays so
      obtain ⟨later, hlater⟩ := settled_run_prefix (s.step e) steps
      rw [hv] at houtcome
      rw [Socket.outcome?, ← hlater, Entries.lookup?_append, ← Socket.outcome?, houtcome,
        Option.some_or]

theorem outcome?_texts (h : Accounted s) (hs : s.issued ≤ identifiers) (texts : List String)
    (n : Nat) :
    (s.run (texts.map .text)).outcome? n =
      if n ∈ s.waiting then texts.findSome? fun text => Step.verdict? n (.text text)
      else s.outcome? n := by
  by_cases hn : n ∈ s.waiting
  · have hcount : callCount (texts.map Step.text) = 0 := by
      simp [callCount, List.countP_map, Step.isCall, Function.comp_def]
    rw [if_pos hn, h.outcome?_run (by omega) hn, List.findSome?_map]
    rfl
  · rw [if_neg hn]
    induction texts generalizing s with
    | nil => rfl
    | cons text texts ih =>
      have heffect := effect_step s (.text text)
      have hissued : (s.step (.text text)).issued = s.issued := heffect.issued
      have hstill : n ∉ (s.step (.text text)).waiting := fun hmem =>
        hn ((h.mem_waiting_text hs text n).1 hmem).1
      have hrest := ih (h.effect hs heffect) (hissued ▸ hs) hstill
      rw [h.outcome?_text hs text n, if_neg hn] at hrest
      exact hrest

theorem outcome?_step_iff (h : Accounted s) (hs : s.issued ≤ identifiers) {n : Nat} {e : Step}
    {outcome : Settlement} (hne : outcome ≠ .error .closed) :
    (s.step e).outcome? n = some outcome ↔
      s.outcome? n = some outcome ∨
        n ∈ s.waiting ∧ ∃ text, e = .text text ∧ reply? text = some (identifier n, outcome) := by
  by_cases hn : n ∈ s.waiting
  · rw [h.outcome?_step hs hn, verdict?_eq_some_iff hne, h.outcome?_of_mem_waiting hn]
    simp [hn]
  · rw [h.outcome?_step_of_not_mem_waiting hs hn e hne]
    simp [hn]

end Accounted

/-- A call is settled as anything but closed by a reply to it that arrives while it waits. -/
theorem outcome?_opened_run_iff (t : ConnectTarget) {steps : List Step}
    (h : callCount steps ≤ identifiers) {n : Nat} {outcome : Settlement}
    (hne : outcome ≠ .error .closed) :
    ((opened t).run steps).outcome? n = some outcome ↔
      ∃ before text after, steps = before ++ .text text :: after ∧
        n ∈ ((opened t).run before).waiting ∧ reply? text = some (identifier n, outcome) := by
  induction steps using List.reverseRecOn with
  | nil => simp [run, opened, outcome?, Entries.lookup?]
  | append_singleton steps e ih =>
    have hcount : callCount (steps ++ [e]) = callCount steps + callCount [e] := List.countP_append
    have hle : callCount steps ≤ identifiers := by omega
    have hissued : ((opened t).run steps).issued ≤ identifiers := by
      rw [issued_run]
      simpa [opened] using hle
    have hs : Accounted ((opened t).run steps) :=
      (accounted_opened t).run (by simpa [opened] using hle)
    have hrun : (opened t).run (steps ++ [e]) = ((opened t).run steps).step e := run_append ..
    rw [hrun, hs.outcome?_step_iff hissued hne, ih hle]
    constructor
    · rintro (⟨before, text, after, rfl, hn, hreply⟩ | ⟨hn, text, rfl, hreply⟩)
      · exact ⟨before, text, after ++ [e], by simp, hn, hreply⟩
      · exact ⟨steps, text, [], rfl, hn, hreply⟩
    · rintro ⟨before, text, after, heq, hn, hreply⟩
      rcases List.eq_nil_or_concat after with rfl | ⟨after, last, rfl⟩
      · obtain ⟨rfl, hlast⟩ := List.append_inj' heq rfl
        exact .inr ⟨hn, text, List.singleton_inj.1 hlast, hreply⟩
      · -- the last step is none of the reply's business
        have hsteps : steps = before ++ .text text :: after := by
          rw [List.concat_eq_append, ← List.cons_append, ← List.append_assoc] at heq
          exact (List.append_inj' heq rfl).1
        exact .inl ⟨before, text, after, hsteps, hn, hreply⟩

/-- One reply for each of some pending calls, in any order and among any events, settles these calls
by their replies, and changes no other call. -/
theorem Accounted.outcome?_deliveries {s : Socket} (h : Accounted s) (hs : s.issued ≤ identifiers)
    {calls : List Nat} (hcalls : ∀ n ∈ calls, n ∈ s.waiting) {answer : Nat → String}
    {outcome : Nat → Settlement}
    (hanswer : ∀ n ∈ calls, reply? (answer n) = some (identifier n, outcome n))
    {events deliveries : List String} (hevents : ∀ text ∈ events, reply? text = none)
    (hperm : deliveries.Perm (calls.map answer ++ events)) (n : Nat) :
    (s.run (deliveries.map .text)).outcome? n =
      if n ∈ calls then some (outcome n) else s.outcome? n := by
  -- the only delivery that decides about a call is the answer to it
  have honly {text : String} {o : Settlement} (hn : n ∈ s.waiting) (htext : text ∈ deliveries)
      (hv : Step.verdict? n (.text text) = some o) : n ∈ calls ∧ o = outcome n := by
    rw [verdict?_text_eq_some_iff] at hv
    rcases List.mem_append.1 (hperm.subset htext) with hmem | hmem
    · obtain ⟨m, hm, rfl⟩ := List.mem_map.1 hmem
      obtain ⟨hid, ho⟩ := Prod.mk.inj (Option.some.inj ((hanswer m hm).symm.trans hv))
      have hmn : m = n := identifier_injective (Nat.lt_of_lt_of_le (h.lt_issued (hcalls m hm)) hs)
        (Nat.lt_of_lt_of_le (h.lt_issued hn) hs) hid
      exact ⟨hmn ▸ hm, hmn ▸ ho.symm⟩
    · rw [hevents text hmem] at hv
      contradiction
  rw [h.outcome?_texts hs deliveries n]
  by_cases hn : n ∈ s.waiting
  · rw [if_pos hn]
    cases hfirst : deliveries.findSome? fun text => Step.verdict? n (.text text) with
    | some o =>
      obtain ⟨text, htext, hv⟩ := List.exists_of_findSome?_eq_some hfirst
      obtain ⟨hmem, rfl⟩ := honly hn htext hv
      rw [if_pos hmem]
    | none =>
      have hmem : n ∉ calls := fun hmem => by
        have hdelivered : answer n ∈ deliveries :=
          hperm.symm.subset (List.mem_append_left _ (List.mem_map_of_mem hmem))
        have hv := verdict?_text_eq_some_iff.2 (hanswer n hmem)
        rw [List.findSome?_eq_none_iff.1 hfirst _ hdelivered] at hv
        contradiction
      rw [if_neg hmem, h.outcome?_of_mem_waiting hn]
  · rw [if_neg hn, if_neg fun hmem => hn (hcalls n hmem)]

/-! ### Replies settle their calls -/

/-- **Replies settle the calls that they answer, in any order.** In a connection with fewer than
`2 ^ 64` calls, after any steps:

* a call is settled as anything but closed if and only if a reply with its identifier arrived while
  it waited, and then it is settled by that reply;
* a text without a reply to a call, and any text once the call does not wait, changes nothing about
  the call;
* one reply for each of some calls that wait, delivered in any order and among any events, settles
  each of them by its own reply, and changes no other call. -/
theorem replies_settle_their_calls (t : ConnectTarget) (steps : List Step)
    (h : callCount steps < identifiers) :
    let s := (opened t).run steps
    (∀ n outcome, s.outcome? n = some outcome ∧ outcome ≠ .error .closed ↔
      ∃ before text after reply rejected, steps = before ++ .text text :: after ∧
        n ∈ ((opened t).run before).waiting ∧
        Frame.Carries text (identifier n) reply rejected ∧
        outcome = Reply.settlement reply rejected) ∧
    (∀ text n, (∀ reply rejected, ¬Frame.Carries text (identifier n) reply rejected) ∨
        n ∉ s.waiting →
      (n ∈ (s.step (.text text)).waiting ↔ n ∈ s.waiting) ∧
        (s.step (.text text)).outcome? n = s.outcome? n) ∧
    ∀ (calls : List Nat) (answer : Nat → String) (reply : Nat → Json) (rejected : Nat → Bool)
      (events deliveries : List String),
      (∀ n ∈ calls, n ∈ s.waiting ∧
        Frame.Carries (answer n) (identifier n) (reply n) (rejected n)) →
      (∀ text ∈ events, Frame.IsEvent text) →
      deliveries.Perm (calls.map answer ++ events) →
      ∀ n, (s.run (deliveries.map .text)).outcome? n =
        if n ∈ calls then some (Reply.settlement (reply n) (rejected n)) else s.outcome? n := by
  intro s
  have hle : callCount steps ≤ identifiers := Nat.le_of_lt h
  have hs : Accounted s := (accounted_opened t).run (by simpa [opened] using hle)
  have hissued : s.issued ≤ identifiers := by
    show ((opened t).run steps).issued ≤ identifiers
    rw [issued_run]
    simpa [opened] using hle
  refine ⟨fun n outcome => ⟨?_, ?_⟩, ?_, ?_⟩
  · rintro ⟨houtcome, hne⟩
    obtain ⟨before, text, after, hsteps, hn, hreply⟩ :=
      (outcome?_opened_run_iff t hle hne).1 houtcome
    obtain ⟨reply, rejected, hcarries, hsettled⟩ := carries_of_reply? hreply
    exact ⟨before, text, after, reply, rejected, hsteps, hn, hcarries, hsettled⟩
  · rintro ⟨before, text, after, reply, rejected, hsteps, hn, hcarries, rfl⟩
    have hne := Reply.settlement_ne_closed reply rejected
    refine ⟨(outcome?_opened_run_iff t hle hne).2 ?_, hne⟩
    exact ⟨before, text, after, hsteps, hn, reply?_of_carries hcarries⟩
  · intro text n hother
    rw [hs.mem_waiting_text hissued, hs.outcome?_text hissued]
    by_cases hn : n ∈ s.waiting
    · have hcarries := hother.resolve_right fun hmem => hmem hn
      have hv : Step.verdict? n (.text text) = none := by
        rw [Option.eq_none_iff_forall_ne_some]
        intro o ho
        obtain ⟨reply, rejected, hreply, -⟩ :=
          carries_of_reply? (verdict?_text_eq_some_iff.1 ho)
        exact hcarries reply rejected hreply
      rw [if_pos hn, hv, hs.outcome?_of_mem_waiting hn]
      simp [hn]
    · simp [hn]
  · intro calls answer reply rejected events deliveries hcalls hevents hperm n
    exact hs.outcome?_deliveries hissued (fun n hn => (hcalls n hn).1)
      (fun n hn => reply?_of_carries (hcalls n hn).2)
      (fun text htext => reply?_of_isEvent (hevents text htext)) hperm n

/-- Two calls whose replies arrive in the other order and with an event between them. The first one
to arrive has a number for an identifier and nothing for a reply. -/
theorem replies_settle_their_calls_reordered :
    let steps : List Step := [.call "monitor/get" .null, .call "monitor/set" .null]
    let deliveries := ["[4,2]", "[5,\"calc/done\"]", "[3,\"1\",\x7b\x7d]"]
    callCount steps < identifiers ∧ ∀ n,
      (((opened ⟨"localhost", none⟩).run steps).run (deliveries.map .text)).outcome? n =
        if n ∈ [0, 1] then
          some (Reply.settlement (if n = 0 then .object [] else .null) (decide (n ≠ 0)))
        else none := by
  intro steps deliveries
  have h : callCount steps < identifiers := by decide
  refine ⟨h, fun n => ?_⟩
  obtain ⟨-, -, hreplies⟩ := replies_settle_their_calls ⟨"localhost", none⟩ steps h
  have hfirst : Frame.Carries "[3,\"1\",\x7b\x7d]" (identifier 0) (.object []) false :=
    ⟨.int 3, .string "1", [.object []], by cbv, rfl, by decide, rfl⟩
  have hsecond : Frame.Carries "[4,2]" (identifier 1) .null true :=
    ⟨.int 4, .int 2, [], by cbv, rfl, by decide, rfl⟩
  have hevent : Frame.IsEvent "[5,\"calc/done\"]" :=
    ⟨"calc/done", .null, by cbv⟩
  refine (hreplies [0, 1] (fun n => if n = 0 then "[3,\"1\",\x7b\x7d]" else "[4,2]")
    (fun n => if n = 0 then .object [] else .null) (fun n => decide (n ≠ 0))
    ["[5,\"calc/done\"]"] deliveries ?_ ?_ ?_ n).trans ?_
  · intro n hn
    rcases List.mem_pair.1 hn with rfl | rfl
    · exact ⟨by decide, hfirst⟩
    · exact ⟨by decide, hsecond⟩
  · intro text htext
    rw [List.mem_singleton.1 htext]
    exact hevent
  · show List.Perm ["[4,2]", "[5,\"calc/done\"]", "[3,\"1\",\x7b\x7d]"]
      ["[3,\"1\",\x7b\x7d]", "[4,2]", "[5,\"calc/done\"]"]
    decide
  · rfl

end Socket

end LiveTrace
