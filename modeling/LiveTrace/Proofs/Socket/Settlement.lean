import LiveTrace.Proofs.Entries
import LiveTrace.Wire.Socket
/-!
# LiveTrace.Proofs.Socket.Settlement

**Calls of a connection are settled exactly once.** Whatever happens to a connection and in
whatever order, a call that was issued either waits in the table of pending calls or is settled,
never both, and what it was settled with never changes (`Socket.calls_settle_once`). Once the
connection has ended in any way nothing waits any more: what waited then and what is issued later
is settled as closed.

The invariant is `Socket.Accounted`: the calls that wait and the calls that are settled are together
a permutation of the calls that were issued. A permutation says "each of them", "never both" and
"at most once" in one statement, and every step but one moves calls from one list to the other or
adds a new one. The exception is the step that settles a single call: it removes every pending call
with an identifier and settles one of them, which is the same thing as long as identifiers differ,
that is for the first `2 ^ 64` calls.
-/

namespace LiveTrace

namespace Socket

/-! ### Identifiers -/

theorem toString_injective {m n : Nat} (h : toString m = toString n) : m = n := by
  have hdigits := congrArg (fun s : String => Nat.ofDigitChars 10 s.toList 0) h
  simpa [toString, Nat.repr, Nat.ofDigitChars_ten_toDigits] using hdigits

/-- Identifiers repeat only after `2 ^ 64` calls. -/
theorem identifier_injective {m n : Nat} (hm : m < identifiers) (hn : n < identifiers)
    (h : identifier m = identifier n) : m = n := by
  have hmod : (m + 1) % identifiers = (n + 1) % identifiers := toString_injective h
  unfold identifiers at *
  omega

/-! ### What a step can do -/

/-- Whether a step issues a call. -/
def Step.isCall : Step → Bool
  | .call .. => true
  | _ => false

/-- Whether a step ends the connection. -/
def Step.isEnd : Step → Bool
  | .ended | .writeFailed | .close | .drop => true
  | _ => false

/-- Two connections that differ at most in their token and in what was pushed. -/
structure Alike (s s' : Socket) : Prop where
  pending : s'.pending = s.pending
  settled : s'.settled = s.settled
  issued : s'.issued = s.issued
  closed : s'.closed = s.closed
  reading : s'.reading = s.reading

theorem Alike.refl (s : Socket) : Alike s s := ⟨rfl, rfl, rfl, rfl, rfl⟩

/-- The four things that a step can do to the calls of a connection. -/
inductive Effect (s : Socket) (e : Step) : Socket → Prop
  /-- Nothing. -/
  | quiet {s' : Socket} (h : Alike s s') (he : e.isCall = false) : Effect s e s'
  /-- Settle the call of an identifier. -/
  | settle {s' : Socket} (h : Alike s s') (he : e.isCall = false) (id : String)
      (outcome : Settlement) : Effect s e (s'.settle id outcome)
  /-- Issue a call. -/
  | call (he : e.isCall = true) (apiVerb : String) (args : Json) :
      Effect s e (s.call apiVerb args).2
  /-- Let every pending call fail. -/
  | fail (he : e.isCall = false) (reading : Bool) : Effect s e { s.failAll with reading }

theorem effect_receiveReply {e : Step} (he : e.isCall = false) (s : Socket) (id : String)
    (v : Json) (rejected : Bool) : Effect s e (s.receiveReply id v rejected) := by
  unfold receiveReply
  split
  · rename_i r _
    have htoken : Alike s { s with token := announced r <|> s.token } := ⟨rfl, rfl, rfl, rfl, rfl⟩
    exact .settle htoken he id (.ok r)
  · exact .settle (.refl s) he ..

theorem effect_receive {e : Step} (he : e.isCall = false) (s : Socket) (text : String) :
    Effect s e (s.receive text) := by
  unfold receive
  split
  · split
    · rename_i f _
      cases f with
      | call id apiVerb args => exact .quiet (.refl s) he
      | success id reply => exact effect_receiveReply he ..
      | failure id reply => exact effect_receiveReply he ..
      | event name message => exact .quiet ⟨rfl, rfl, rfl, rfl, rfl⟩ he
    · exact .quiet (.refl s) he
  · exact .quiet (.refl s) he

/-- Everything that the proofs below use of a step. -/
theorem effect_step (s : Socket) (e : Step) : Effect s e (s.step e) := by
  cases e with
  | call apiVerb args => exact .call rfl apiVerb args
  | unsent n => exact .settle (.refl s) rfl ..
  | text text => exact effect_receive rfl s text
  | noise => exact .quiet (.refl s) rfl
  | ended =>
    simp only [step]
    split
    · exact .fail rfl false
    · exact .quiet (.refl s) rfl
  | writeFailed => exact .fail rfl s.reading
  | close => exact .fail rfl false
  | drop => exact .fail rfl false

/-! ### The invariant -/

/-- The calls that wait for a reply, oldest first. -/
def waiting (s : Socket) : List Nat := s.pending.map Prod.snd

/-- The calls that are settled, in the order in which they were. -/
def done (s : Socket) : List Nat := s.settled.map Prod.fst

/-- Calls that are settled as closed. -/
def lost (calls : List Nat) : List (Nat × Settlement) := calls.map fun n => (n, .error .closed)

theorem lost_append (l m : List Nat) : lost (l ++ m) = lost l ++ lost m := List.map_append

/-- **The invariant of a connection.** -/
structure Accounted (s : Socket) : Prop where
  /-- Every issued call waits or is settled, once. -/
  perm : (s.waiting ++ s.done).Perm (List.range s.issued)
  /-- Calls wait under their identifiers. -/
  keyed : ∀ e ∈ s.pending, e.1 = identifier e.2
  /-- Nothing waits on a closed connection. -/
  closed : s.closed = true → s.pending = []
  /-- Reading stops only when the connection is closed. -/
  reading : s.reading = false → s.closed = true

theorem accounted_opened (t : ConnectTarget) : Accounted (opened t) where
  perm := by simp [opened, waiting, done]
  keyed := by simp [opened]
  closed := by simp [opened]
  reading := by simp [opened]

namespace Accounted

variable {s : Socket}

/-- What waits was issued. -/
theorem lt_issued (h : Accounted s) {n : Nat} (hn : n ∈ s.waiting) : n < s.issued :=
  List.mem_range.1 (h.perm.subset (List.mem_append_left _ hn))

/-- Pending calls have different identifiers. -/
theorem nodup_keys (h : Accounted s) (hs : s.issued ≤ identifiers) :
    (s.pending.map Prod.fst).Nodup := by
  have hkeys : s.pending.map Prod.fst = s.waiting.map identifier := by
    rw [waiting, List.map_map]
    exact List.map_congr_left h.keyed
  have hnodup : s.waiting.Nodup := (h.perm.nodup_iff.2 List.nodup_range).of_append_left
  rw [hkeys]
  refine hnodup.map_on fun m hm n hn hmn => identifier_injective ?_ ?_ hmn
  · exact Nat.lt_of_lt_of_le (h.lt_issued hm) hs
  · exact Nat.lt_of_lt_of_le (h.lt_issued hn) hs

theorem alike (h : Accounted s) {s' : Socket} (ha : Alike s s') : Accounted s' where
  perm := by simpa only [waiting, done, ha.pending, ha.settled, ha.issued] using h.perm
  keyed := by rw [ha.pending]; exact h.keyed
  closed := by rw [ha.pending, ha.closed]; exact h.closed
  reading := by rw [ha.reading, ha.closed]; exact h.reading

/-- One call moves from the pending ones to the settled ones. -/
theorem settle (h : Accounted s) (hs : s.issued ≤ identifiers) (id : String)
    (outcome : Settlement) : Accounted (s.settle id outcome) := by
  unfold Socket.settle
  split
  · rename_i n hn
    have hmove := Entries.perm_cons_filter (h.nodup_keys hs) hn
    refine ⟨?_, ?_, ?_, h.reading⟩
    · -- what the filter takes out is the one call that is settled
      refine List.Perm.trans ?_ h.perm
      have hwaiting : s.waiting.Perm (n :: (s.pending.filter fun e => e.1 != id).map Prod.snd) :=
        hmove.map Prod.snd
      simp only [waiting, done, List.map_append, List.map_cons, List.map_nil] at hwaiting ⊢
      rw [← List.append_assoc]
      exact List.perm_append_comm.trans (hwaiting.symm.append_right _)
    · intro e he
      exact h.keyed e (List.mem_filter.1 he).1
    · intro hc
      simp [h.closed hc]
  · exact h

/-- A call joins the pending ones, or the settled ones if the connection is closed. -/
theorem call (h : Accounted s) (apiVerb : String) (args : Json) :
    Accounted (s.call apiVerb args).2 := by
  unfold Socket.call
  split
  · refine ⟨?_, h.keyed, h.closed, h.reading⟩
    have hperm := h.perm.append_right [s.issued]
    rw [← List.range_succ, List.append_assoc] at hperm
    simpa [waiting, done] using hperm
  · rename_i hc
    refine ⟨?_, ?_, ?_, h.reading⟩
    · -- the new call is the last of those that wait, so it moves past the settled ones
      have hmove :
          (s.waiting ++ [s.issued] ++ s.done).Perm (s.waiting ++ s.done ++ [s.issued]) := by
        rw [List.append_assoc, List.append_assoc]
        exact List.perm_append_comm.append_left _
      rw [List.range_succ]
      refine List.Perm.trans ?_ (hmove.trans (h.perm.append_right _))
      simp [waiting, done]
    · intro e he
      rcases List.mem_append.1 he with he | he
      · exact h.keyed e he
      · rw [List.mem_singleton.1 he]
    · exact fun hclosed => absurd hclosed hc

/-- The pending calls are settled, all of them. -/
theorem fail (h : Accounted s) (reading : Bool) : Accounted { s.failAll with reading } where
  perm := by
    refine List.Perm.trans ?_ h.perm
    have hdone : s.failAll.done = s.done ++ s.waiting := by
      simp [failAll, done, waiting, Function.comp_def]
    show s.failAll.done.Perm _
    rw [hdone]
    exact List.perm_append_comm
  keyed := by simp [failAll]
  closed := fun _ => rfl
  reading := fun _ => rfl

/-- **Every step keeps the invariant**, as long as identifiers are not used twice. -/
theorem effect (h : Accounted s) (hs : s.issued ≤ identifiers) {e : Step} {s' : Socket}
    (he : Effect s e s') : Accounted s' := by
  cases he with
  | quiet ha _ => exact h.alike ha
  | settle ha _ id outcome => exact (h.alike ha).settle (ha.issued ▸ hs) id outcome
  | call _ apiVerb args => exact h.call apiVerb args
  | fail _ reading => exact h.fail reading

end Accounted

/-! ### Runs -/

/-- How many calls are issued in a run. -/
def callCount (steps : List Step) : Nat := steps.countP Step.isCall

theorem callCount_cons (e : Step) (steps : List Step) :
    callCount (e :: steps) = callCount [e] + callCount steps := by
  rw [← List.singleton_append]
  exact List.countP_append

theorem run_append (s : Socket) (before after : List Step) :
    s.run (before ++ after) = (s.run before).run after := List.foldl_append

/-- Calls are counted by the steps that issue them. -/
theorem Effect.issued {s s' : Socket} {e : Step} (he : Effect s e s') :
    s'.issued = s.issued + callCount [e] := by
  cases he with
  | quiet ha he => simp [callCount, he, ha.issued]
  | settle ha he id outcome =>
    unfold Socket.settle
    split <;> simp [callCount, he, ha.issued]
  | call he apiVerb args =>
    unfold Socket.call
    split <;> simp [callCount, he]
  | fail he reading => simp [callCount, he, failAll]

theorem issued_run (s : Socket) (steps : List Step) :
    (s.run steps).issued = s.issued + callCount steps := by
  induction steps generalizing s with
  | nil => rfl
  | cons e steps ih =>
    have hrun : s.run (e :: steps) = (s.step e).run steps := rfl
    rw [hrun, ih, callCount_cons e steps, (effect_step s e).issued, Nat.add_assoc]

theorem Accounted.run {s : Socket} (h : Accounted s) {steps : List Step}
    (hs : s.issued + callCount steps ≤ identifiers) : Accounted (s.run steps) := by
  induction steps generalizing s with
  | nil => exact h
  | cons e steps ih =>
    rw [callCount_cons e steps] at hs
    have hissued := (effect_step s e).issued
    exact ih (h.effect (by omega) (effect_step s e)) (by omega)

/-- A step only adds settlements, after those that there are. -/
theorem Effect.settled_extends {s s' : Socket} {e : Step} (he : Effect s e s') :
    s.settled <+: s'.settled := by
  cases he with
  | quiet ha _ => exact ha.settled ▸ List.prefix_rfl
  | settle ha _ id outcome =>
    unfold Socket.settle
    split
    · exact ha.settled ▸ List.prefix_append ..
    · exact ha.settled ▸ List.prefix_rfl
  | call _ apiVerb args =>
    unfold Socket.call
    split
    · exact List.prefix_append ..
    · exact List.prefix_rfl
  | fail _ reading => exact List.prefix_append ..

theorem settled_run_prefix (s : Socket) (steps : List Step) :
    s.settled <+: (s.run steps).settled := by
  induction steps generalizing s with
  | nil => exact List.prefix_rfl
  | cons e steps ih => exact (effect_step s e).settled_extends.trans (ih (s.step e))

/-! ### The end of a connection -/

/-- The connection is closed, and nothing waits. -/
structure Ended (s : Socket) : Prop where
  closed : s.closed = true
  pending : s.pending = []

/-- An ending step settles what waits, whether or not the connection had ended before. -/
theorem Accounted.ended {s : Socket} (h : Accounted s) {e : Step} (he : e.isEnd = true) :
    Ended (s.step e) ∧ (s.step e).settled = s.settled ++ lost s.waiting := by
  have hlost : s.failAll.settled = s.settled ++ lost s.waiting := by
    simp [failAll, lost, waiting, Function.comp_def]
  cases e with
  | ended =>
    by_cases hr : s.reading = true
    · have hstep : s.step .ended = s.stop := if_pos hr
      rw [hstep]
      exact ⟨⟨rfl, rfl⟩, hlost⟩
    · -- the reader has stopped already, and so nothing waits
      have hstep : s.step .ended = s := if_neg hr
      have hc : s.closed = true := h.reading (by simpa using hr)
      rw [hstep, waiting, h.closed hc]
      exact ⟨⟨hc, h.closed hc⟩, by simp [lost]⟩
  | writeFailed => exact ⟨⟨rfl, rfl⟩, hlost⟩
  | close => exact ⟨⟨rfl, rfl⟩, hlost⟩
  | drop => exact ⟨⟨rfl, rfl⟩, hlost⟩
  | call | unsent | text | noise => simp [Step.isEnd] at he

/-- After the end calls are settled as closed when they are issued, and nothing else is settled. -/
theorem Ended.effect {s s' : Socket} {e : Step} (h : Ended s) (he : Effect s e s') :
    Ended s' ∧ s'.settled = s.settled ++ lost (List.range' s.issued (callCount [e])) := by
  cases he with
  | quiet ha he =>
    -- no call is issued, and so nothing is lost
    refine ⟨⟨ha.closed.trans h.closed, ha.pending.trans h.pending⟩, ?_⟩
    simp [callCount, he, lost, ha.settled]
  | @settle s' ha he id outcome =>
    have hp : s'.pending = [] := ha.pending.trans h.pending
    have hs : s'.settle id outcome = s' := by simp [Socket.settle, hp, Entries.lookup?]
    rw [hs]
    refine ⟨⟨ha.closed.trans h.closed, hp⟩, ?_⟩
    simp [callCount, he, lost, ha.settled]
  | call he apiVerb args =>
    have hcall : (s.call apiVerb args).2 =
        { s with issued := s.issued + 1, settled := s.settled ++ lost [s.issued] } := by
      simp [Socket.call, h.closed, lost]
    rw [hcall]
    refine ⟨⟨h.closed, h.pending⟩, ?_⟩
    simp [callCount, he]
  | fail he reading =>
    refine ⟨⟨rfl, rfl⟩, ?_⟩
    simp [callCount, he, lost, failAll, h.pending]

theorem Ended.run {s : Socket} (h : Ended s) (steps : List Step) :
    Ended (s.run steps) ∧
      (s.run steps).settled = s.settled ++ lost (List.range' s.issued (callCount steps)) := by
  induction steps generalizing s with
  | nil => exact ⟨h, by simp [Socket.run, callCount, lost]⟩
  | cons e steps ih =>
    have hrun : s.run (e :: steps) = (s.step e).run steps := rfl
    obtain ⟨hended, hstep⟩ := h.effect (effect_step s e)
    obtain ⟨hlast, hsteps⟩ := ih hended
    refine ⟨hlast, ?_⟩
    rw [hrun, hsteps, hstep, (effect_step s e).issued, callCount_cons e steps, List.append_assoc,
      ← lost_append, List.range'_append_1]

/-! ### Every call is settled once -/

/-- **Calls are settled exactly once.** In a connection with fewer than `2 ^ 64` calls, after any
steps in any order:

* each call that was issued waits or is settled, and never both;
* no call is settled twice, and a settlement, once made, stays;
* after a step that ends the connection nothing waits, the calls that waited before that step are
  settled as closed, then those that were issued later, and nothing else is settled any more. -/
theorem calls_settle_once (t : ConnectTarget) (steps : List Step)
    (h : callCount steps < identifiers) :
    let s := (opened t).run steps
    s.issued = callCount steps ∧
      (∀ n < s.issued, n ∈ s.waiting ∧ n ∉ s.done ∨ n ∉ s.waiting ∧ n ∈ s.done) ∧
      s.done.Nodup ∧
      (∀ before after, steps = before ++ after → ((opened t).run before).settled <+: s.settled) ∧
      ∀ before e after, steps = before ++ e :: after → e.isEnd = true →
        let b := (opened t).run before
        s.waiting = [] ∧
          s.settled =
            b.settled ++ lost b.waiting ++ lost (List.range' b.issued (callCount after)) := by
  intro s
  have hissued : s.issued = callCount steps := by
    rw [issued_run]
    exact Nat.zero_add _
  have hs : Accounted s := (accounted_opened t).run (by simpa [opened] using Nat.le_of_lt h)
  have hnodup : (s.waiting ++ s.done).Nodup := hs.perm.nodup_iff.2 List.nodup_range
  refine ⟨hissued, ?_, hnodup.of_append_right, ?_, ?_⟩
  · intro n hn
    have hmem : n ∈ s.waiting ++ s.done := hs.perm.mem_iff.2 (List.mem_range.2 hn)
    rcases List.mem_append.1 hmem with hw | hd
    · exact .inl ⟨hw, fun hd => List.disjoint_of_nodup_append hnodup hw hd⟩
    · exact .inr ⟨fun hw => List.disjoint_of_nodup_append hnodup hw hd, hd⟩
  · rintro before after rfl
    show ((opened t).run before).settled <+: ((opened t).run (before ++ after)).settled
    rw [run_append]
    exact settled_run_prefix ..
  · rintro before e after rfl he b
    have hb : Accounted b := by
      refine (accounted_opened t).run ?_
      have hcount : callCount (before ++ e :: after) = callCount before + callCount (e :: after) :=
        List.countP_append
      simp only [opened]
      omega
    have hs' : s = (b.step e).run after := by
      show (opened t).run (before ++ e :: after) = _
      rw [run_append]
      rfl
    have hsame : (b.step e).issued = b.issued := by
      rw [(effect_step b e).issued]
      cases e <;> first | rfl | simp [Step.isEnd] at he
    obtain ⟨hended, hlost⟩ := hb.ended he
    obtain ⟨hlast, hlater⟩ := hended.run after
    rw [hs', hlater, hlost, hsame, waiting, hlast.pending]
    exact ⟨rfl, rfl⟩

/-- A call before the end, one whose message could not be handed over, and one after the end. -/
theorem calls_settle_once_closing :
    let steps : List Step := [.call "monitor/get" .null, .call "monitor/set" .null, .unsent 1,
      .noise, .close, .call "monitor/get" .null]
    callCount steps < identifiers ∧
      ((opened ⟨"localhost", none⟩).run steps).settled = lost [1] ++ lost [0] ++ lost [2] := by
  intro steps
  have h : callCount steps < identifiers := by decide
  refine ⟨h, ?_⟩
  obtain ⟨-, -, -, -, hend⟩ := calls_settle_once ⟨"localhost", none⟩ steps h
  obtain ⟨-, hsettled⟩ := hend [.call "monitor/get" .null, .call "monitor/set" .null, .unsent 1,
    .noise] .close [.call "monitor/get" .null] rfl rfl
  rw [hsettled]
  rfl

end Socket

end LiveTrace
