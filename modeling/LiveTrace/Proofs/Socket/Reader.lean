import LiveTrace.Proofs.Socket.Settlement
import LiveTrace.Proofs.Wire.Frame
/-!
# LiveTrace.Proofs.Socket.Reader

**What arrives is told apart, and noise is ignored.** Of the texts that arrive before reading stops
(`Socket.heard`), the events are delivered, all of them and in order, and the last reply with a
token determines the token, whether or not a call waits for the reply
(`Socket.reader_demultiplexes`). Everything else that arrives changes nothing at all: two sequences
of steps that differ in noise only lead to the same connection.

A step says what it adds to the events, which token it brings and whether it stops reading, and both
lists for a run follow by induction.
-/

namespace LiveTrace

namespace Socket

/-! ### What texts bring -/

/-- The event that a text pushes. -/
def pushed? (text : String) : Option PushEvent :=
  match Frame.decode text with
  | .ok (.event name message) => some (.ofMessage name message)
  | _ => none

/-- The token that a reply brings, if the reply can be read. -/
def replyToken? (v : Json) (rejected : Bool) : Option String :=
  match Reply.ofJson v rejected with
  | .ok r => r.request.token
  | .error _ => none

/-- The token that a text brings. -/
def renewed? (text : String) : Option String :=
  match Frame.decode text with
  | .ok (.success _ reply) => replyToken? reply false
  | .ok (.failure _ reply) => replyToken? reply true
  | _ => none

/-- A text that is no message, or one that a daemon does not send. -/
def isMeaningless (text : String) : Bool :=
  match Frame.decode text with
  | .error _ | .ok (.call ..) => true
  | .ok (.success ..) | .ok (.failure ..) | .ok (.event ..) => false

/-! ### What is heard -/

namespace Step

/-- The text that arrives. -/
def text? : Step → Option String
  | text t => some t
  | call .. | unsent _ | noise | ended | writeFailed | close | drop => none

/-- Whether nothing is read from a step on. -/
def stopsReading : Step → Bool
  | ended | close | drop => true
  | call .. | unsent _ | text _ | noise | writeFailed => false

/-- Whether something arrives that is not a text, or a text that means nothing. -/
def isNoise : Step → Bool
  | noise => true
  | text t => isMeaningless t
  | call .. | unsent _ | ended | writeFailed | close | drop => false

end Step

/-- The texts that are read: those that arrive before reading stops. -/
def heard (steps : List Step) : List String :=
  (steps.takeWhile fun e => !e.stopsReading).filterMap Step.text?

theorem heard_cons_of_stopsReading {e : Step} (he : e.stopsReading = true) (steps : List Step) :
    heard (e :: steps) = [] := by
  rw [heard, List.takeWhile_cons_of_neg (by simp [he])]
  rfl

theorem heard_cons {e : Step} (he : e.stopsReading = false) (steps : List Step) :
    heard (e :: steps) = e.text?.toList ++ heard steps := by
  rw [heard, List.takeWhile_cons_of_pos (by simp [he]), List.filterMap_cons]
  cases e.text? <;> rfl

/-! ### One step -/

/-- A step that adds at most one event and brings at most one token, and goes on reading. -/
structure Takes (s s' : Socket) (pushed : Option PushEvent) (token : Option String) : Prop where
  events : s'.events = s.events ++ pushed.toList
  token : s'.token = token.or s.token
  reading : s'.reading = s.reading

/-- Settling a call takes nothing. -/
theorem Takes.settle {s s' : Socket} {pushed : Option PushEvent} {token : Option String}
    (h : Takes s s' pushed token) (id : String) (outcome : Settlement) :
    Takes s (s'.settle id outcome) pushed token := by
  unfold Socket.settle
  split
  · exact ⟨h.events, h.token, h.reading⟩
  · exact h

theorem Takes.refl (s : Socket) : Takes s s none none := ⟨(List.append_nil _).symm, rfl, rfl⟩

/-- The token of a reply is taken whether or not a call waits for the reply. -/
theorem takes_receiveReply (s : Socket) (id : String) (v : Json) (rejected : Bool) :
    Takes s (s.receiveReply id v rejected) none (replyToken? v rejected) := by
  unfold receiveReply replyToken?
  cases Reply.ofJson v rejected with
  | ok r =>
    have htoken : Takes s { s with token := announced r <|> s.token } none r.request.token :=
      ⟨(List.append_nil _).symm, Option.orElse_eq_or, rfl⟩
    exact htoken.settle id (.ok r)
  | error e => exact (Takes.refl s).settle id _

theorem takes_receive {s : Socket} (hs : s.reading = true) (text : String) :
    Takes s (s.receive text) (pushed? text) (renewed? text) := by
  rw [receive, if_pos hs]
  unfold pushed? renewed?
  cases Frame.decode text with
  | error e => exact .refl s
  | ok f =>
    cases f with
    | call id apiVerb args => exact .refl s
    | success id reply => exact s.takes_receiveReply id reply false
    | failure id reply => exact s.takes_receiveReply id reply true
    | event name message => exact ⟨rfl, rfl, rfl⟩

/-- **While what arrives is read, a step takes what its text brings**, unless it stops reading. -/
theorem takes_step {s : Socket} (hs : s.reading = true) {e : Step} (he : e.stopsReading = false) :
    Takes s (s.step e) (e.text?.bind pushed?) (e.text?.bind renewed?) := by
  cases e with
  | text text => exact takes_receive hs text
  | call apiVerb args =>
    show Takes s (s.call apiVerb args).2 none none
    unfold Socket.call
    split <;> exact ⟨(List.append_nil _).symm, rfl, rfl⟩
  | unsent n => exact (Takes.refl s).settle ..
  | noise => exact .refl s
  | writeFailed => exact ⟨(List.append_nil _).symm, rfl, rfl⟩
  | ended | close | drop => contradiction

/-- A step that stops reading takes nothing, and what was taken so far stays. -/
theorem step_of_stopsReading (s : Socket) {e : Step} (he : e.stopsReading = true) :
    (s.step e).events = s.events ∧ (s.step e).token = s.token ∧ (s.step e).reading = false := by
  cases e with
  | ended =>
    cases hs : s.reading with
    | false => rw [step, if_neg (by simp [hs])]; exact ⟨rfl, rfl, hs⟩
    | true => rw [step, if_pos hs]; exact ⟨rfl, rfl, rfl⟩
  | close | drop => exact ⟨rfl, rfl, rfl⟩
  | call | unsent | text | noise | writeFailed => contradiction

/-- Once reading has stopped, nothing is taken any more. -/
theorem step_of_not_reading {s : Socket} (hs : s.reading = false) (e : Step) :
    (s.step e).events = s.events ∧ (s.step e).token = s.token ∧ (s.step e).reading = false := by
  cases e with
  | call apiVerb args =>
    show (s.call apiVerb args).2.events = _ ∧ (s.call apiVerb args).2.token = _ ∧
      (s.call apiVerb args).2.reading = _
    unfold Socket.call
    split <;> exact ⟨rfl, rfl, hs⟩
  | unsent n =>
    have htakes := (Takes.refl s).settle (identifier n) (.error .closed)
    exact ⟨htakes.events.trans (List.append_nil _), htakes.token, htakes.reading.trans hs⟩
  | text text => rw [step, receive, if_neg (by simp [hs])]; exact ⟨rfl, rfl, hs⟩
  | noise => exact ⟨rfl, rfl, hs⟩
  | writeFailed => exact ⟨rfl, rfl, hs⟩
  | ended | close | drop => exact s.step_of_stopsReading rfl

/-- Noise changes nothing. -/
theorem step_of_isNoise (s : Socket) {e : Step} (he : e.isNoise = true) : s.step e = s := by
  cases e with
  | noise => rfl
  | text text =>
    have hmeaningless : isMeaningless text = true := he
    unfold isMeaningless at hmeaningless
    rw [step, receive]
    split
    · split
      · rename_i f hdecode
        rw [hdecode] at hmeaningless
        cases f with
        | call id apiVerb args => rfl
        | success | failure | event => contradiction
      · rfl
    · rfl
  | call | unsent | ended | writeFailed | close | drop => contradiction

/-! ### Runs -/

theorem run_of_not_reading {s : Socket} (hs : s.reading = false) (steps : List Step) :
    (s.run steps).events = s.events ∧ (s.run steps).token = s.token := by
  induction steps generalizing s with
  | nil => exact ⟨rfl, rfl⟩
  | cons e steps ih =>
    obtain ⟨hevents, htoken, hreading⟩ := step_of_not_reading hs e
    obtain ⟨hevents', htoken'⟩ := ih hreading
    exact ⟨hevents'.trans hevents, htoken'.trans htoken⟩

/-- What is taken in a run is what the texts bring that are heard in it. -/
theorem run_of_reading {s : Socket} (hs : s.reading = true) (steps : List Step) :
    (s.run steps).events = s.events ++ (heard steps).filterMap pushed? ∧
      (s.run steps).token = ((heard steps).filterMap renewed?).getLast?.or s.token := by
  induction steps generalizing s with
  | nil => exact ⟨(List.append_nil _).symm, rfl⟩
  | cons e steps ih =>
    have hrun : s.run (e :: steps) = (s.step e).run steps := rfl
    -- up to the step that stops reading every text is taken, and after it none
    cases he : e.stopsReading with
    | true =>
      obtain ⟨hevents, htoken, hreading⟩ := s.step_of_stopsReading he
      obtain ⟨hevents', htoken'⟩ := run_of_not_reading hreading steps
      rw [heard_cons_of_stopsReading he, hrun, hevents', htoken', hevents, htoken]
      exact ⟨(List.append_nil _).symm, rfl⟩
    | false =>
      have htakes := takes_step hs he
      obtain ⟨hevents, htoken⟩ := ih (htakes.reading.trans hs)
      have hpushed : e.text?.toList.filterMap pushed? = (e.text?.bind pushed?).toList := by
        cases e.text? with
        | none => rfl
        | some text => cases h : pushed? text <;> simp [h]
      have hrenewed : (e.text?.toList.filterMap renewed?).getLast? = e.text?.bind renewed? := by
        cases e.text? with
        | none => rfl
        | some text => cases h : renewed? text <;> simp [h]
      rw [heard_cons he, List.filterMap_append, List.filterMap_append, hpushed,
        List.getLast?_append, hrenewed, hrun, hevents, htoken, htakes.events, htakes.token,
        List.append_assoc, Option.or_assoc]
      exact ⟨rfl, rfl⟩

/-- A run does the same without its noise. -/
theorem run_filter_isNoise (s : Socket) (steps : List Step) :
    s.run (steps.filter fun e => !e.isNoise) = s.run steps := by
  induction steps generalizing s with
  | nil => rfl
  | cons e steps ih =>
    cases he : e.isNoise with
    | true =>
      have hrun : s.run (e :: steps) = (s.step e).run steps := rfl
      rw [List.filter_cons_of_neg (by simp [he]), ih, hrun, s.step_of_isNoise he]
    | false =>
      rw [List.filter_cons_of_pos (by simp [he])]
      exact ih (s.step e)

/-- **What arrives is told apart, and noise is ignored.** After any steps in any order:

* the events are those that the texts push which arrive before reading stops, in order;
* the token is that of the last of these texts that is a reply with a token and can be read,
  whatever call it answers, and the one that the connection was opened with if there is no such
  text;
* steps that differ in noise only, of which any may be left out or put in anywhere, lead to the same
  connection, with every call settled in the same way, the same events and the same token. -/
theorem reader_demultiplexes (t : ConnectTarget) (steps : List Step) :
    ((opened t).run steps).events = (heard steps).filterMap pushed? ∧
      ((opened t).run steps).token =
        ((heard steps).filterMap renewed?).getLast?.or t.token ∧
      ∀ others : List Step,
        others.filter (fun e => !e.isNoise) = steps.filter (fun e => !e.isNoise) →
          (opened t).run others = (opened t).run steps := by
  obtain ⟨hevents, htoken⟩ := run_of_reading (s := opened t) rfl steps
  refine ⟨hevents, htoken, fun others h => ?_⟩
  rw [← run_filter_isNoise, h, run_filter_isNoise]

end Socket

end LiveTrace
