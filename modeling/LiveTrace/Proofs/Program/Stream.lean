import LiveTrace.Program.Commands
import LiveTrace.Proofs.Console.Colors
import LiveTrace.Proofs.Console.Indentation
import LiveTrace.Proofs.Session.Events
/-!
# LiveTrace.Proofs.Program.Stream

**What printing events comes to.** A channel that is closed yields the pushed events that it has
taken, one after the other, and then its end (`Drains`). Printing them ends with the channel, after
one step of the session for each event, and what is printed is told by the classifications in their
order (`Commands.Covers`). It reads as the plain texts of the events one after the other
(`Commands.printout`), with or without colors. Together with what the session does to its own
buffers, no pushed event is lost or moved (`Commands.no_push_is_lost`).
-/

namespace LiveTrace

universe u v

/-- Pushed events that a channel yields one after the other, and after which it has ended. -/
inductive Drains {τ : Type u} [Channel τ] : τ → List PushEvent → Prop
  | ended {c : τ} (h : (Channel.receive c).1 = .ended) : Drains c []
  | event {c : τ} {push : PushEvent} {rest : List PushEvent}
    (h : (Channel.receive c).1 = .event push) (later : Drains (Channel.receive c).2 rest) :
    Drains c (push :: rest)

/-- A line whose peer can push no more yields what was pushed. -/
theorem Line.drains {β : Type u} [Peer β] {l : Line β} (h : l.source = false) :
    Drains l l.queue := by
  obtain ⟨url, peer, calls, closed, queue, source, listening⟩ := l
  obtain rfl : source = false := h
  induction queue with
  | nil => exact .ended rfl
  | cons push queue ih => exact .event rfl ih

namespace Session

variable {τ : Type u} [Channel τ]

/-- What waiting comes to is told by the channel, and a pushed event is classified under the
settings of the session. -/
theorem fst_nextEvent (s : Session τ) :
    s.nextEvent.1 =
      match (Channel.receive s.channel).1 with
      | .event push => .classified (.ofPush s.options push)
      | .ended => .ended
      | .pending => .pending := by
  unfold nextEvent
  rcases Channel.receive s.channel with ⟨push | _ | _, c⟩ <;> rfl

end Session

namespace Classification

/-- How an event reads, printed without colors. -/
def block (depths : RenderDepths) : Classification → String
  | trace event => event.block depths
  | suppressed _ => ""
  | unexpected push => "unexpected event " ++ push.event ++ "\n"
  | malformed reason => "malformed trace event: " ++ reason ++ "\n"

/-- The texts of an event that are printed as they are. -/
def texts (depths : RenderDepths) : Classification → List String
  | trace event => event.texts depths
  | suppressed _ => []
  | unexpected push => [push.event]
  | malformed reason => [reason]

end Classification

namespace Commands

/-- How events and the end of the channel after them read, printed without colors. -/
def printout (depths : RenderDepths) (l : List Classification) : String :=
  String.join (l.map (Classification.block depths)) ++ "connection closed\n"

theorem printout_cons (depths : RenderDepths) (c : Classification) (l : List Classification) :
    printout depths (c :: l) = c.block depths ++ printout depths l := by
  rw [printout, printout, List.map_cons, String.join_cons, String.append_assoc]

/-! ### With and without colors -/

section Colors

variable {console : Console}

theorem error_of_uncolored (h : console.colored = false) (text : String) :
    console.error text = text := by
  rw [Console.error, Console.write, Span.inRole, Console.writeChars_cons,
    Console.writeSpan_painted h, Console.writeChars_nil, List.append_nil, String.ofList_toList]

theorem eventText_of_uncolored (h : console.colored = false) (depths : RenderDepths)
    (c : Classification) : eventText console depths c = c.block depths := by
  cases c with
  | trace event =>
    rw [eventText]
    exact Console.traceEvent_eq_block h event depths
  | suppressed variant => rfl
  | unexpected push | malformed reason =>
    rw [eventText, error_of_uncolored h]
    rfl

/-- A message on a line of its own is erased to its text. -/
theorem eraseText_errorLine {text : String} (h : Color.escape ∉ text.toList) (more : String) :
    Color.eraseText (console.error text ++ "\n" ++ more) =
      text ++ "\n" ++ Color.eraseText more := by
  have hplain : console.uncolored.error text = text := error_of_uncolored rfl text
  have hspans : ∀ s ∈ [Span.inRole .error text], s.IsPlainText :=
    List.forall_mem_singleton.2 (Span.isPlainText_inRole.2 h)
  calc Color.eraseText (console.error text ++ "\n" ++ more)
    _ = console.uncolored.error text ++ Color.eraseText ("\n" ++ more) := by
        rw [String.append_assoc]
        exact console.eraseText_write_append hspans ("\n" ++ more)
    _ = text ++ "\n" ++ Color.eraseText more := by
        rw [hplain, Color.eraseText_append (by decide), String.append_assoc]

/-- What is printed of an event is erased to how it reads. -/
theorem eraseText_eventText {depths : RenderDepths} {c : Classification}
    (h : ∀ text ∈ c.texts depths, Color.escape ∉ text.toList) (more : String) :
    Color.eraseText (eventText console depths c ++ more) =
      c.block depths ++ Color.eraseText more := by
  have hmessage {front text : String} (hfront : Color.escape ∉ front.toList)
      (htext : Color.escape ∉ text.toList) : Color.escape ∉ (front ++ text).toList := by
    rw [String.toList_append, List.mem_append, not_or]
    exact ⟨hfront, htext⟩
  cases c with
  | trace event =>
    have hplain : console.uncolored.traceEvent event depths = event.block depths :=
      Console.traceEvent_eq_block rfl event depths
    show _ = event.block depths ++ _
    rw [← hplain]
    exact console.eraseText_write_append (TraceEvent.isPlainText_spans h) more
  | suppressed variant =>
    show Color.eraseText ("" ++ more) = "" ++ _
    rw [String.empty_append, String.empty_append]
  | unexpected push | malformed reason =>
    exact eraseText_errorLine (hmessage (by decide) (h _ List.mem_cons_self)) more

end Colors

/-! ### Printing what a channel yields -/

variable {τ : Type u} [Channel τ]

/-- What a console prints of events and of the end of the channel after them. -/
def eventsText (console : Console) (depths : RenderDepths) (l : List Classification) : String :=
  String.join (l.map (eventText console depths)) ++ (console.error "connection closed" ++ "\n")

theorem eventsText_cons (console : Console) (depths : RenderDepths) (c : Classification)
    (l : List Classification) :
    eventsText console depths (c :: l) =
      eventText console depths c ++ eventsText console depths l := by
  rw [eventsText, eventsText, List.map_cons, String.join_cons, String.append_assoc]

/-- **Printed without colors, events read as they should.** -/
theorem eventsText_of_uncolored {console : Console} (h : console.colored = false)
    (depths : RenderDepths) (l : List Classification) :
    eventsText console depths l = printout depths l := by
  have hblocks : l.map (eventText console depths) = l.map (Classification.block depths) :=
    List.map_congr_left fun c _ => eventText_of_uncolored h depths c
  rw [eventsText, printout, hblocks, error_of_uncolored h]
  rfl

/-- **Printed with colors, events read as they should but for the colors.** -/
theorem eraseText_eventsText (console : Console) {depths : RenderDepths} {l : List Classification}
    (h : ∀ c ∈ l, ∀ text ∈ c.texts depths, Color.escape ∉ text.toList) :
    Color.eraseText (eventsText console depths l) = printout depths l := by
  induction l with
  | nil =>
    have hclosed : Color.eraseText (console.error "connection closed" ++ "\n" ++ "") =
        "connection closed" ++ "\n" ++ Color.eraseText "" := eraseText_errorLine (by decide) ""
    rw [String.append_empty, Color.eraseText_empty, String.append_empty] at hclosed
    exact hclosed
  | cons c l ih =>
    rw [List.forall_mem_cons] at h
    rw [eventsText_cons, eraseText_eventText h.1, ih h.2, printout_cons]

/-- Printing goes through pushed events to the end of the channel, and takes one step of the session
for each event and one for the end. -/
structure Covers (r : Stream τ) (s : Session τ) (console : Console) (depths : RenderDepths)
    (pushes : List PushEvent) : Prop where
  ending : r.ending = .stopped
  output : r.output = eventsText console depths (pushes.map fun push => .ofPush s.options push)
  count : r.printed = (pushes.filterMap fun push =>
    (Classification.ofPush s.options push).trace?).length
  session : r.session =
    s.run (List.replicate (pushes.length + 1) (.act .nextEvent : Session.Step Empty))

/-- **Printing with enough fuel covers what the channel yields.** -/
theorem covers_streamNext {s : Session τ} {pushes : List PushEvent}
    (h : Drains s.channel pushes) (console : Console) (depths : RenderDepths) {fuel : Nat}
    (hfuel : pushes.length < fuel) :
    Covers (streamNext console depths fuel s) s console depths pushes := by
  generalize hchannel : s.channel = c at h
  induction h generalizing s fuel with
  | ended h =>
    subst hchannel
    obtain ⟨fuel, rfl⟩ := Nat.exists_eq_add_one_of_ne_zero (Nat.ne_of_gt hfuel)
    have hnext : s.nextEvent = (.ended, s.nextEvent.2) :=
      Prod.ext (by rw [Session.fst_nextEvent, h]) rfl
    rw [streamNext, hnext]
    exact ⟨rfl, (String.empty_append).symm, rfl, rfl⟩
  | @event c push rest h later ih =>
    subst hchannel
    obtain ⟨fuel, rfl⟩ := Nat.exists_eq_add_one_of_ne_zero (Nat.ne_of_gt (Nat.zero_lt_of_lt hfuel))
    have hnext : s.nextEvent = (.classified (.ofPush s.options push), s.nextEvent.2) :=
      Prod.ext (by rw [Session.fst_nextEvent, h]) rfl
    -- waiting for an event changes no setting, so the rest is classified under the same ones
    have hrest := ih (Nat.lt_of_succ_lt_succ hfuel) s.channel_nextEvent
    have hoptions : s.nextEvent.2.options = s.options := s.options_nextEvent
    rw [streamNext, hnext]
    refine ⟨hrest.ending, ?_, ?_, hrest.session⟩
    · have houtput := hrest.output
      rw [hoptions] at houtput
      rw [List.map_cons, eventsText_cons, ← houtput]
    · have hcount := hrest.count
      rw [hoptions] at hcount
      cases hc : Classification.ofPush s.options push with
      | trace event =>
        rw [List.filterMap_cons_some (by rw [hc]; rfl), List.length_cons, ← hcount]
        rfl
      | suppressed | unexpected | malformed =>
        rw [List.filterMap_cons_none (by rw [hc]; rfl), ← hcount]
        rfl

/-! ### No pushed event is lost -/

open Session

/-- **No pushed event is lost or moved.**

* After any run of a session over any channel, in which pushed events are handled among whatever
  else is done, the trace events that are kept are the last ones that were classified as such since
  they were last cleared, in the order in which they came: as many as the configuration tells, and
  at least one.
* At every moment of the run the settings in force are those that were set last. While the log is
  switched on, a pushed event adds an entry to it, of the kind for trace events unless it is
  unexpected and then of the other kind, and one more entry of an error if it is malformed. Showing
  or suppressing events of the monitoring API and clearing add none.
* If the channel of a session yields the events that it has queued and then its end, printing them
  ends, after one step of the session for each event and one for the end, and the trace events among
  them are counted. What a console prints is, in the order of the events, what it prints of each,
  and at last that the connection was closed. Without colors that reads as a block for each trace
  event, a message for each unexpected or malformed one and nothing for those that are suppressed,
  and then the closing message. With colors it reads the same once their escape sequences are
  deleted, if no text of an event has an escape character. -/
theorem no_push_is_lost {δ : Type v} [Surroundings δ τ] (channel : τ) (config : SessionConfig)
    (steps : List (Step δ)) :
    let s := Session.new channel config
    (s.run steps).kept.items = Recent.last (max 1 config.maxTraceEvents)
      ((Moment.sinceClear (s.trail steps)).filterMap Moment.traced?) ∧
    (∀ before e after, steps = before ++ e :: after →
      let t := s.run before
      t.options = ⟨config.monitorApi,
        (before.reverse.findSome? Step.shown?).getD config.showMonitorEvents⟩ ∧
      (∀ push, t.pushed? e = some push → t.feed.enabled = true →
        ∃ added : List LogEntry,
          added.map LogEntry.kind = (Classification.ofPush t.options push).logKinds ∧
          (t.step e).feed.entries =
            Recent.last (max 1 config.maxLogEntries) (t.feed.entries ++ added)) ∧
      (e.isClear = true ∨ e.shown?.isSome = true → (t.step e).feed = t.feed)) ∧
    ∀ (t : Session τ) (pushes : List PushEvent) (console : Console) (depths : RenderDepths),
      Drains t.channel pushes → Channel.queued t.channel = pushes.length →
        let r := stream t console depths
        let l := pushes.map fun push => Classification.ofPush t.options push
        Covers r t console depths pushes ∧
          (console.colored = false → r.output = printout depths l) ∧
          ((∀ c ∈ l, ∀ text ∈ c.texts depths, Color.escape ∉ text.toList) →
            Color.eraseText r.output = printout depths l) := by
  intro s
  refine ⟨kept_run rfl steps, fun before e after _ => ?_, ?_⟩
  · intro t
    have hcapacity : t.feed.recent.capacity = max 1 config.maxLogEntries :=
      (keeps_run (LogFeed.keeps_nil rfl) before).1
    refine ⟨s.options_run before, fun push hpush henabled => ?_, t.feed_step_of_setting⟩
    rw [← hcapacity]
    exact entries_step_of_pushed hpush henabled
  · intro t pushes console depths h hqueued r l
    have hcovers : Covers r t console depths pushes := covers_streamNext h console depths (by omega)
    refine ⟨hcovers, fun hcolored => ?_, fun hplain => ?_⟩
    · rw [hcovers.output, eventsText_of_uncolored hcolored]
    · rw [hcovers.output, eraseText_eventsText console hplain]

/-- Events of all kinds, with room for one event and one entry: the first is cleared, and the second
is of the monitoring API and shown only after that was set. Printed, they read the same without
colors and with them. -/
theorem no_push_is_lost_crowded :
    let about (api : String) : PushEvent := ⟨"monitor/trace", some (.object
      [("service", .object [("action", .string "start"), ("api", .string api)]),
        ("time", .string "42.1")])⟩
    let other : PushEvent := ⟨"calc/tick", none⟩
    let broken : PushEvent := ⟨"monitor/trace", none⟩
    let queue := [about "calc", about "monitor", other, broken]
    let line : Line Script := { Line.new "mock" ⟨[]⟩ with queue, source := false }
    let config : SessionConfig := ⟨"monitor", false, true, 0, 0⟩
    let s := Session.new line config
    let before : List (Step Empty) := [.act (.handlePush (about "calc")), .act .clearTraceEvents,
      .act (.handlePush (about "monitor")), .act (.setShowMonitorEvents true),
      .act (.handlePush (about "calc")), .act (.handlePush (about "monitor"))]
    let plain := stream s (.new .default false false) .default
    let colored := stream s (.new .default true false) .default
    let text := "42.1 service  calc@start\n    action: \"start\"\n    api: \"calc\"\n" ++
      "unexpected event calc/tick\n" ++
      "malformed trace event: trace event without object payload\n" ++ "connection closed\n"
    (s.run before).kept.items.map TraceEvent.variant = [.service "monitor" "start"] ∧
      (∃ added : List LogEntry, added.map LogEntry.kind = [.trace, .error] ∧
        ((s.run before).step (.act (.handlePush broken) : Step Empty)).feed.entries =
          Recent.last 1 ((s.run before).feed.entries ++ added)) ∧
      plain.ending = .stopped ∧ plain.printed = 1 ∧ plain.output = text ∧
      Color.eraseText colored.output = text := by
  intro about other broken queue line config s before plain colored text
  obtain ⟨hkept, -, hstream⟩ := no_push_is_lost line config before
  obtain ⟨-, hlogged, -⟩ := no_push_is_lost line config (before ++ [.act (.handlePush broken)])
  have hroom : max 1 config.maxTraceEvents = 1 ∧ max 1 config.maxLogEntries = 1 := ⟨rfl, rfl⟩
  have henabled : (s.run before).feed.enabled = true := by decide +kernel
  have hkinds : (Classification.ofPush (s.run before).options broken).logKinds =
      [.trace, .error] := by decide +kernel
  obtain ⟨added, hadded, hentries⟩ := (hlogged before _ [] rfl).2.1 broken rfl henabled
  have hvariants : (Recent.last 1 ((Moment.sinceClear (s.trail before)).filterMap
      Moment.traced?)).map TraceEvent.variant = [.service "monitor" "start"] := by decide +kernel
  have htext : printout .default (queue.map fun push => .ofPush s.options push) = text := by
    decide +kernel
  have hescape : ∀ c ∈ queue.map fun push => Classification.ofPush s.options push,
      ∀ text ∈ c.texts .default, Color.escape ∉ text.toList := by decide +kernel
  obtain ⟨hcovers, hplain, -⟩ :=
    hstream s queue (.new .default false false) .default (Line.drains rfl) rfl
  obtain ⟨-, -, hcolored⟩ :=
    hstream s queue (.new .default true false) .default (Line.drains rfl) rfl
  rw [hroom.1] at hkept
  rw [hroom.2] at hentries
  refine ⟨?_, ⟨added, hadded.trans hkinds, hentries⟩, hcovers.ending, ?_,
    (hplain rfl).trans htext, (hcolored hescape).trans htext⟩
  · exact (congrArg (List.map TraceEvent.variant) hkept).trans hvariants
  · exact hcovers.count.trans (by decide +kernel)

end Commands

end LiveTrace
