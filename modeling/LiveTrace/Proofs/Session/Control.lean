import LiveTrace.Proofs.Session.Connection
import LiveTrace.Proofs.Session.Subscriptions
/-!
# LiveTrace.Proofs.Session.Control

**Pushes and presentation do not interfere with control.** A session has a part that an operator
controls the daemon by (`Control`), and a part that only presents what happened: the log, the kept
trace events, and the settings of both. The operations of control read and change the first part
only, apart from what the channel answers, so two sessions that agree about it and whose calls are
settled alike go on to agree (`Session.SameResult.perform`). Everything else leaves the first part
alone and makes no calls (`Session.control_of_not_isControl`).

The two sessions may have channels of different kinds, and different things may happen to these.
What both have in common is in their journals (`Session.journal`): the actions of control, among
them the waiting by which a session learns that its channel was closed, each with its result and
with what the session was like afterwards.
-/

namespace LiveTrace

universe u v w x

/-- What the operations of a session read and change, presentation apart. -/
structure Control where
  monitorApi : String
  registry : Registry
  verbosity : VerbosityState
  traces : TraceSubscriptions
  state : ConnectionState
  deriving Inhabited

/-- Calls of two runs are settled alike, as far as both runs made some. -/
def SettledAlike (l r : List SettledCall) : Prop :=
  ∀ p ∈ l.zip r, p.1.settlement = p.2.settlement

theorem settledAlike_cons {a b : SettledCall} {l r : List SettledCall} :
    SettledAlike (a :: l) (b :: r) ↔ a.settlement = b.settlement ∧ SettledAlike l r := by
  simp [SettledAlike]

theorem settledAlike_of_map_eq {l r : List SettledCall}
    (h : l.map SettledCall.settlement = r.map SettledCall.settlement) : SettledAlike l r := by
  induction l generalizing r with
  | nil => simp [SettledAlike]
  | cons a l ih =>
    cases r with
    | nil => simp [SettledAlike]
    | cons b r =>
      obtain ⟨hfirst, hrest⟩ := List.cons.inj h
      exact settledAlike_cons.2 ⟨hfirst, ih hrest⟩

theorem SettledAlike.of_append {l r l' r' : List SettledCall}
    (h : SettledAlike (l ++ l') (r ++ r')) : SettledAlike l r := by
  induction l generalizing r with
  | nil => simp [SettledAlike]
  | cons a l ih =>
    cases r with
    | nil => simp [SettledAlike]
    | cons b r =>
      obtain ⟨hfirst, hrest⟩ := settledAlike_cons.1 h
      exact settledAlike_cons.2 ⟨hfirst, ih hrest⟩

theorem SettledAlike.append_left {l l' r' : List SettledCall}
    (h : SettledAlike (l ++ l') (l ++ r')) : SettledAlike l' r' := by
  induction l with
  | nil => exact h
  | cons a l ih => exact ih (settledAlike_cons.1 h).2

namespace Session

variable {τ : Type u} {τ' : Type v}

/-- The part of a session that its operations read and change. -/
def control (s : Session τ) : Control :=
  ⟨s.options.monitorApi, s.registry, s.verbosity, s.traces, s.state⟩

theorem control_eq_iff {s : Session τ} {s' : Session τ'} :
    s.control = s'.control ↔
      s.options.monitorApi = s'.options.monitorApi ∧ s.registry = s'.registry ∧
        s.verbosity = s'.verbosity ∧ s.traces = s'.traces ∧ s.state = s'.state := by
  simp [control]

/-- Operations of two sessions give the same and leave the sessions alike. -/
structure SameResult {α : Type w} (p : α × Session τ) (p' : α × Session τ') : Prop where
  result : p.1 = p'.1
  control : p.2.control = p'.2.control

/-! ### What presentation leaves alone -/

@[simp] theorem control_log (s : Session τ) (e : LogEntry) : (s.log e).control = s.control := rfl

@[simp] theorem control_note (s : Session τ) (c : Classification) :
    (s.note c).control = s.control := by cases c <;> rfl

@[simp] theorem control_handlePush (s : Session τ) (push : PushEvent) :
    (s.handlePush push).2.control = s.control := by simp [handlePush]

/-! ### Operations of control -/

section Operations

variable [Channel τ] [Channel τ'] {s : Session τ} {s' : Session τ'}

omit [Channel τ'] in
theorem control_call (s : Session τ) (verb : String) (args : Json) :
    (s.call verb args).2.control =
      { s.control with state := stateAfter s.state [s.settledCall verb args] } := by
  simp [control, state_call_eq]

omit [Channel τ] [Channel τ'] in
theorem apiVerb_congr (h : s.control = s'.control) (verb : String) :
    s.apiVerb verb = s'.apiVerb verb := by
  rw [apiVerb, apiVerb, (control_eq_iff.1 h).1]

/-- Alike sessions whose calls are settled alike make the same calls. -/
theorem settledCall_congr (h : s.control = s'.control) {verb : String} {args : Json}
    (hsettled : (s.settledCall verb args).settlement = (s'.settledCall verb args).settlement) :
    s.settledCall verb args = s'.settledCall verb args := by
  simp only [settledCall, SettledCall.mk.injEq]
  exact ⟨apiVerb_congr h verb, trivial, hsettled⟩

omit [Channel τ] [Channel τ'] in
theorem asking_congr (h : s.control = s'.control) (target : VerbosityTarget)
    (level : VerbosityLevel) :
    (s.asking target level).control = (s'.asking target level).control := by
  obtain ⟨hmonitor, hregistry, hverbosity, htraces, hstate⟩ := control_eq_iff.1 h
  exact control_eq_iff.2 ⟨hmonitor, hregistry, by rw [asking, asking, hverbosity], htraces, hstate⟩

omit [Channel τ] [Channel τ'] in
theorem readBody_congr {α : Type} (h : s.control = s'.control) (verb : String)
    (read : Json → Except Mismatch α) : s.readBody verb read = s'.readBody verb read := by
  funext reply
  rw [readBody, readBody, apiVerb_congr h]

namespace SameResult

theorem call (h : s.control = s'.control) {verb : String} {args : Json}
    (hsettled : (s.settledCall verb args).settlement = (s'.settledCall verb args).settlement) :
    SameResult (s.call verb args) (s'.call verb args) where
  result := by rw [fst_call_eq_settledCall, fst_call_eq_settledCall, hsettled]
  control := by
    obtain ⟨-, -, -, -, hstate⟩ := control_eq_iff.1 h
    rw [control_call, control_call, h, hstate, settledCall_congr h hsettled]

/-- Bodies of replies are read alike. -/
theorem read {α : Type} (h : s.control = s'.control) {verb : String} {args : Json}
    (hsettled : (s.settledCall verb args).settlement = (s'.settledCall verb args).settlement)
    (read : Json → Except Mismatch α) :
    SameResult
      ((s.call verb args).1.bind ((s.call verb args).2.readBody verb read), (s.call verb args).2)
      ((s'.call verb args).1.bind ((s'.call verb args).2.readBody verb read),
        (s'.call verb args).2) := by
  obtain ⟨hresult, hcontrol⟩ := call h hsettled
  refine ⟨?_, hcontrol⟩
  simp only [hresult, readBody_congr hcontrol]

theorem querySnapshot (h : s.control = s'.control) {args : Json}
    (hsettled : (s.settledCall "get" args).settlement = (s'.settledCall "get" args).settlement) :
    SameResult (s.querySnapshot args) (s'.querySnapshot args) :=
  read h hsettled Snapshot.ofJson

theorem sessionInfo (h : s.control = s'.control) {refreshToken : Bool}
    (hsettled : SettledAlike (s.made (.sessionInfo refreshToken))
      (s'.made (.sessionInfo refreshToken))) :
    SameResult (s.sessionInfo refreshToken) (s'.sessionInfo refreshToken) := by
  rw [made_sessionInfo, made_sessionInfo, settledAlike_cons] at hsettled
  exact read h hsettled.1 SessionInfo.ofJson

omit [Channel τ] [Channel τ'] in
theorem applyLevels (h : s.control = s'.control) (levels : Option (List (String × Json))) :
    SameResult (s.applyLevels levels) (s'.applyLevels levels) := by
  obtain ⟨hmonitor, hregistry, hverbosity, htraces, hstate⟩ := control_eq_iff.1 h
  cases levels with
  | none => exact ⟨rfl, h⟩
  | some levels =>
    unfold Session.applyLevels
    rw [hmonitor, hverbosity]
    exact ⟨rfl, control_eq_iff.2 ⟨hmonitor, hregistry, rfl, htraces, hstate⟩⟩

omit [Channel τ] [Channel τ'] in
theorem mergeApis (h : s.control = s'.control) (apis : Option (List (String × ApiDocument))) :
    SameResult (s.mergeApis apis) (s'.mergeApis apis) := by
  obtain ⟨hmonitor, hregistry, hverbosity, htraces, hstate⟩ := control_eq_iff.1 h
  cases apis with
  | none => exact ⟨rfl, h⟩
  | some apis =>
    unfold Session.mergeApis
    rw [hmonitor, hregistry]
    exact ⟨rfl, control_eq_iff.2 ⟨hmonitor, rfl, hverbosity, htraces, hstate⟩⟩

theorem discover (h : s.control = s'.control)
    (hsettled : SettledAlike (s.made .discover) (s'.made .discover)) :
    SameResult s.discover s'.discover := by
  rw [made_discover, made_discover, settledAlike_cons] at hsettled
  have hquery := querySnapshot h hsettled.1
  unfold Session.discover
  generalize s.querySnapshot discoveryArgs = p at hquery ⊢
  generalize s'.querySnapshot discoveryArgs = p' at hquery ⊢
  obtain ⟨r, t⟩ := p
  obtain ⟨r', t'⟩ := p'
  obtain ⟨rfl, hcontrol⟩ := hquery
  rcases r with e | snapshot
  · exact ⟨rfl, hcontrol⟩
  · have hmerged := mergeApis hcontrol snapshot.apis
    exact ⟨congrArg Except.ok hmerged.result, (applyLevels hmerged.control _).control⟩

theorem refreshVerbosity (h : s.control = s'.control)
    (hsettled : SettledAlike (s.made .refreshVerbosity) (s'.made .refreshVerbosity)) :
    SameResult s.refreshVerbosity s'.refreshVerbosity := by
  rw [made_refreshVerbosity, made_refreshVerbosity, settledAlike_cons] at hsettled
  have hquery := querySnapshot h hsettled.1
  unfold Session.refreshVerbosity
  generalize s.querySnapshot levelsArgs = p at hquery ⊢
  generalize s'.querySnapshot levelsArgs = p' at hquery ⊢
  obtain ⟨r, t⟩ := p
  obtain ⟨r', t'⟩ := p'
  obtain ⟨rfl, hcontrol⟩ := hquery
  rcases r with e | snapshot
  · exact ⟨rfl, hcontrol⟩
  · have happlied := applyLevels hcontrol snapshot.verbosity
    exact ⟨congrArg Except.ok happlied.result, happlied.control⟩

theorem setVerbosity (h : s.control = s'.control) {target : VerbosityTarget}
    {level : VerbosityLevel}
    (hsettled : SettledAlike (s.made (.setVerbosity target level))
      (s'.made (.setVerbosity target level))) :
    SameResult (s.setVerbosity target level) (s'.setVerbosity target level) := by
  obtain ⟨hmonitor, hregistry, hverbosity, htraces, hstate⟩ := control_eq_iff.1 h
  by_cases hguard : s.verbosity.isHeld = true
  · have hguard' : s'.verbosity.isHeld = true := hverbosity ▸ hguard
    rw [setVerbosity_of_isHeld _ hguard, setVerbosity_of_isHeld _ hguard', ← hverbosity]
    exact ⟨rfl, control_eq_iff.2 ⟨hmonitor, hregistry, rfl, htraces, hstate⟩⟩
  · have hguard' : ¬ s'.verbosity.isHeld = true := hverbosity ▸ hguard
    rw [made_setVerbosity _ hguard, made_setVerbosity _ hguard', settledAlike_cons] at hsettled
    -- the level is written and then everything is read back, whatever became of the first
    have hwritten := call (asking_congr h target level) hsettled.1
    have hrefreshed : SameResult (s.asked target level).refreshVerbosity
        (s'.asked target level).refreshVerbosity := by
      refine refreshVerbosity hwritten.control ?_
      rw [made_refreshVerbosity, made_refreshVerbosity]
      exact hsettled.2
    obtain ⟨hmonitor, hregistry, hverbosity, htraces, hstate⟩ :=
      control_eq_iff.1 hrefreshed.control
    constructor
    · rw [fst_setVerbosity_of_not_isHeld _ hguard, fst_setVerbosity_of_not_isHeld _ hguard']
      show Except.bind _ (fun _ => (s.asked target level).refreshVerbosity.1.map _) =
        Except.bind _ fun _ => (s'.asked target level).refreshVerbosity.1.map _
      rw [hwritten.result, hrefreshed.result]
    · rw [setVerbosity_of_not_isHeld _ hguard, setVerbosity_of_not_isHeld _ hguard']
      refine control_eq_iff.2 ⟨hmonitor, hregistry, ?_, htraces, hstate⟩
      exact congrArg (fun v => (v.settle target).2) hverbosity

theorem sendCommand (h : s.control = s'.control) {c : TraceCommand}
    (hsettled : (s.settledCall "trace" c.args).settlement =
      (s'.settledCall "trace" c.args).settlement) :
    SameResult (s.sendCommand c) (s'.sendCommand c) := by
  obtain ⟨hresult, hcontrol⟩ := call h hsettled
  obtain ⟨hmonitor, hregistry, hverbosity, htraces, hstate⟩ := control_eq_iff.1 hcontrol
  rw [traces_call, traces_call] at htraces
  constructor
  · rw [fst_sendCommand, fst_sendCommand, hresult]
  · rw [snd_sendCommand, snd_sendCommand, hresult, htraces]
    exact control_eq_iff.2 ⟨hmonitor, hregistry, hverbosity, rfl, hstate⟩

theorem sendCommands (h : s.control = s'.control) {l : List TraceCommand}
    (hsettled : SettledAlike (s.settledCalls l) (s'.settledCalls l)) :
    SameResult (s.sendCommands l) (s'.sendCommands l) := by
  induction l generalizing s s' with
  | nil => exact ⟨rfl, h⟩
  | cons c rest ih =>
    obtain ⟨hfirst, hrest⟩ := settledAlike_cons.1 hsettled
    obtain ⟨hresult, hcontrol⟩ := sendCommand h hfirst
    obtain ⟨hothers, hlast⟩ := ih hcontrol hrest
    rw [sendCommands_cons, sendCommands_cons, hresult, hothers]
    exact ⟨rfl, hlast⟩

theorem untraceAll (h : s.control = s'.control)
    (hsettled : (s.settledCall "trace" TraceCommand.dropAll.args).settlement =
      (s'.settledCall "trace" TraceCommand.dropAll.args).settlement) :
    SameResult s.untraceAll s'.untraceAll := by
  obtain ⟨hresult, hcontrol⟩ := call h hsettled
  obtain ⟨hmonitor, hregistry, hverbosity, htraces, hstate⟩ := control_eq_iff.1 hcontrol
  rw [traces_call, traces_call] at htraces
  constructor
  · rw [fst_untraceAll, fst_untraceAll, hresult]
  · rw [snd_untraceAll, snd_untraceAll, hresult, htraces]
    exact control_eq_iff.2 ⟨hmonitor, hregistry, hverbosity, rfl, hstate⟩

theorem trace (h : s.control = s'.control) {a : TraceAction}
    (hsettled : SettledAlike (s.made (.trace a)) (s'.made (.trace a))) :
    SameResult (s.trace a) (s'.trace a) := by
  cases a with
  | select tag mode =>
    obtain ⟨hmonitor, hregistry, hverbosity, htraces, hstate⟩ := control_eq_iff.1 h
    rw [made_trace, made_trace, commands, commands, ← htraces] at hsettled
    rw [trace_select, trace_select, ← htraces]
    have hselected : ({ s with traces := (s.traces.select tag mode).2 } : Session τ).control =
        ({ s' with traces := (s.traces.select tag mode).2 } : Session τ').control :=
      control_eq_iff.2 ⟨hmonitor, hregistry, hverbosity, rfl, hstate⟩
    refine sendCommands hselected ?_
    rw [s.settledCalls_traces, s'.settledCalls_traces]
    exact hsettled
  | untraceAll =>
    rw [made_trace, made_trace] at hsettled
    exact untraceAll h (settledAlike_cons.1 hsettled).1

theorem close (h : s.control = s'.control)
    (hsettled : SettledAlike (s.made .close) (s'.made .close)) :
    SameResult s.close s'.close := by
  obtain ⟨hmonitor, hregistry, hverbosity, htraces, hstate⟩ := control_eq_iff.1 h
  rw [made_close, made_close, hstate] at hsettled
  by_cases hclosed : s'.state = .closed
  · constructor
    · rw [fst_close, fst_close, hstate, if_pos hclosed, if_pos hclosed]
    · rw [snd_close, snd_close, hstate, if_pos hclosed, if_pos hclosed]
      exact control_eq_iff.2 ⟨hmonitor, hregistry, hverbosity, htraces, rfl⟩
  · rw [if_neg hclosed, if_neg hclosed] at hsettled
    obtain ⟨hresult, hcontrol⟩ := untraceAll h (settledAlike_cons.1 hsettled).1
    obtain ⟨hmonitor, hregistry, hverbosity, htraces, -⟩ := control_eq_iff.1 hcontrol
    constructor
    · rw [fst_close, fst_close, hstate, if_neg hclosed, if_neg hclosed, hresult]
    · rw [snd_close, snd_close, hstate, if_neg hclosed, if_neg hclosed]
      exact control_eq_iff.2 ⟨hmonitor, hregistry, hverbosity, htraces, rfl⟩

end SameResult

end Operations

/-! ### Actions of control -/

section Actions

variable [Channel τ] [Channel τ'] {s : Session τ} {s' : Session τ'}

/-- Whether an action belongs to control. Waiting for an event does when the session learns by it
that the channel was closed. -/
def isControl (s : Session τ) : Action → Bool
  | .handlePush _ | .clearTraceEvents | .setShowMonitorEvents _ | .setLogEnabled _ | .clearLog =>
    false
  | .nextEvent => s.findsEnd && s.state != .closed
  | _ => true

theorem control_nextEvent (s : Session τ) :
    s.nextEvent.2.control = { s.control with state := s.nextEvent.2.state } := by
  obtain ⟨feed, kept, state, h⟩ := s.nextEvent_frame
  rw [h]
  rfl

/-- **Presentation leaves control alone, and calls nothing.** -/
theorem control_of_not_isControl {a : Action} (h : s.isControl a = false) :
    (s.perform a).2.control = s.control ∧ s.made a = [] := by
  cases a with
  | handlePush push => exact ⟨s.control_handlePush push, s.made_handlePush push⟩
  | nextEvent =>
    refine ⟨?_, s.made_nextEvent⟩
    have hstate : s.nextEvent.2.state = s.state := by
      rw [state_nextEvent]
      split
      · simp_all [isControl]
      · rfl
    show s.nextEvent.2.control = s.control
    rw [control_nextEvent, hstate]
    rfl
  | clearTraceEvents | setShowMonitorEvents | setLogEnabled | clearLog => exact ⟨rfl, rfl⟩
  | _ => contradiction

omit [Channel τ'] in
/-- The event that belongs to control is the end of events. -/
theorem nextEvent_of_isControl (h : s.isControl .nextEvent = true) :
    s.nextEvent.1 = .ended ∧ s.nextEvent.2.state = .closed := by
  obtain ⟨hend, -⟩ : s.findsEnd = true ∧ (s.state != .closed) = true := by
    simpa [isControl] using h
  exact ⟨fst_nextEvent_of_findsEnd hend, by rw [state_nextEvent, if_pos hend]⟩

theorem SameResult.nextEvent (h : s.control = s'.control) (hs : s.isControl .nextEvent = true)
    (hs' : s'.isControl .nextEvent = true) : SameResult s.nextEvent s'.nextEvent := by
  obtain ⟨hended, hclosed⟩ := nextEvent_of_isControl hs
  obtain ⟨hended', hclosed'⟩ := nextEvent_of_isControl hs'
  constructor
  · rw [hended, hended']
  · rw [control_nextEvent, control_nextEvent, hclosed, hclosed', h]

/-- **Actions of control do the same to both sessions**, if their calls are settled alike. -/
theorem SameResult.perform (h : s.control = s'.control) {a : Action} (hs : s.isControl a = true)
    (hs' : s'.isControl a = true) (hsettled : SettledAlike (s.made a) (s'.made a)) :
    SameResult (s.perform a) (s'.perform a) := by
  have hmap {α : Type} (f : α → Outcome) {p : α × Session τ} {p' : α × Session τ'}
      (h : SameResult p p') : SameResult (p.map f id) (p'.map f id) :=
    ⟨congrArg f h.result, h.control⟩
  obtain ⟨hmonitor, hregistry, hverbosity, htraces, hstate⟩ := control_eq_iff.1 h
  cases a with
  | discover => exact hmap _ (.discover h hsettled)
  | refreshVerbosity => exact hmap _ (.refreshVerbosity h hsettled)
  | setVerbosity target level => exact hmap _ (.setVerbosity h hsettled)
  | trace a => exact hmap _ (.trace h hsettled)
  | sessionInfo refreshToken => exact hmap _ (.sessionInfo h hsettled)
  | nextEvent => exact hmap _ (.nextEvent h hs hs')
  | close => exact hmap _ (.close h hsettled)
  | hold =>
    refine ⟨rfl, control_eq_iff.2 ⟨hmonitor, hregistry, ?_, htraces, hstate⟩⟩
    exact congrArg VerbosityState.hold hverbosity
  | release =>
    refine ⟨rfl, control_eq_iff.2 ⟨hmonitor, hregistry, ?_, htraces, hstate⟩⟩
    exact congrArg VerbosityState.release hverbosity
  | handlePush | clearTraceEvents | setShowMonitorEvents | setLogEnabled | clearLog =>
    contradiction

theorem settledCalls_eq (h : s.control = s'.control) {l : List TraceCommand}
    (hsettled : SettledAlike (s.settledCalls l) (s'.settledCalls l)) :
    s.settledCalls l = s'.settledCalls l := by
  induction l generalizing s s' with
  | nil => rfl
  | cons c rest ih =>
    obtain ⟨hfirst, hrest⟩ := settledAlike_cons.1 hsettled
    rw [settledCalls, settledCalls, settledCall_congr h hfirst,
      ih (SameResult.sendCommand h hfirst).control hrest]

/-- **Both sessions make the same calls**, if their calls are settled alike. -/
theorem made_congr (h : s.control = s'.control) {a : Action}
    (hsettled : SettledAlike (s.made a) (s'.made a)) : s.made a = s'.made a := by
  obtain ⟨hmonitor, hregistry, hverbosity, htraces, hstate⟩ := control_eq_iff.1 h
  have hsingle {verb : String} {args : Json}
      (hsettled : SettledAlike [s.settledCall verb args] [s'.settledCall verb args]) :
      [s.settledCall verb args] = [s'.settledCall verb args] := by
    rw [settledCall_congr h (settledAlike_cons.1 hsettled).1]
  cases a with
  | discover =>
    rw [made_discover, made_discover] at hsettled ⊢
    exact hsingle hsettled
  | refreshVerbosity =>
    rw [made_refreshVerbosity, made_refreshVerbosity] at hsettled ⊢
    exact hsingle hsettled
  | setVerbosity target level =>
    by_cases hguard : s.verbosity.isHeld = true
    · rw [made_setVerbosity_of_isHeld _ hguard,
        made_setVerbosity_of_isHeld _ (hverbosity ▸ hguard)]
    · rw [made_setVerbosity _ hguard, made_setVerbosity _ (hverbosity ▸ hguard)] at hsettled ⊢
      obtain ⟨hset, hget⟩ := settledAlike_cons.1 hsettled
      have hasked : (s.asked target level).control = (s'.asked target level).control :=
        (SameResult.call (asking_congr h target level) hset).control
      rw [settledCall_congr (asking_congr h target level) hset,
        settledCall_congr hasked (settledAlike_cons.1 hget).1]
  | trace a =>
    have hcommands : s.commands a = s'.commands a := by
      cases a with
      | select tag mode => rw [commands, commands, htraces]
      | untraceAll => rfl
    rw [made_trace, made_trace, hcommands] at hsettled ⊢
    exact settledCalls_eq h hsettled
  | sessionInfo refreshToken =>
    rw [made_sessionInfo, made_sessionInfo] at hsettled ⊢
    exact hsingle hsettled
  | nextEvent => rw [made_nextEvent, made_nextEvent]
  | handlePush push => rw [made_handlePush, made_handlePush]
  | close =>
    rw [made_close, made_close, hstate] at hsettled ⊢
    split at hsettled
    · rw [if_pos ‹_›, if_pos ‹_›]
    · rw [if_neg ‹_›, if_neg ‹_›]
      exact hsingle hsettled
  | clearTraceEvents | setShowMonitorEvents | setLogEnabled | clearLog | hold | release => rfl

end Actions

/-! ### Runs -/

/-- An action of control, with its result and with what the session is like afterwards. -/
structure JournalEntry where
  action : Action
  result : Outcome
  after : Control
  deriving Inhabited

section Run

variable {δ : Type w} {δ' : Type x} [Channel τ] [Channel τ'] [Surroundings δ τ]
  [Surroundings δ' τ']

/-- The entry of a step, if it is an action of control. -/
def noted? (s : Session τ) : Step δ → Option JournalEntry
  | .act a => if s.isControl a then some ⟨a, (s.perform a).1, (s.perform a).2.control⟩ else none
  | .disturb _ => none

/-- The actions of control in a run, oldest first. -/
def journal (s : Session τ) : List (Step δ) → List JournalEntry
  | [] => []
  | e :: steps => (s.noted? e).toList ++ (s.step e).journal steps

/-- A step without an entry leaves control alone, and calls nothing. -/
theorem control_of_noted?_eq_none {s : Session τ} {e : Step δ} (h : s.noted? e = none) :
    (s.step e).control = s.control ∧ s.stepCalls e = [] := by
  cases e with
  | act a =>
    refine control_of_not_isControl (Bool.eq_false_iff.2 fun ha => ?_)
    simp [noted?, ha] at h
  | disturb d => exact ⟨rfl, rfl⟩

/-- A run with an empty journal leaves control alone, and calls nothing. -/
theorem control_of_journal_eq_nil {s : Session τ} {steps : List (Step δ)}
    (h : s.journal steps = []) :
    (s.run steps).control = s.control ∧ s.transcript steps = [] := by
  induction steps generalizing s with
  | nil => exact ⟨rfl, rfl⟩
  | cons e steps ih =>
    obtain ⟨hnoted, hrest⟩ := List.append_eq_nil_iff.1 h
    obtain ⟨hcontrol, hcalls⟩ := control_of_noted?_eq_none (Option.toList_eq_nil_iff.1 hnoted)
    obtain ⟨hrun, htranscript⟩ := ih hrest
    refine ⟨hrun.trans hcontrol, ?_⟩
    rw [transcript_cons, hcalls, htranscript]
    rfl

/-- Up to the first action in its journal a run leaves control alone, and calls nothing. -/
theorem exists_of_journal_eq_cons {s : Session τ} {steps : List (Step δ)} {a : Action}
    {actions : List Action} (h : (s.journal steps).map JournalEntry.action = a :: actions) :
    ∃ (t : Session τ) (rest : List (Step δ)), t.control = s.control ∧ t.isControl a = true ∧
      s.journal steps = ⟨a, (t.perform a).1, (t.perform a).2.control⟩ ::
        (t.perform a).2.journal rest ∧
      s.transcript steps = t.made a ++ (t.perform a).2.transcript rest ∧
      s.run steps = (t.perform a).2.run rest := by
  induction steps generalizing s with
  | nil => contradiction
  | cons e steps ih =>
    cases hnoted : s.noted? e with
    | none =>
      obtain ⟨hcontrol, hcalls⟩ := control_of_noted?_eq_none hnoted
      rw [journal, hnoted] at h
      obtain ⟨t, rest, ht, hta, hjournal, htranscript, hrun⟩ := ih h
      refine ⟨t, rest, ht.trans hcontrol, hta, ?_, ?_, hrun⟩
      · rw [journal, hnoted]
        exact hjournal
      · rw [transcript_cons, hcalls]
        exact htranscript
    | some entry =>
      cases e with
      | disturb d => contradiction
      | act b =>
        have hb : s.isControl b = true := by
          by_contra hb
          simp [noted?, hb] at hnoted
        have hjournal : s.journal (.act b :: steps) =
            ⟨b, (s.perform b).1, (s.perform b).2.control⟩ :: (s.perform b).2.journal steps := by
          rw [journal, noted?, if_pos hb]
          rfl
        rw [hjournal, List.map_cons] at h
        obtain ⟨rfl, -⟩ := List.cons.inj h
        exact ⟨s, steps, rfl, hb, hjournal, s.transcript_cons (.act b) steps, rfl⟩

/-- **Pushes and presentation do not interfere with control.** Take two sessions, over channels of
any kinds to which anything may happen, that are alike at first: they have the monitoring API, the
registry, the levels, the trace subscriptions and the connection state in common, and may have
different settings of the log, capacities, kept trace events and `showMonitorEvents`. Take a run of
each, such that the operators do the same in both and both learn alike of closed channels (the
actions in the journals are the same), and daemons and channels settle calls alike (the first call
in one run like the first call in the other, and so on, as long as both make calls). In between,
the runs may handle any pushed events, clear and switch what they like. Then every operation gives
the same in both and leaves the same control, both make the same calls, and they end alike.

That both learn alike of closed channels leaves one case out. A session that waits for events gets
those that are queued before it finds that its channel has ended. So a queued event that only one run
has can put off the step that notices the end, and then the journals differ at this step. -/
theorem control_undisturbed (s : Session τ) (s' : Session τ') (steps : List (Step δ))
    (steps' : List (Step δ')) (hstart : s.control = s'.control)
    (hactions : (s.journal steps).map JournalEntry.action =
      (s'.journal steps').map JournalEntry.action)
    (hsettled : SettledAlike (s.transcript steps) (s'.transcript steps')) :
    s.journal steps = s'.journal steps' ∧ s.transcript steps = s'.transcript steps' ∧
      (s.run steps).control = (s'.run steps').control := by
  -- the induction is on what both journals have in common; steps in between leave control alone
  induction hcommon : (s.journal steps).map JournalEntry.action generalizing s s' steps steps' with
  | nil =>
    have hjournal : s.journal steps = [] := List.map_eq_nil_iff.1 hcommon
    have hjournal' : s'.journal steps' = [] := List.map_eq_nil_iff.1 (hactions ▸ hcommon)
    obtain ⟨hcontrol, htranscript⟩ := control_of_journal_eq_nil hjournal
    obtain ⟨hcontrol', htranscript'⟩ := control_of_journal_eq_nil hjournal'
    exact ⟨hjournal.trans hjournal'.symm, htranscript.trans htranscript'.symm,
      by rw [hcontrol, hcontrol', hstart]⟩
  | cons a actions ih =>
    obtain ⟨t, rest, ht, hta, hjournal, htranscript, hrun⟩ := exists_of_journal_eq_cons hcommon
    obtain ⟨t', rest', ht', hta', hjournal', htranscript', hrun'⟩ :=
      exists_of_journal_eq_cons (hactions ▸ hcommon)
    have hbefore : t.control = t'.control := by rw [ht, ht', hstart]
    rw [htranscript, htranscript'] at hsettled
    have hmade := made_congr hbefore hsettled.of_append
    obtain ⟨hresult, hafter⟩ := SameResult.perform hbefore hta hta' hsettled.of_append
    rw [hmade] at hsettled
    rw [hjournal, hjournal', List.map_cons, List.map_cons] at hactions
    rw [hjournal, List.map_cons] at hcommon
    obtain ⟨hrestjournal, hresttranscript, hrestcontrol⟩ :=
      ih _ _ rest rest' hafter (List.cons.inj hactions).2 hsettled.append_left
        (List.cons.inj hcommon).2
    rw [hjournal, hjournal', htranscript, htranscript', hrun, hrun', hresult, hafter, hmade,
      hrestjournal, hresttranscript]
    exact ⟨rfl, rfl, hrestcontrol⟩

/-- A plain session, and one that logs, takes pushed events and clears its log in between. Both
subscribe, are cut off, and close. -/
theorem control_undisturbed_calculator :
    let tag : TraceTag := ⟨some "calc", .request⟩
    let mode := (TraceMode.ofName? "all").getD .off
    let push : PushEvent := ⟨"monitor/trace", none⟩
    let logging : SessionConfig := { SessionConfig.default with
      showMonitorEvents := true, logEnabled := true, maxLogEntries := 1, maxTraceEvents := 0 }
    let s := new Daemon.calculator.line SessionConfig.default
    let s' := new Daemon.calculator.line logging
    let steps : List (Step Incident) :=
      [.act .discover, .act (.trace (.select tag mode)), .disturb .sever, .act .nextEvent,
        .act .close]
    let steps' : List (Step Incident) :=
      [.act .discover, .disturb (.push push), .act .nextEvent, .act .clearLog,
        .act (.handlePush push), .act (.setShowMonitorEvents false), .act (.trace (.select tag mode)),
        .disturb .sever, .act .nextEvent, .act .clearTraceEvents, .act .close]
    s.control = s'.control ∧
      (s.journal steps).map JournalEntry.action = (s'.journal steps').map JournalEntry.action ∧
      SettledAlike (s.transcript steps) (s'.transcript steps') ∧
      (s.run steps).control = (s'.run steps').control ∧ (s.run steps).traces.mode tag = mode ∧
      (s.run steps).feed.entries.length = 0 ∧ (s'.run steps').feed.entries.length = 1 := by
  refine ⟨by rfl, by rfl, settledAlike_of_map_eq ?_,
    (control_undisturbed _ _ _ _ ?_ ?_ (settledAlike_of_map_eq ?_)).2.2, by decide +kernel,
    by decide +kernel, by decide +kernel⟩
  all_goals rfl

end Run

end Session

end LiveTrace
