import LiveTrace.Session.Events
import LiveTrace.Session.Operations
/-!
# LiveTrace.Proofs.Session.Action

**Runs of a session.** What can be done with a session is a value, an `Action`, and what happens to
its channel meanwhile is another, a disturbance; a run is a list of both in any order. Statements
about "any run" are statements about every such list, and those that hold "after every operation"
hold because the beginning of a run is a run too.

The kinds of disturbances belong to the kind of channel (`Surroundings`). Nothing is assumed of
them in general, so that a statement over every type with `Surroundings` holds of channels that
change behind the back of the session in any way.
-/

namespace LiveTrace

universe u v

/-- What an operator does about trace subscriptions. -/
inductive TraceAction
  /-- Select a mode for a tag. -/
  | select (tag : TraceTag) (mode : TraceMode)
  /-- Retract every subscription. -/
  | untraceAll
  deriving DecidableEq, Inhabited

/-- Something that can happen to channels, and what it does. -/
class Surroundings (δ : Type v) (τ : Type u) where
  disturb : τ → δ → τ

/-- A channel that is left alone. -/
instance {τ : Type u} : Surroundings Empty τ := ⟨fun _ d => d.elim⟩

namespace Session

/-- What can be done with a session. -/
inductive Action
  | discover
  | setVerbosity (target : VerbosityTarget) (level : VerbosityLevel)
  | refreshVerbosity
  | trace (a : TraceAction)
  | sessionInfo (refreshToken : Bool)
  | nextEvent
  | handlePush (push : PushEvent)
  | clearTraceEvents
  | setShowMonitorEvents (shown : Bool)
  | setLogEnabled (enabled : Bool)
  | clearLog
  /-- Hold one more verbosity guard. -/
  | hold
  /-- Let go of one verbosity guard. -/
  | release
  | close
  deriving Inhabited

/-- What an action gives. -/
inductive Outcome
  | nothing
  | done (result : Except MonitorError Unit)
  | merged (result : Except MonitorError MergeReport)
  | refreshed (result : Except MonitorError Nat)
  | informed (result : Except MonitorError SessionInfo)
  | arrived (event : NextEvent)
  | classified (c : Classification)
  deriving Inhabited

section Perform

variable {τ : Type u} [Channel τ]

/-- Do something about trace subscriptions. -/
def trace (s : Session τ) : TraceAction → Except MonitorError Unit × Session τ
  | .select tag mode => s.selectTrace tag mode
  | .untraceAll => s.untraceAll

/-- Do something with a session. -/
def perform (s : Session τ) : Action → Outcome × Session τ
  | .discover => s.discover.map .merged id
  | .setVerbosity target level => (s.setVerbosity target level).map .done id
  | .refreshVerbosity => s.refreshVerbosity.map .refreshed id
  | .trace a => (s.trace a).map .done id
  | .sessionInfo refreshToken => (s.sessionInfo refreshToken).map .informed id
  | .nextEvent => s.nextEvent.map .arrived id
  | .handlePush push => (s.handlePush push).map .classified id
  | .clearTraceEvents => (.nothing, s.clearTraceEvents)
  | .setShowMonitorEvents shown => (.nothing, s.setShowMonitorEvents shown)
  | .setLogEnabled enabled => (.nothing, s.mapFeed fun f => f.setEnabled enabled)
  | .clearLog => (.nothing, s.mapFeed .clear)
  | .hold => (.nothing, { s with verbosity := s.verbosity.hold })
  | .release => (.nothing, { s with verbosity := s.verbosity.release })
  | .close => s.close.map .done id

end Perform

/-! ### Runs -/

/-- One step of a run. -/
inductive Step (δ : Type v)
  | act (a : Action)
  | disturb (d : δ)
  deriving Inhabited

section Run

variable {τ : Type u} {δ : Type v} [Channel τ] [Surroundings δ τ]

/-- A session after a step. -/
def step (s : Session τ) : Step δ → Session τ
  | .act a => (s.perform a).2
  | .disturb d => s.mapChannel fun c => Surroundings.disturb c d

/-- A session after a run. -/
def run (s : Session τ) (steps : List (Step δ)) : Session τ := steps.foldl step s

@[simp] theorem run_nil (s : Session τ) : s.run ([] : List (Step δ)) = s := rfl

theorem run_append (s : Session τ) (before after : List (Step δ)) :
    s.run (before ++ after) = (s.run before).run after := List.foldl_append

theorem run_concat (s : Session τ) (steps : List (Step δ)) (e : Step δ) :
    s.run (steps ++ [e]) = (s.run steps).step e := run_append s steps [e]

/-- What holds at first and is kept by the steps of a run holds after the run. -/
theorem run_induction {motive : Session τ → Prop} (s : Session τ) {steps : List (Step δ)}
    (start : motive s)
    (keep : ∀ (s : Session τ), motive s → ∀ e ∈ steps, motive (s.step e)) :
    motive (s.run steps) := by
  induction steps generalizing s with
  | nil => exact start
  | cons e steps ih =>
    refine ih (s.step e) (keep s start e List.mem_cons_self) ?_
    exact fun s hs e he => keep s hs e (List.mem_cons_of_mem _ he)

/-- Some step of a run is as told, as seen from the session before it. -/
def Meets (s : Session τ) (steps : List (Step δ)) (P : Session τ → Step δ → Prop) : Prop :=
  ∃ before e after, steps = before ++ e :: after ∧ P (s.run before) e

theorem not_meets_nil (s : Session τ) (P : Session τ → Step δ → Prop) : ¬ s.Meets [] P := by
  rintro ⟨before, e, after, h, -⟩
  exact List.append_ne_nil_of_right_ne_nil before (List.cons_ne_nil e after) h.symm

theorem meets_cons (s : Session τ) (e : Step δ) (steps : List (Step δ))
    (P : Session τ → Step δ → Prop) :
    s.Meets (e :: steps) P ↔ P s e ∨ (s.step e).Meets steps P := by
  constructor
  · rintro ⟨before, e', after, h, hP⟩
    cases before with
    | nil =>
      obtain ⟨rfl, rfl⟩ := List.cons.inj h
      exact .inl hP
    | cons e'' before =>
      obtain ⟨rfl, rfl⟩ := List.cons.inj h
      exact .inr ⟨before, e', after, rfl, hP⟩
  · rintro (hP | ⟨before, e', after, rfl, hP⟩)
    · exact ⟨[], e, steps, rfl, hP⟩
    · exact ⟨e :: before, e', after, rfl, hP⟩

end Run

end Session

end LiveTrace
