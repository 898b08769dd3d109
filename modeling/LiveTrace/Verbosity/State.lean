import LiveTrace.Table
import LiveTrace.Verbosity.Target
/-!
# LiveTrace.Verbosity.State

The verbosity levels that a session knows. Three levels are kept for a target: the one that the
daemon reported last (`confirmed`), the one on display, and the one that the operator asked for and
that is not settled yet (`pending`).

Displayed levels come from the daemon only. A front end that shows levels tells of every change of
what it shows; while it applies reported levels it holds a guard, and a selection made under a
guard is displayed without being sent.
-/

namespace LiveTrace

/-- Levels by target. -/
abbrev Levels := Table VerbosityTarget VerbosityLevel

/-- The verbosity levels of a session. -/
structure VerbosityState where
  /-- Levels that the daemon reported last. -/
  confirmed : Levels
  /-- Levels on display. -/
  displayed : Levels
  /-- Levels asked for and not settled. -/
  pending : Levels
  /-- Number of guards that are held. -/
  guards : Nat
  deriving Inhabited

namespace VerbosityState

/-- No level is known. -/
def empty : VerbosityState := ⟨.empty, .empty, .empty, 0⟩

/-- Whether some guard is held. -/
def isHeld (s : VerbosityState) : Bool := 0 < s.guards

/-- Hold one more guard. -/
def hold (s : VerbosityState) : VerbosityState := { s with guards := s.guards + 1 }

/-- Let go of one guard. -/
def release (s : VerbosityState) : VerbosityState := { s with guards := s.guards - 1 }

/-- Select a level. Under a guard it is displayed; otherwise it becomes pending, and the request to
send is given. -/
def select (s : VerbosityState) (target : VerbosityTarget) (level : VerbosityLevel) :
    Option VerbosityCommand × VerbosityState :=
  if s.isHeld then (none, { s with displayed := s.displayed.insert target level })
  else (some ⟨target, level⟩, { s with pending := s.pending.insert target level })

/-- Forget the pending level of a target. -/
def settle (s : VerbosityState) (target : VerbosityTarget) :
    Option VerbosityLevel × VerbosityState :=
  (s.pending.get? target, { s with pending := s.pending.erase target })

/-- Apply one reported level: it is confirmed, and displayed by a selection under the guard that
the caller holds. -/
def applyLevel (s : VerbosityState) (target : VerbosityTarget) (level : VerbosityLevel) :
    VerbosityState :=
  ({ s with confirmed := s.confirmed.insert target level }.select target level).2

/-- The levels among the reported ones that count: those of the monitoring API and those that are
not understood are left out. -/
def reported (monitorApi : String) (levels : List (String × Json)) :
    List (VerbosityTarget × VerbosityLevel) :=
  levels.filterMap fun e =>
    if e.1 = monitorApi then none
    else (VerbosityLevel.ofJson? e.2).map fun l => (.ofWireName e.1, l)

/-- Apply reported levels under a guard: how many were applied. -/
def applyReported (s : VerbosityState) (monitorApi : String) (levels : List (String × Json)) :
    Nat × VerbosityState :=
  let reported := reported monitorApi levels
  (reported.length, (reported.foldl (fun s e => s.applyLevel e.1 e.2) s.hold).release)

end VerbosityState

end LiveTrace
