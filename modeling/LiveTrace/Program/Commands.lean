import LiveTrace.Console.View
import LiveTrace.Session.Events
import LiveTrace.Session.Operations
import LiveTrace.Trace.Tag
/-!
# LiveTrace.Program.Commands

The commands of the program on a session: each gives what it prints, its result and the session
afterwards.
-/

namespace LiveTrace

universe u

/-- A failure as it is reported at the end: what failed, and why. -/
structure Report where
  what : String
  why : List String
  deriving DecidableEq, Inhabited

/-- The report in a line of text. -/
def Report.message (r : Report) : String := String.intercalate ": " (r.what :: r.why)

/-- What a command comes to. -/
structure Outcome (τ : Type u) (α : Type) where
  /-- What was printed. -/
  output : String
  result : Except Report α
  session : Session τ

namespace Commands

variable {τ : Type u}

/-- Print the APIs with their operations and levels. -/
def showApis (s : Session τ) (console : Console) : Outcome τ Unit :=
  ⟨console.registry s.registry s.verbosity, .ok (), s⟩

/-- Print the confirmed levels. -/
def showVerbosity (s : Session τ) (console : Console) : Outcome τ Unit :=
  ⟨console.verbosity s.verbosity, .ok (), s⟩

variable [Channel τ]

/-- Set a level, then print the levels that the daemon reports. -/
def setVerbosity (s : Session τ) (console : Console) (target : VerbosityTarget)
    (level : VerbosityLevel) : Outcome τ Unit :=
  match s.setVerbosity target level with
  | (.ok (), s) => showVerbosity s console
  | (.error e, s) =>
    ⟨"", .error ⟨"Failed to set verbosity of " ++ target.text ++ " to " ++ level.text,
      [e.message]⟩, s⟩

/-- Print what the daemon says of the client session. -/
def showSession (s : Session τ) (console : Console) (refreshToken : Bool) : Outcome τ Unit :=
  match s.sessionInfo refreshToken with
  | (.ok info, s) => ⟨console.sessionInfo info, .ok (), s⟩
  | (.error e, s) => ⟨"", .error ⟨"Failed to query the client session", [e.message]⟩, s⟩

/-- Select trace modes one after the other, whatever becomes of those before: how many failed. A
failure is printed. -/
def applySelections (s : Session τ) (console : Console) :
    List TraceSelection → String × Nat × Session τ
  | [] => ("", 0, s)
  | selection :: rest =>
    match s.selectTrace selection.tag selection.mode with
    | (.ok (), s) => applySelections s console rest
    | (.error e, s) =>
      let (output, failed, s) := applySelections s console rest
      (console.error ("trace " ++ selection.text ++ ": " ++ e.message) ++ "\n" ++ output,
        failed + 1, s)

/-- What is printed of an event. -/
def eventText (console : Console) (depths : RenderDepths) : Classification → String
  | .trace event => console.traceEvent event depths
  | .unexpected push => console.error ("unexpected event " ++ push.event) ++ "\n"
  | .malformed reason => console.error ("malformed trace event: " ++ reason) ++ "\n"
  | .suppressed _ => ""

/-- Whether an event counts as printed. -/
def isPrinted : Classification → Bool
  | .trace _ => true
  | _ => false

/-- How printing events ended. -/
inductive StreamEnd
  /-- The channel was closed, or printing was stopped. -/
  | stopped
  /-- More events may come. -/
  | waiting
  deriving DecidableEq, Inhabited

/-- What printing events comes to. -/
structure Stream (τ : Type u) where
  output : String
  /-- How many trace events were printed. -/
  printed : Nat
  ending : StreamEnd
  session : Session τ

/-- Print the next events, at most `fuel` of them, until the channel is closed. -/
def streamNext (console : Console) (depths : RenderDepths) : (fuel : Nat) → Session τ → Stream τ
  | 0, s => ⟨"", 0, .waiting, s⟩
  | fuel + 1, s =>
    match s.nextEvent with
    | (.pending, s) => ⟨"", 0, .waiting, s⟩
    | (.ended, s) => ⟨console.error "connection closed" ++ "\n", 0, .stopped, s⟩
    | (.classified c, s) =>
      let rest := streamNext console depths fuel s
      { rest with
        output := eventText console depths c ++ rest.output
        printed := if isPrinted c then rest.printed + 1 else rest.printed }

/-- Print every event that has arrived, and the end of the channel if it follows. -/
def stream (s : Session τ) (console : Console) (depths : RenderDepths) : Stream τ :=
  streamNext console depths (Channel.queued s.channel + 1) s

/-- What is reported when every selection failed. -/
def nothingAccepted : Report := ⟨"No trace selection was accepted", []⟩

/-- Select trace modes and print events, unless every selection failed. -/
def trace (s : Session τ) (console : Console) (depths : RenderDepths)
    (selections : List TraceSelection) : Outcome τ StreamEnd :=
  let (output, failed, s) := applySelections s console selections
  if failed = selections.length then ⟨output, .error nothingAccepted, s⟩
  else
    let events := stream s console depths
    ⟨output ++ events.output, .ok events.ending, events.session⟩

end Commands

end LiveTrace
