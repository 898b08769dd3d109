import LiveTrace.Json.Printer
import LiveTrace.Table
import LiveTrace.Trace.Tag
/-!
# LiveTrace.Trace.Subscriptions

Requests to change trace subscriptions, with the arguments of the calls that carry them, and the
trace subscriptions of a session: one mode at a time for each tag. The daemon never replaces a
subscription by itself, so moving a tag from one active mode to another takes a drop and then an
add (`plan`).

Two modes are kept for a tag: the one that the operator selected last and the one that the daemon
acknowledged last. Planning looks at the former only. Where the two differ the tag has drifted.
-/

namespace LiveTrace

/-! ## Commands -/

/-- A request to change trace subscriptions. -/
inductive TraceCommand
  /-- Retract the subscription of a tag. -/
  | drop (tag : TraceTag)
  /-- Subscribe to a tag, in a mode other than off. -/
  | add (tag : TraceTag) (mode : TraceMode)
  /-- Retract every subscription. -/
  | dropAll
  deriving DecidableEq, Inhabited

namespace TraceCommand

/-- What a subscription asks for: its tag, the mode of its category, and the API unless it is for
every API. -/
def specification (tag : TraceTag) (mode : TraceMode) : Json :=
  .ofFields ([("tag", .string tag.text), ("name", .string "trace"),
    (tag.category.name, .string mode.name)] ++
      (tag.api.map fun api => ("api", Json.string api)).toList)

/-- Arguments of the call. -/
def args : TraceCommand → Json
  | drop tag => .object [("drop", .object [("tag", .string tag.text)])]
  | add tag mode => .object [("add", specification tag mode)]
  | dropAll => .object [("drop", .bool true)]

/-- The command in a line of text. -/
def text : TraceCommand → String
  | drop tag => "drop " ++ tag.text
  | add tag mode => "add " ++ tag.text ++ "=" ++ mode.name
  | dropAll => "drop all"

end TraceCommand

/-! ## Modes of a session -/

/-- The modes of one tag. -/
structure TraceSlot where
  /-- Mode that the operator selected last. -/
  displayed : TraceMode
  /-- Mode that the daemon acknowledged last. -/
  confirmed : TraceMode
  deriving DecidableEq, Inhabited

/-- A tag that was never selected. -/
def TraceSlot.off : TraceSlot := ⟨.off, .off⟩

/-- The trace subscriptions of a session. -/
structure TraceSubscriptions where
  slots : Table TraceTag TraceSlot
  deriving Inhabited

namespace TraceSubscriptions

/-- Every tag is off. -/
def empty : TraceSubscriptions := ⟨.empty⟩

/-- The modes of a tag. -/
def slot (s : TraceSubscriptions) (tag : TraceTag) : TraceSlot := (s.slots.get? tag).getD .off

/-- Mode of a tag as displayed. -/
def mode (s : TraceSubscriptions) (tag : TraceTag) : TraceMode := (s.slot tag).displayed

/-- Mode of a tag as acknowledged. -/
def confirmedMode (s : TraceSubscriptions) (tag : TraceTag) : TraceMode := (s.slot tag).confirmed

/-- Replace the modes of a tag. -/
def setSlot (s : TraceSubscriptions) (tag : TraceTag) (slot : TraceSlot) : TraceSubscriptions :=
  ⟨s.slots.insert tag slot⟩

/-- Commands that move a tag from one mode to another. -/
def commands (tag : TraceTag) (current wanted : TraceMode) : List TraceCommand :=
  if current = wanted then []
  else
    (if current.isOff then [] else [.drop tag]) ++
      (if wanted.isOff then [] else [.add tag wanted])

/-- Commands that move a tag to a mode. -/
def plan (s : TraceSubscriptions) (tag : TraceTag) (wanted : TraceMode) : List TraceCommand :=
  commands tag (s.mode tag) wanted

/-- Select a mode: the commands to issue, in order. The mode is displayed at once, and stays so if
the commands fail later. -/
def select (s : TraceSubscriptions) (tag : TraceTag) (wanted : TraceMode) :
    List TraceCommand × TraceSubscriptions :=
  match s.plan tag wanted with
  | [] => ([], s)
  | commands => (commands, s.setSlot tag { s.slot tag with displayed := wanted })

/-- Note that the daemon acknowledged a command. -/
def confirm (s : TraceSubscriptions) : TraceCommand → TraceSubscriptions
  | .drop tag => s.setSlot tag { s.slot tag with confirmed := .off }
  | .add tag mode => s.setSlot tag { s.slot tag with confirmed := mode }
  | .dropAll => ⟨s.slots.mapValues fun slot => { slot with confirmed := .off }⟩

/-- Display every tag as off. -/
def resetAll (s : TraceSubscriptions) : TraceSubscriptions :=
  ⟨s.slots.mapValues fun slot => { slot with displayed := .off }⟩

/-- The tags with an active mode on display. -/
def active (s : TraceSubscriptions) : List (TraceTag × TraceMode) :=
  (s.slots.entries.filter fun e => !e.2.displayed.isOff).map fun e => (e.1, e.2.displayed)

/-- The tags displayed in another mode than the daemon acknowledged. -/
def drifted (s : TraceSubscriptions) : List TraceTag :=
  (s.slots.entries.filter fun e => e.2.displayed != e.2.confirmed).map Prod.fst

/-! ## Slots after each operation -/

theorem slot_setSlot (s : TraceSubscriptions) (tag other : TraceTag) (slot : TraceSlot) :
    (s.setSlot tag slot).slot other = if other = tag then slot else s.slot other := by
  by_cases h : other = tag <;> simp [setSlot, TraceSubscriptions.slot, Table.get?_insert, h]

theorem fst_select (s : TraceSubscriptions) (tag : TraceTag) (wanted : TraceMode) :
    (s.select tag wanted).1 = s.plan tag wanted := by
  unfold select
  cases s.plan tag wanted <;> rfl

theorem slot_select (s : TraceSubscriptions) (tag other : TraceTag) (wanted : TraceMode) :
    (s.select tag wanted).2.slot other =
      if other = tag then { s.slot tag with displayed := wanted } else s.slot other := by
  unfold select
  split
  · rename_i hplan
    have hmode : s.mode tag = wanted := by
      by_cases h : s.mode tag = wanted
      · exact h
      · by_cases hc : (s.mode tag).isOff <;> by_cases hw : wanted.isOff <;>
          simp_all [plan, commands, TraceMode.isOff]
    by_cases h : other = tag
    · subst h
      simp [← hmode, mode]
    · simp [h]
  · exact slot_setSlot ..

theorem slot_resetAll (s : TraceSubscriptions) (tag : TraceTag) :
    s.resetAll.slot tag = { s.slot tag with displayed := .off } := by
  simp only [resetAll, TraceSubscriptions.slot, Table.get?_mapValues]
  cases s.slots.get? tag <;> rfl

end TraceSubscriptions

end LiveTrace
