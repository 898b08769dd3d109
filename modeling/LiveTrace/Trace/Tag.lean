import LiveTrace.Failure
import LiveTrace.Text.Basic
/-!
# LiveTrace.Trace.Tag

Names of trace subscriptions. A tag `api/category` names what is traced, with `*` for every API,
and a mode says in how much detail. The category follows the last slash, so the name of an API may
hold slashes itself. The operator writes a selection as `tag=mode`, or as a tag alone for the usual
mode.
-/

namespace LiveTrace

/-! ## Categories -/

/-- What the daemon can trace. -/
inductive TraceCategory
  /-- Requests handled by the APIs. -/
  | request
  /-- Calls that APIs make to the daemon. -/
  | daemon
  /-- Life of the APIs as services. -/
  | service
  /-- Events created and pushed. -/
  | event
  deriving DecidableEq, Inhabited

namespace TraceCategory

/-- Every category, in order. -/
def all : List TraceCategory := [request, daemon, service, event]

/-- The name of a category. -/
def name : TraceCategory → String
  | request => "request"
  | daemon => "daemon"
  | service => "service"
  | event => "event"

/-- Position in the order of categories. -/
def rank : TraceCategory → Nat
  | request => 0
  | daemon => 1
  | service => 2
  | event => 3

/-- The category with a name. -/
def ofName? (s : String) : Option TraceCategory := all.find? fun c => c.name == s

/-- Read a category. -/
def parse (s : String) : Except MonitorError TraceCategory :=
  match ofName? s with
  | some c => .ok c
  | none => .error (.invalidTag s)

theorem ofName?_name (c : TraceCategory) : ofName? c.name = some c := by
  cases c <;> decide +kernel

theorem rank_injective {c d : TraceCategory} (h : c.rank = d.rank) : c = d := by
  cases c <;> cases d <;> simp [rank] at h <;> rfl

end TraceCategory

/-! ## Modes -/

/-- Whether a character may occur in the name of a mode. -/
def isModeChar (c : Char) : Bool := ('a' ≤ c && c ≤ 'z') || c == '_'

/-- A mode of tracing, named by one or more characters from `a` to `z` and `_`. The daemon knows
which names it has. -/
structure TraceMode where
  name : String
  valid : name.toList ≠ [] ∧ name.toList.all isModeChar = true
  deriving DecidableEq

namespace TraceMode

/-- The mode in which nothing is traced. -/
def off : TraceMode := ⟨"no", by decide +kernel⟩

instance : Inhabited TraceMode := ⟨off⟩

/-- Whether nothing is traced. -/
def isOff (m : TraceMode) : Bool := m == off

/-- The mode with a name. -/
def ofName? (s : String) : Option TraceMode :=
  if h : s.toList ≠ [] ∧ s.toList.all isModeChar = true then some ⟨s, h⟩ else none

/-- Read a mode, ignoring white space around it. -/
def parse (s : String) : Except MonitorError TraceMode :=
  match ofName? (Text.trim s) with
  | some m => .ok m
  | none => .error (.invalidMode (Text.trim s))

@[ext] theorem ext {m n : TraceMode} (h : m.name = n.name) : m = n := by
  cases m; cases n; simp_all

theorem isOff_iff {m : TraceMode} : m.isOff = true ↔ m = off := beq_iff_eq

theorem ofName?_name (m : TraceMode) : ofName? m.name = some m := by
  simp [ofName?, m.valid]

end TraceMode

/-! ## Tags -/

/-- What a subscription traces: a category, of one API or of all. -/
structure TraceTag where
  /-- The traced API, or none for all. -/
  api : Option String
  category : TraceCategory
  deriving DecidableEq, Inhabited

namespace TraceTag

/-- The text of a tag. -/
def text (t : TraceTag) : String := t.api.getD "*" ++ "/" ++ t.category.name

/-- The tag with the parts of a text before and after its last slash. -/
def ofParts? (api category : List Char) : Option TraceTag :=
  match TraceCategory.ofName? (String.ofList category) with
  | none => none
  | some c =>
    if api = [] then none
    else if api = ['*'] then some ⟨none, c⟩
    else some ⟨some (String.ofList api), c⟩

/-- Read a tag, ignoring white space around it. -/
def parse (s : String) : Except MonitorError TraceTag :=
  match Text.splitLast? '/' (Text.trimChars s.toList) with
  | none => .error (.invalidTag s)
  | some (api, category) =>
    match ofParts? api category with
    | some t => .ok t
    | none => .error (.invalidTag s)

/-- Tags are ordered by API, all APIs first, and then by category. -/
instance : Ord TraceTag :=
  ⟨compareLex (compareOn TraceTag.api) (compareOn fun t => t.category.rank)⟩

instance : Std.TransOrd TraceTag :=
  inferInstanceAs (Std.TransCmp
    (compareLex (compareOn TraceTag.api) (compareOn fun t => t.category.rank)))

instance : Std.LawfulEqOrd TraceTag where
  compare_self := Std.ReflCmp.compare_self
  eq_of_compare {s t} h := by
    have h' : compareLex (compareOn TraceTag.api)
        (compareOn fun t => t.category.rank) s t = .eq := h
    rw [compareLex_eq_eq] at h'
    have hapi : s.api = t.api := Std.LawfulEqCmp.eq_of_compare h'.1
    have hcat : s.category = t.category :=
      TraceCategory.rank_injective (Std.LawfulEqCmp.eq_of_compare h'.2)
    cases s; cases t; simp_all

end TraceTag

/-! ## Selections -/

/-- A tag and the mode selected for it. -/
structure TraceSelection where
  tag : TraceTag
  mode : TraceMode
  deriving DecidableEq, Inhabited

namespace TraceSelection

/-- Mode of a selection that names none. -/
def defaultMode : String := "common"

/-- Read a selection. The mode follows the first `=`. -/
def parse (s : String) : Except MonitorError TraceSelection := do
  let (tag, mode) :=
    match Text.splitFirst? '=' s.toList with
    | some (tag, mode) => (String.ofList tag, String.ofList mode)
    | none => (s, defaultMode)
  let tag ← TraceTag.parse tag
  let mode ← TraceMode.parse mode
  .ok ⟨tag, mode⟩

/-- The text of a selection. -/
def text (s : TraceSelection) : String := s.tag.text ++ "=" ++ s.mode.name

end TraceSelection

end LiveTrace
