import LiveTrace.Verbosity.Level
/-!
# LiveTrace.Verbosity.Target

What a verbosity level applies to, and the request to set one.
-/

namespace LiveTrace

/-- What a verbosity level applies to. -/
inductive VerbosityTarget
  /-- The daemon itself. -/
  | global
  /-- Every API at once. -/
  | all
  /-- One API. -/
  | api (name : String)
  deriving DecidableEq, Inhabited

namespace VerbosityTarget

/-- The target that the daemon means by a name. -/
def ofWireName (name : String) : VerbosityTarget :=
  if name = "" then global else if name = "*" then all else api name

/-- The name by which the daemon knows a target. -/
def wireName : VerbosityTarget → String
  | global => ""
  | all => "*"
  | api name => name

/-- Whether a target is the API of a name. -/
def isApi (name : String) : VerbosityTarget → Bool
  | api n => n == name
  | _ => false

/-- Read a target: `*` is every API, `-` the daemon and any other text the name of an API. White
space around it is ignored. -/
def parse (s : String) : Except MonitorError VerbosityTarget :=
  let t := Text.trim s
  if t = "*" then .ok all
  else if t = "-" then .ok global
  else if t = "" then .error (.invalidTarget s)
  else .ok (api t)

/-- The text of a target. -/
def text : VerbosityTarget → String
  | global => "-"
  | all => "*"
  | api name => name

/-- Rank of the kind of target. -/
def rank : VerbosityTarget → Nat
  | global => 0
  | all => 1
  | api _ => 2

/-- The daemon comes first, then every API at once, then the APIs by name. -/
instance : Ord VerbosityTarget := ⟨compareLex (compareOn rank) (compareOn wireName)⟩

instance : Std.TransOrd VerbosityTarget :=
  inferInstanceAs (Std.TransCmp (compareLex (compareOn rank) (compareOn wireName)))

instance : Std.LawfulEqOrd VerbosityTarget where
  compare_self := Std.ReflCmp.compare_self
  eq_of_compare {s t} h := by
    have h' : compareLex (compareOn rank) (compareOn wireName) s t = .eq := h
    rw [compareLex_eq_eq] at h'
    have hrank : s.rank = t.rank := Std.LawfulEqCmp.eq_of_compare h'.1
    have hname : s.wireName = t.wireName := Std.LawfulEqCmp.eq_of_compare h'.2
    cases s <;> cases t <;> simp_all [rank, wireName]

theorem wireName_ofWireName (name : String) : (ofWireName name).wireName = name := by
  unfold ofWireName
  split
  · simp_all [wireName]
  · split <;> simp_all [wireName]

end VerbosityTarget

/-- A request to set the level of a target. -/
structure VerbosityCommand where
  target : VerbosityTarget
  level : VerbosityLevel
  deriving DecidableEq, Inhabited

/-- Arguments of the call. A level for every API is given by itself, which the daemon applies to
its own level too. -/
def VerbosityCommand.args (c : VerbosityCommand) : Json :=
  match c.target with
  | .all => .object [("verbosity", c.level.toJson)]
  | target => .object [("verbosity", .object [(target.wireName, c.level.toJson)])]

end LiveTrace
