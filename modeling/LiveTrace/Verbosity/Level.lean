import LiveTrace.Failure
import LiveTrace.Text.Basic
/-!
# LiveTrace.Verbosity.Level

Verbosity levels. The daemon stores numbers, and `warning` and `notice` share one, so a level that
is written as `notice` reads back as `warning`. Numbers without a name occur only in what the
daemon reports; a number that the operator gives is brought into the range of the names.
-/

namespace LiveTrace

/-- How talkative an API is. -/
inductive VerbosityLevel
  | error
  | warning
  | notice
  | info
  | debug
  /-- A number without a name. -/
  | raw (n : Int)
  deriving DecidableEq, Inhabited

namespace VerbosityLevel

/-- The levels with a name, from least to most talkative. -/
def named : List VerbosityLevel := [error, warning, notice, info, debug]

/-- The name of a level. -/
def name? : VerbosityLevel → Option String
  | error => some "error"
  | warning => some "warning"
  | notice => some "notice"
  | info => some "info"
  | debug => some "debug"
  | raw _ => none

/-- The number by which the daemon knows a level. -/
def number : VerbosityLevel → Int
  | error => 0
  | warning | notice => 1
  | info => 2
  | debug => 3
  | raw n => n

/-- Bring a number into the range of the named levels. -/
def clamp (n : Int) : Int := max 0 (min n 3)

/-- The level of a number, which is brought into the range of the named levels. -/
def ofNumber (n : Int) : VerbosityLevel :=
  if n ≤ 0 then error else if n = 1 then warning else if n = 2 then info else debug

/-- The level with a name, in letters of either case. -/
def ofName? (s : String) : Option VerbosityLevel :=
  named.find? fun l => l.name? == some (Text.lowerAscii s)

/-- The level that the daemon reports: a name, or a number which is kept as it is. -/
def ofJson? : Json → Option VerbosityLevel
  | .string s => ofName? s
  | v => v.asInt64?.map fun n => if 0 ≤ n ∧ n ≤ 3 then ofNumber n else raw n

/-- The value that tells the daemon a level. -/
def toJson (l : VerbosityLevel) : Json :=
  match l.name? with
  | some name => .string name
  | none => .int l.number

/-- The text of a level. -/
def text (l : VerbosityLevel) : String :=
  match l.name? with
  | some name => name
  | none => toString l.number

/-- An integer of 64 bits: digits, with or without a sign. -/
def integer? (cs : List Char) : Option Int :=
  let digits? (ds : List Char) : Option Int :=
    if ds.isEmpty ∨ ¬ ds.all Char.isDigit then none
    else some (ds.foldl (fun n c => n * 10 + (c.toNat - '0'.toNat)) 0 : Nat)
  let n? := match cs with
    | '-' :: ds => (digits? ds).map (- ·)
    | '+' :: ds => digits? ds
    | ds => digits? ds
  n?.filter fun n => decide (-0x8000000000000000 ≤ n ∧ n < 0x8000000000000000)

/-- Read a level, by name or number, ignoring white space around it. -/
def parse (s : String) : Except MonitorError VerbosityLevel :=
  let s := Text.trim s
  match ofName? s with
  | some l => .ok l
  | none =>
    match integer? s.toList with
    | some n => .ok (ofNumber n)
    | none => .error (.invalidLevel s)

/-- Position in the order of levels: named levels first, then the others by number. -/
def rank : VerbosityLevel → Nat × Int
  | error => (0, 0)
  | warning => (1, 0)
  | notice => (2, 0)
  | info => (3, 0)
  | debug => (4, 0)
  | raw n => (5, n)

/-- Whether a level comes before another or is the same. -/
def le (l m : VerbosityLevel) : Bool :=
  decide (l.rank.1 < m.rank.1 ∨ (l.rank.1 = m.rank.1 ∧ l.rank.2 ≤ m.rank.2))

theorem number_ofNumber (n : Int) : (ofNumber n).number = clamp n := by
  unfold ofNumber clamp
  split <;> (try split) <;> (try split) <;> simp only [number] <;> omega

end VerbosityLevel

end LiveTrace
