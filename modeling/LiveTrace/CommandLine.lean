/-!
# LiveTrace.CommandLine

Command lines: the words after the name of a program, read by what its commands take
(`CommandLine.read`). Words are read from left to right. The name of a subcommand opens a level of
its own inside of the level before; when the words are used up, the levels are completed from the
innermost outwards (`Level.finish`), so that a fault inside is reported first.

An argument is settled, and its values are looked at, only when the next argument begins or the
words are used up (`Level.resolve`).
-/

namespace LiveTrace.CommandLine

/-- Why a command line is not carried out. -/
inductive Stop
  /-- Help is asked for. -/
  | help
  /-- The version is asked for. -/
  | version
  /-- Nothing is said although a subcommand is needed. -/
  | nothingSaid
  | missingSubcommand
  | unknownSubcommand
  | missingArgument
  | unknownArgument
  /-- An argument that may be given once is given twice. -/
  | repeatedArgument
  /-- An option has no value, or an empty one where that is none. -/
  | missingValue
  /-- An argument that takes no value has one. -/
  | unwantedValue
  /-- A value does not have the form that it needs. -/
  | malformedValue
  deriving DecidableEq, Inhabited

/-- Exit code of a program that stops: 0 if that is what was asked for. -/
def Stop.exitCode : Stop → Nat
  | help | version => 0
  | _ => 2

/-! ## What commands take -/

/-- The ways in which an argument is given. -/
inductive ArgumentKind
  /-- By its name, with a value. -/
  | option
  /-- By its name alone. -/
  | flag
  /-- By its name or a letter; the program then stops. -/
  | stop (letter : Char) (reason : Stop)
  /-- By a value at its place. -/
  | value
  /-- By one or more values at its place. -/
  | values

/-- An argument of a command. -/
structure Argument where
  name : String
  kind : ArgumentKind
  /-- Why a value is refused. -/
  refusal : String → Option Stop

/-- A command with its arguments and subcommands. -/
inductive Command
  | mk (name : String) (arguments : List Argument) (subcommands : List Command)

namespace Argument

/-- Whether an argument is given by its place. -/
def isPositional (a : Argument) : Bool :=
  match a.kind with
  | .value | .values => true
  | _ => false

/-- Why an argument stops the program, if it has the given letter. -/
def stopOf? (letter : Char) (a : Argument) : Option Stop :=
  match a.kind with
  | .stop l reason => if l = letter then some reason else none
  | _ => none

/-- An option whose values are used as they are. -/
def option (name : String) : Argument := ⟨name, .option, fun _ => none⟩

/-- An option whose value may not be empty. -/
def nonemptyOption (name : String) : Argument :=
  ⟨name, .option, fun s => if s.isEmpty then some .missingValue else none⟩

/-- A flag. -/
def flag (name : String) : Argument := ⟨name, .flag, fun _ => none⟩

/-- The request for help. -/
def help : Argument := ⟨"help", .stop 'h' .help, fun _ => none⟩

/-- The request for the version. -/
def version : Argument := ⟨"version", .stop 'V' .version, fun _ => none⟩

/-- Refuse values that cannot be read. -/
def refuseUnless {ε α : Type} (read : String → Except ε α) (s : String) : Option Stop :=
  match read s with
  | .ok _ => none
  | .error _ => some .malformedValue

/-- A value that can be read, at its place. -/
def value {ε α : Type} (name : String) (read : String → Except ε α) : Argument :=
  ⟨name, .value, refuseUnless read⟩

/-- One or more values that can be read. -/
def values {ε α : Type} (name : String) (read : String → Except ε α) : Argument :=
  ⟨name, .values, refuseUnless read⟩

end Argument

namespace Command

/-- Name of a command. -/
def name : Command → String
  | mk name _ _ => name

/-- Arguments of a command. -/
def arguments : Command → List Argument
  | mk _ arguments _ => arguments

/-- Subcommands of a command. -/
def subcommands : Command → List Command
  | mk _ _ subcommands => subcommands

/-- The subcommand of a name. -/
def subcommand? (c : Command) (name : String) : Option Command :=
  c.subcommands.find? fun s => s.name == name

/-- The argument that is given by a name. -/
def named? (c : Command) (name : String) : Option Argument :=
  c.arguments.find? fun a => a.name == name && !a.isPositional

/-- The arguments that are given by their places. -/
def positionals (c : Command) : List Argument := c.arguments.filter Argument.isPositional

/-- Name of the subcommand that gives help. -/
def helpName : String := "help"

/-- The subcommand that gives help on the commands beside it. -/
def help : Command := mk helpName [] []

/-- Help on the command that a path of names leads to. -/
def helpOn : Command → List String → Stop
  | _, [] => .help
  | c, name :: path =>
    match c.subcommand? name with
    | some s => s.helpOn path
    | none => .unknownSubcommand

end Command

/-! ## Words -/

/-- The forms of a word. -/
inductive Word
  /-- Two dashes alone: only values follow. -/
  | separator
  /-- A name after two dashes, with the value after an equals sign. -/
  | name (name : String) (value : Option String)
  /-- A letter after one dash. -/
  | letter (letter : Char)
  /-- Any other word. -/
  | plain
  deriving DecidableEq

/-- The form of a word. One dash alone is a plain word. -/
def Word.ofList : List Char → Word
  | ['-', '-'] => .separator
  | '-' :: '-' :: cs =>
    match cs.dropWhile fun c => c != '=' with
    | [] => .name (String.ofList cs) none
    | _ :: value => .name (String.ofList (cs.takeWhile fun c => c != '=')) (String.ofList value)
  | '-' :: c :: _ => .letter c
  | _ => .plain

/-! ## Levels -/

/-- What was read of a command so far. -/
structure Level where
  command : Command
  /-- The arguments that are settled, with their values. -/
  settled : List (String × List String)
  /-- The argument that was begun last, with its values so far. -/
  pending : Option (Argument × List String)
  /-- How many arguments were given by their places. -/
  position : Nat
  /-- Whether only values follow. -/
  onlyValues : Bool

namespace Level

/-- Nothing was read. -/
def new (c : Command) : Level := ⟨c, [], none, 0, false⟩

/-- Whether an argument is settled. -/
def isSettled (l : Level) (name : String) : Bool := l.settled.any fun e => e.1 == name

/-- Whether the next word is the value of an option. -/
def awaitsValue (l : Level) : Bool :=
  match l.pending with
  | some (_, values) => values.isEmpty
  | none => false

/-- Settle an argument. -/
def settle (l : Level) (a : Argument) (values : List String) : Except Stop Level :=
  if l.isSettled a.name then .error .repeatedArgument
  else
    match values.findSome? a.refusal with
    | some reason => .error reason
    | none => .ok { l with settled := l.settled ++ [(a.name, values)] }

/-- Settle the argument that was begun. -/
def resolve (l : Level) : Except Stop Level :=
  match l.pending with
  | none => .ok l
  | some (_, []) => .error .missingValue
  | some (a, values) => { l with pending := none }.settle a values

/-- Take an argument that is given by its name. -/
def takeNamed (l : Level) (a : Argument) (value : Option String) : Except Stop Level :=
  match a.kind, value with
  | .option, none => l.resolve.map fun l => { l with pending := some (a, []) }
  | .option, some v => l.resolve.bind fun l => l.settle a [v]
  | .flag, none => l.resolve.bind fun l => l.settle a []
  | .stop _ reason, none => l.resolve.bind fun _ => .error reason
  | .flag, some _ | .stop .., some _ => .error .unwantedValue
  | .value, _ | .values, _ => .error .unknownArgument

/-- Take a letter. -/
def takeLetter (l : Level) (letter : Char) : Except Stop Level :=
  match l.command.arguments.findSome? fun a => a.stopOf? letter with
  | some reason => l.resolve.bind fun _ => .error reason
  | none => .error .unknownArgument

/-- What is wrong with a value for which there is no place. -/
def misplaced (l : Level) (w : String) : Stop :=
  if l.onlyValues && (l.command.subcommand? w).isSome then .unknownArgument
  else if !l.command.subcommands.isEmpty && l.command.positionals.isEmpty then .unknownSubcommand
  else .unknownArgument

/-- Begin an argument with a value. -/
def start (l : Level) (a : Argument) (w : String) : Except Stop Level :=
  l.resolve.map fun l => { l with pending := some (a, [w]) }

/-- Take a value at its place. -/
def takeValue (l : Level) (w : String) : Except Stop Level :=
  match l.command.positionals[l.position]? with
  | none => .error (l.misplaced w)
  | some a =>
    match a.kind, l.pending with
    | .values, some (b, ws) =>
      if b.name = a.name then .ok { l with pending := some (b, ws ++ [w]) } else l.start a w
    | .values, none => l.start a w
    | _, _ => (l.start a w).map fun l => { l with position := l.position + 1 }

/-- Take a word that is not the name of a subcommand. -/
def takeWord (l : Level) (w : String) : Except Stop Level :=
  if l.onlyValues then l.takeValue w
  else
    match Word.ofList w.toList with
    | .separator => .ok { l with onlyValues := true }
    | .name name value =>
      match l.command.named? name with
      | some a => l.takeNamed a value
      | none => .error .unknownArgument
    | .letter c => l.takeLetter c
    | .plain =>
      match l.pending with
      | some (a, []) => .ok { l with pending := some (a, [w]) }
      | _ => l.takeValue w

/-- The subcommand that a word opens. -/
def opened? (l : Level) (w : String) : Option Command :=
  if l.onlyValues || l.awaitsValue then none else l.command.subcommand? w

/-- Take the values of arguments that were not given from elsewhere. -/
def supply (l : Level) (defaults : List (String × String)) : Level :=
  let missing := defaults.filter fun e =>
    (l.command.named? e.1).isSome && !l.isSettled e.1
  { l with settled := l.settled ++ missing.map fun e => (e.1, [e.2]) }

/-- Complete a level, inside of which there is another one or not. -/
def finish (defaults : List (String × String)) (l : Level) (hasInner : Bool) : Except Stop Level :=
  l.resolve.bind fun l =>
    let l := l.supply defaults
    if !hasInner && !l.command.subcommands.isEmpty then
      .error (if l.settled.isEmpty then .nothingSaid else .missingSubcommand)
    else if l.command.positionals.any fun a => !l.isSettled a.name then .error .missingArgument
    else .ok l

end Level

/-! ## Reading -/

/-- The levels that words open, the innermost first. -/
def scan (outer : List Level) (l : Level) : List String → Except Stop (List Level)
  | [] => .ok (l :: outer)
  | w :: ws =>
    match l.opened? w with
    | some c =>
      if c.name = Command.helpName then .error (l.command.helpOn ws)
      else scan (l :: outer) (.new c) ws
    | none => (l.takeWord w).bind fun l => scan outer l ws

/-- Complete levels, the innermost first. -/
def finishAll (defaults : List (String × String)) (hasInner : Bool) :
    List Level → Except Stop (List Level)
  | [] => .ok []
  | l :: outer => do
    let l ← l.finish defaults hasInner
    let outer ← finishAll defaults true outer
    .ok (l :: outer)

/-- What a command line says: the subcommands by name, the outermost first, and the arguments with
their values. -/
structure Reading where
  path : List String
  arguments : List (String × List String)
  deriving Inhabited

namespace Reading

/-- Whether an argument is given. -/
def has (r : Reading) (name : String) : Bool := r.arguments.any fun e => e.1 == name

/-- The values of an argument. -/
def values (r : Reading) (name : String) : List String :=
  ((r.arguments.find? fun e => e.1 == name).map Prod.snd).getD []

/-- The first value of an argument. -/
def value? (r : Reading) (name : String) : Option String := (r.values name).head?

end Reading

/-- Read the words of a command. Arguments that they do not give may have values from elsewhere. -/
def read (c : Command) (defaults : List (String × String)) (words : List String) :
    Except Stop Reading := do
  let levels ← scan [] (.new c) words
  let levels ← finishAll defaults false levels
  .ok ⟨(levels.reverse.drop 1).map fun l => l.command.name, levels.flatMap Level.settled⟩

end LiveTrace.CommandLine
