import LiveTrace.Text.Alphanumeric
import LiveTrace.Text.Basic
/-!
# LiveTrace.Dotenv

Files that add variables to the environment (`Dotenv.load?`). Each statement `NAME=value` gives one
variable. A statement is a line, or several lines where a quoted value goes on; it may begin with
`export` and end with a comment. Variables that the environment has already keep their values, and
what follows a statement that is not understood is not read. An environment cannot hold a value with
a NUL in it; a file with one leaves no environment to go on with.
-/

namespace LiveTrace

/-- The variables of a process with their values. -/
abbrev Environment := List (String × String)

namespace Environment

/-- The value of a variable. -/
def get? (env : Environment) (name : String) : Option String :=
  (env.find? fun e => e.1 == name).map Prod.snd

/-- What follows a text and an equals sign, where each variable is kept as `name=value`. A text
without an equals sign in it is the name of a variable; another goes on into its value. -/
def after? (env : Environment) (text : List Char) : Option (List Char) :=
  let value? := fun name => (env.get? (String.ofList name)).map String.toList
  match Text.splitFirst? '=' text with
  | none => value? text
  | some (name, begun) => (value? name).bind fun value => (begun ++ ['=']).isPrefixOf? value

/-- Add a variable, unless the environment has it. A value with a NUL cannot be added. -/
def add? (env : Environment) (name value : String) : Option Environment :=
  if (env.get? name).isSome then some env
  else if value.toList.contains '\x00' then none
  else some (env ++ [(name, value)])

end Environment

namespace Dotenv

/-! ## Statements -/

/-- Where in a statement a reader is. -/
inductive Place
  /-- Outside of quotes. -/
  | word
  /-- Outside of quotes, right after white space. -/
  | space
  /-- After a backslash outside of quotes. -/
  | escape
  /-- Between single quotes, and after a backslash there. -/
  | single
  | singleEscape
  /-- Between double quotes, and after a backslash there. -/
  | double
  | doubleEscape
  deriving DecidableEq, Inhabited

/-- Outside of quotes: where a character leads. -/
def Place.outside (c : Char) : Place :=
  if c = '\\' then .escape else if c = '"' then .double else if c = '\'' then .single else .word

/-- Where a character leads. -/
def Place.next (p : Place) (c : Char) : Place :=
  match p with
  | word => if Text.isBlank c && c != '\n' && c != '\r' then .space else .outside c
  | space => .outside c
  | escape => word
  | single => if c = '\\' then singleEscape else if c = '\'' then word else single
  | singleEscape => single
  | double => if c = '\\' then doubleEscape else if c = '"' then word else double
  | doubleEscape => double

/-- The end of a line: where the reader is, or what comes before a comment. -/
inductive LineEnd
  | place (p : Place)
  | comment (before : List Char)

/-- Read a line. -/
def lineEnd (p : Place) : List Char → LineEnd
  | [] => .place p
  | c :: cs =>
    if p = .space ∧ c = '#' then .comment []
    else
      match lineEnd (p.next c) cs with
      | .comment before => .comment (c :: before)
      | .place p => .place p

/-- The lines of a text, each with its line break. -/
def lines : List Char → List (List Char)
  | [] => []
  | c :: cs =>
    if c = '\n' then [c] :: lines cs
    else
      match lines cs with
      | [] => [[c]]
      | l :: ls => (c :: l) :: ls

/-- A line without its line break. -/
def withoutBreak (cs : List Char) : List Char :=
  match cs.reverse with
  | '\n' :: '\r' :: rest => rest.reverse
  | '\n' :: rest => rest.reverse
  | _ => cs

/-- The statements in lines, after `begun`, the lines that the current statement began with. The
last is `none` if it does not end. Comments are cut off. -/
def statements (begun : List Char) (p : Place) : List (List Char) → List (Option (List Char))
  | [] => if p = .word then [] else [none]
  | l :: ls =>
    let statement := begun ++ l
    if (statement.dropWhile Text.isBlank).head? = some '#' then statements [] .word ls
    else
      match lineEnd p l with
      | .comment before => some (begun ++ before) :: statements [] .word ls
      | .place .word => some (withoutBreak statement) :: statements [] .word ls
      | .place p => statements statement p ls

/-! ## Values -/

/-- What a value is read as. -/
inductive Mode
  | plain
  | singleQuoted
  | doubleQuoted
  /-- After a backslash. -/
  | escaped (quoted : Bool)
  /-- In the name of a variable after a dollar sign. -/
  | variable (quoted : Bool) (name : List Char)
  /-- In the name of a variable between braces. -/
  | braced (quoted : Bool) (name : List Char)
  /-- After the blank that ends a value. -/
  | ended

/-- Between double quotes or outside of quotes. -/
def Mode.ofQuoted (quoted : Bool) : Mode := if quoted then .doubleQuoted else .plain

/-- The value of a variable; one that is not set is empty. -/
def valueOf (env : Environment) (name : List Char) : List Char := (env.after? name).getD []

/-- The character that follows a backslash stands for. -/
def escaped? (c : Char) : Option Char :=
  if c = '\\' ∨ c = '\'' ∨ c = '"' ∨ c = '$' ∨ c = ' ' then some c
  else if c = 'n' then some '\n'
  else none

/-- Take one character: the characters that it adds to the value, and the mode after it. The
character that ends the name of a variable is taken as it is. -/
def step (env : Environment) (c : Char) : Mode → Option (List Char × Mode)
  | .ended => if c = ' ' ∨ c = '\t' then some ([], .ended) else none
  | .escaped quoted => (escaped? c).map fun c => ([c], .ofQuoted quoted)
  | .singleQuoted => some (if c = '\'' then ([], .plain) else ([c], .singleQuoted))
  | .variable quoted name =>
    if Text.isAlphanumeric c then some ([], .variable quoted (name ++ [c]))
    else if c = '\x7b' ∧ name = [] then some ([], .braced quoted [])
    else if c = '$' then some (valueOf env name, .variable quoted [])
    else some (valueOf env name ++ [c], .ofQuoted quoted)
  | .braced quoted name =>
    if c = '\x7d' then some (valueOf env name, .ofQuoted quoted)
    else some ([], .braced quoted (name ++ [c]))
  | .doubleQuoted =>
    if c = '$' then some ([], .variable true [])
    else if c = '"' then some ([], .plain)
    else if c = '\\' then some ([], .escaped true)
    else some ([c], .doubleQuoted)
  | .plain =>
    if c = '$' then some ([], .variable false [])
    else if c = '\'' then some ([], .singleQuoted)
    else if c = '"' then some ([], .doubleQuoted)
    else if c = '\\' then some ([], .escaped false)
    else if c = ' ' ∨ c = '\t' then some ([], .ended)
    else some ([c], .plain)

/-- What the end of a statement adds to the value; none where a quote or brace is open. -/
def atEnd (env : Environment) : Mode → Option (List Char)
  | .plain | .ended | .escaped false => some []
  | .variable false name => some (valueOf env name)
  | .singleQuoted | .doubleQuoted | .escaped true | .variable true _ | .braced .. => none

/-- Read a value from the given mode on. -/
def value? (env : Environment) (mode : Mode) : List Char → Option (List Char)
  | [] => atEnd env mode
  | c :: cs =>
    match mode with
    | .ended =>
      if c = '#' then some [] else (step env c mode).bind fun p => value? env p.2 cs
    | _ => (step env c mode).bind fun p => (value? env p.2 cs).map (p.1 ++ ·)

/-- Whether a character may begin a name. -/
def isNameStart (c : Char) : Bool := c.isAlpha || c == '_'

/-- Whether a character may stand in a name. -/
def isNameChar (c : Char) : Bool := c.isAlphanum || c == '_' || c == '.'

/-- A name, and what follows it after white space. -/
def name? (cs : List Char) : Option (List Char × List Char) :=
  if (cs.head?.map isNameStart).getD false then
    some (cs.takeWhile isNameChar, (cs.dropWhile isNameChar).dropWhile Text.isBlank)
  else none

/-- A name with an equals sign after it, and what follows. -/
def assigned? (cs : List Char) : Option (List Char × List Char) :=
  match name? cs with
  | some (name, '=' :: rest) => some (name, rest.dropWhile Text.isBlank)
  | some (['e', 'x', 'p', 'o', 'r', 't'], rest) =>
    match name? rest with
    | some (name, '=' :: rest) => some (name, rest.dropWhile Text.isBlank)
    | _ => none
  | _ => none

/-- What a statement says. -/
inductive Statement
  | nothing
  | assign (name value : String)
  deriving DecidableEq

/-- Read a statement. -/
def Statement.parse? (env : Environment) (cs : List Char) : Option Statement :=
  match Text.trimChars cs with
  | [] => some .nothing
  | '#' :: _ => some .nothing
  | cs => do
    let (name, rest) ← assigned? cs
    let value ← if rest.head? = some '#' then some [] else value? env .plain rest
    some (.assign (String.ofList name) (String.ofList value))

/-! ## Files -/

/-- Add the variables of statements, up to one that is not understood. -/
def run? (env : Environment) : List (Option (List Char)) → Option Environment
  | some cs :: rest =>
    match Statement.parse? env cs with
    | some .nothing => run? env rest
    | some (.assign name value) => (env.add? name value).bind fun env => run? env rest
    | none => some env
  | _ => some env

/-- A mark of the byte order at the front is dropped. -/
def skipMark : List Char → List Char
  | '\uFEFF' :: cs => cs
  | cs => cs

/-- The environment with the variables of a file, if it can hold them. -/
def load? (env : Environment) (text : String) : Option Environment :=
  run? env (statements [] .word (lines (skipMark text.toList)))

end Dotenv

end LiveTrace
