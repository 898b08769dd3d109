import LiveTrace.Toml.Text
/-!
# LiveTrace.Toml.Writer

Writing TOML documents of sections, each with a name and settings. A string is written in the first
of these forms that can hold it: on one line between double quotes, on one line between single
quotes, between three double quotes, between three single quotes (`Quoting.of`). Escapes are used
where none of these can hold it as it is.
-/

namespace LiveTrace.Toml

/-! ## Forms of a string -/

/-- Whether a character can only be written as an escape. A tab and a line break need none. -/
def needsEscape (c : Char) : Bool :=
  (c.toNat < 0x20 && c != '\t' && c != '\n') || c.toNat == 0x7F

/-- Length of the longest run of a character, `current` of which came just before. -/
def longestRun (quote : Char) : (current : Nat) → List Char → Nat
  | current, [] => current
  | current, c :: cs =>
    if c = quote then longestRun quote (current + 1) cs else max current (longestRun quote 0 cs)

/-- The forms of a string. -/
inductive Quoting
  /-- On one line between double quotes. -/
  | basic
  /-- On one line between single quotes. -/
  | literal
  /-- Between three double quotes. -/
  | basicLines
  /-- Between three single quotes. -/
  | literalLines
  deriving DecidableEq

/-- The form in which a string is written. -/
def Quoting.of (s : List Char) : Quoting :=
  let escapes := s.any needsEscape
  let backslashes := s.contains '\\'
  let lines := s.contains '\n'
  let singles := longestRun '\'' 0 s
  let doubles := longestRun '"' 0 s
  if !escapes && !backslashes && doubles == 0 && !lines then .basic
  else if !escapes && singles == 0 && !lines then .literal
  else if !escapes && !backslashes && doubles ≤ 2 then .basicLines
  else if !escapes && singles ≤ 2 then .literalLines
  else if lines then .basicLines
  else .basic

/-! ## Strings -/

/-- A hexadecimal digit, in upper case. -/
def upperHexDigit (n : Nat) : Char := (Nat.digitChar n).toUpper

/-- A character, quotes and line breaks apart, between double quotes. -/
def escape (c : Char) : List Char :=
  if c = '\x08' then ['\\', 'b']
  else if c = '\t' then ['\\', 't']
  else if c = '\x0c' then ['\\', 'f']
  else if c = '\r' then ['\\', 'r']
  else if c = '\\' then ['\\', '\\']
  else if needsEscape c then
    ['\\', 'u', '0', '0', upperHexDigit (c.toNat / 16), upperHexDigit (c.toNat % 16)]
  else [c]

/-- A character between double quotes on one line. -/
def escapeInLine (c : Char) : List Char :=
  if c = '"' then ['\\', '"'] else if c = '\n' then ['\\', 'n'] else escape c

/-- Characters between three double quotes, after a run of `quotes` double quotes. The third quote
of a run is escaped, so that the string does not end there. -/
def escapeLines : (quotes : Nat) → List Char → List Char
  | _, [] => []
  | quotes, c :: cs =>
    if c = '"' then
      if quotes = 2 then '\\' :: '"' :: escapeLines 0 cs else '"' :: escapeLines (quotes + 1) cs
    else if c = '\n' then '\n' :: escapeLines 0 cs
    else escape c ++ escapeLines 0 cs

/-- What follows three opening quotes: a string of several lines begins on a line of its own. -/
def opening (s : List Char) : List Char := if s.contains '\n' then ['\n'] else []

/-- A string in a form. -/
def Quoting.write (s : List Char) : Quoting → List Char
  | .basic => '"' :: (s.flatMap escapeInLine ++ ['"'])
  | .literal => '\'' :: (s ++ ['\''])
  | .basicLines => ['"', '"', '"'] ++ opening s ++ escapeLines 0 s ++ ['"', '"', '"']
  | .literalLines => ['\'', '\'', '\''] ++ opening s ++ s ++ ['\'', '\'', '\'']

/-- A string with its quotes. -/
def quoted (s : List Char) : List Char := (Quoting.of s).write s

/-! ## Documents -/

/-- The value of a setting. -/
inductive Setting
  | text (s : String)
  | flag (b : Bool)
  | count (n : Nat)
  deriving DecidableEq, Inhabited

/-- The value as it is written. -/
def Setting.write : Setting → List Char
  | text s => quoted s.toList
  | flag b => (if b then "true" else "false").toList
  | count n => (toString n).toList

/-- Settings under a name. -/
structure Section where
  name : String
  settings : List (String × Setting)
  deriving DecidableEq, Inhabited

/-- A setting on a line of its own. -/
def settingLine (e : String × Setting) : List Char :=
  e.1.toList ++ [' ', '=', ' '] ++ e.2.write ++ ['\n']

/-- A section: its name, and a line for each setting. -/
def Section.write (s : Section) : List Char :=
  '[' :: (s.name.toList ++ [']', '\n']) ++ s.settings.flatMap settingLine

/-- Sections, with an empty line between any two. -/
def write (sections : List Section) : String :=
  String.ofList (['\n'].intercalate (sections.map Section.write))

end LiveTrace.Toml
