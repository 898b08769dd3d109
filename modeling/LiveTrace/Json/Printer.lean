import LiveTrace.Json.Basic
import LiveTrace.Decimal.Layout
/-!
# LiveTrace.Json.Printer

JSON text, compact (`compact`) or on several lines (`pretty`). Fields are written in the order in
which the value lists them.
-/

namespace LiveTrace.Json

/-! ## Strings and numbers -/

/-- A hexadecimal digit, in lower case. -/
def hexDigit (n : Nat) : Char := Nat.digitChar n

/-- A character inside a string: the quote, the backslash and control characters are escaped. -/
def escape (c : Char) : List Char :=
  if c = '"' then ['\\', '"']
  else if c = '\\' then ['\\', '\\']
  else if c = '\n' then ['\\', 'n']
  else if c = '\r' then ['\\', 'r']
  else if c = '\t' then ['\\', 't']
  else if c = '\x08' then ['\\', 'b']
  else if c = '\x0c' then ['\\', 'f']
  else if c.toNat < 0x20 then
    ['\\', 'u', '0', '0', hexDigit (c.toNat / 16), hexDigit (c.toNat % 16)]
  else [c]

/-- A quoted string. -/
def quoted (s : String) : List Char := '"' :: (s.toList.flatMap escape ++ ['"'])

/-- Doubles are plain from `0.00001` up to, but not including, `1e+16`. -/
def doubleLayout : Decimal.Layout := ⟨-5, 16⟩

/-- The text of a number. -/
def Number.text : Number → List Char
  | .integer n => (toString n).toList
  | .double d => doubleLayout.writeDouble d

/-- The text of a truth value. -/
def boolText (b : Bool) : List Char := (if b then "true" else "false").toList

/-! ## Compact text -/

mutual

/-- Compact text, without any white space. -/
def text : Json → List Char
  | .null => "null".toList
  | .bool b => boolText b
  | .number n => n.text
  | .string s => quoted s
  | .array [] => ['[', ']']
  | .array (v :: rest) => '[' :: (text v ++ itemsText rest)
  | .object [] => ['\x7b', '\x7d']
  | .object ((k, v) :: rest) => '\x7b' :: (quoted k ++ ':' :: (text v ++ fieldsText rest))

/-- The items after the first and the closing bracket. -/
def itemsText : List Json → List Char
  | [] => [']']
  | v :: rest => ',' :: (text v ++ itemsText rest)

/-- The fields after the first and the closing brace. -/
def fieldsText : List (String × Json) → List Char
  | [] => ['\x7d']
  | (k, v) :: rest => ',' :: (quoted k ++ ':' :: (text v ++ fieldsText rest))

end

/-- Compact JSON text. -/
def compact (v : Json) : String := String.ofList v.text

/-! ## Text on several lines -/

/-- A line break and the indentation of a nesting depth. -/
def newline (depth : Nat) : List Char := '\n' :: List.replicate (2 * depth) ' '

mutual

/-- Text on several lines, inside `depth` containers. -/
def prettyText (depth : Nat) : Json → List Char
  | .null => "null".toList
  | .bool b => boolText b
  | .number n => n.text
  | .string s => quoted s
  | .array [] => ['[', ']']
  | .array (v :: rest) =>
    '[' :: (newline (depth + 1) ++ prettyText (depth + 1) v ++ prettyItems depth rest)
  | .object [] => ['\x7b', '\x7d']
  | .object ((k, v) :: rest) =>
    '\x7b' :: (newline (depth + 1) ++ quoted k ++ ':' :: ' ' :: prettyText (depth + 1) v ++
      prettyFields depth rest)

/-- The items after the first, and the closing bracket on a line of its own. -/
def prettyItems (depth : Nat) : List Json → List Char
  | [] => newline depth ++ [']']
  | v :: rest =>
    ',' :: (newline (depth + 1) ++ prettyText (depth + 1) v ++ prettyItems depth rest)

/-- The fields after the first, and the closing brace on a line of its own. -/
def prettyFields (depth : Nat) : List (String × Json) → List Char
  | [] => newline depth ++ ['\x7d']
  | (k, v) :: rest =>
    ',' :: (newline (depth + 1) ++ quoted k ++ ':' :: ' ' :: prettyText (depth + 1) v ++
      prettyFields depth rest)

end

/-- JSON text with one item or field a line, each level indented by two blanks. -/
def pretty (v : Json) : String := String.ofList (prettyText 0 v)

end LiveTrace.Json
