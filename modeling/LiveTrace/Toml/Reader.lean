import LiveTrace.Toml.Scalar
import LiveTrace.Toml.Text
/-!
# LiveTrace.Toml.Reader

The lines of a TOML document. A line opens a table (`[a.b]`), adds a table to an array of tables
(`[[a.b]]`) or gives a value (`a.b = 1`), unless it is blank. What the lines make together is in
`LiveTrace.Toml.Document`.
-/

namespace LiveTrace.Toml

/-! ## Blanks and comments -/

/-- Whether a character is a blank within a line. -/
def isSpace (c : Char) : Bool := c == ' ' || c == '\t'

/-- Blanks at the front are dropped. -/
def skipSpaces (cs : List Char) : List Char := cs.dropWhile isSpace

/-- A comment at the front is dropped; it ends with the line. -/
def skipComment : List Char → List Char
  | '#' :: cs => cs.dropWhile isTextChar
  | cs => cs

/-- The end of a line, after blanks and a comment: what follows. -/
def lineEnd? (cs : List Char) : Option (List Char) :=
  match skipComment (skipSpaces cs) with
  | [] => some []
  | c :: cs => newline? (c :: cs)

/-- Blanks, comments and line breaks at the front are dropped, `fuel` times at most. -/
def skipGap : (fuel : Nat) → List Char → List Char
  | 0, cs => cs
  | fuel + 1, cs =>
    let cs := skipComment (skipSpaces cs)
    match newline? cs with
    | some rest => skipGap fuel rest
    | none => cs

/-- Blanks, comments and line breaks at the front are dropped. -/
def skipGaps (cs : List Char) : List Char := skipGap cs.length cs

/-! ## Keys -/

/-- Whether a character may stand in a key without quotes. -/
def isKeyChar (c : Char) : Bool := c.isAlphanum || c == '_' || c == '-'

/-- One part of a key. -/
def keyPart? (cs : List Char) : Option (String × List Char) :=
  match cs with
  | '"' :: cs => (basic? cs).map fun (s, rest) => (String.ofList s, rest)
  | '\'' :: cs => (literal? cs).map fun (s, rest) => (String.ofList s, rest)
  | cs =>
    match cs.takeWhile isKeyChar with
    | [] => none
    | k => some (String.ofList k, cs.dropWhile isKeyChar)

/-- A key of at most `fuel` parts with points between them, up to the first character that is no
blank. -/
def keyParts? : (fuel : Nat) → List Char → Option (List String × List Char)
  | 0, _ => none
  | fuel + 1, cs => do
    let (k, cs) ← keyPart? (skipSpaces cs)
    match skipSpaces cs with
    | '.' :: cs =>
      let (ks, cs) ← keyParts? fuel cs
      some (k :: ks, cs)
    | cs => some ([k], cs)

/-- The containers that may be open at one time, and the parts that a key may have. -/
def maxDepth : Nat := 80

/-- A key. -/
def key? (cs : List Char) : Option (List String × List Char) := keyParts? maxDepth cs

/-! ## Values -/

/-- Tables in the making: entries by key. A table says how it came about, which decides where it
may be continued. -/
inductive Node
  /-- A value, to which nothing can be added. -/
  | value (v : Value)
  /-- A table that was not opened itself, but one below it was. -/
  | implied (entries : List (String × Node))
  /-- A table that was made by a key of several parts. -/
  | dotted (entries : List (String × Node))
  /-- A table that was opened. -/
  | opened (entries : List (String × Node))
  /-- An array of tables, the last one first. -/
  | tables (last : List (String × Node)) (before : List Node)
  deriving Inhabited

mutual

/-- The value that a table in the making has come to. -/
def Node.toValue : Node → Value
  | .value v => v
  | .implied entries | .dotted entries | .opened entries => .table (entryValues entries)
  | .tables last before =>
    .array ((itemValues before).reverse ++ [.table (entryValues last)])

/-- The values of entries. -/
def entryValues : List (String × Node) → List (String × Value)
  | [] => []
  | (k, n) :: rest => (k, n.toValue) :: entryValues rest

/-- The values of nodes. -/
def itemValues : List Node → List Value
  | [] => []
  | n :: rest => n.toValue :: itemValues rest

end

/-- Give the value of a key. The last table on the way must have been made by a key of several
parts, or be the one that is open. -/
def setValue? : List String → Value → List (String × Node) → Option (List (String × Node))
  | [], _, _ => none
  | [k], v, entries =>
    if (Entries.lookup? k entries).isSome then none else some (Entries.insert k (.value v) entries)
  | k :: l :: ks, v, entries =>
    match Entries.lookup? k entries with
    | none =>
      (setValue? (l :: ks) v []).map fun sub => Entries.insert k (.dotted sub) entries
    | some (.dotted sub) =>
      (setValue? (l :: ks) v sub).map fun sub => Entries.insert k (.dotted sub) entries
    | some (.implied sub) =>
      if ks.isEmpty then none
      else (setValue? (l :: ks) v sub).map fun sub => Entries.insert k (.implied sub) entries
    | some (.tables sub before) =>
      if ks.isEmpty then none
      else (setValue? (l :: ks) v sub).map fun sub => Entries.insert k (.tables sub before) entries
    | some _ => none

/-- The items of an array up to its closing bracket, each read by `value`. -/
def items? (value : List Char → Option (Value × List Char)) :
    (fuel : Nat) → List Char → Option (List Value × List Char)
  | 0, _ => none
  | fuel + 1, cs =>
    match skipGaps cs with
    | ']' :: cs => some ([], cs)
    | cs => do
      let (v, cs) ← value cs
      match skipGaps cs with
      | ',' :: cs =>
        let (rest, cs) ← items? value fuel cs
        some (v :: rest, cs)
      | ']' :: cs => some ([v], cs)
      | _ => none

/-- A key and its value, read by `value`, with what follows. What `skip` drops may stand around the
equals sign. -/
def keyValue? (skip : List Char → List Char) (value : List Char → Option (Value × List Char))
    (cs : List Char) : Option ((List String × Value) × List Char) := do
  let (k, cs) ← key? cs
  match skip cs with
  | '=' :: cs =>
    let (v, cs) ← value (skip cs)
    some ((k, v), cs)
  | _ => none

/-- The entries of a table within a line up to its closing brace, each value read by `value`. -/
def inlineEntries? (value : List Char → Option (Value × List Char)) :
    (fuel : Nat) → List (String × Node) → List Char →
      Option (List (String × Node) × List Char)
  | 0, _, _ => none
  | fuel + 1, entries, cs =>
    match skipGaps cs with
    | '\x7d' :: cs => some (entries, cs)
    | cs => do
      let ((k, v), cs) ← keyValue? skipGaps value cs
      let entries ← setValue? k v entries
      match skipGaps cs with
      | ',' :: cs => inlineEntries? value fuel entries cs
      | '\x7d' :: cs => some (entries, cs)
      | _ => none

/-- A value in which `depth` containers may be nested. -/
def value? (depth : Nat) (cs : List Char) : Option (Value × List Char) :=
  match string? cs with
  | some s => s.map fun (s, rest) => (.text (String.ofList s), rest)
  | none =>
    match depth, cs with
    | depth + 1, '[' :: cs =>
      (items? (value? depth) (cs.length + 1) cs).map fun (items, rest) => (.array items, rest)
    | depth + 1, '\x7b' :: cs =>
      (inlineEntries? (value? depth) (cs.length + 1) [] cs).map fun (entries, rest) =>
        (.table (entryValues entries), rest)
    | _, cs => scalar? cs

/-! ## Lines -/

/-- What a line says. -/
inductive Line
  /-- Nothing. -/
  | blank
  /-- Open a table. -/
  | table (key : List String)
  /-- Add a table to an array of tables. -/
  | item (key : List String)
  /-- Give a value in the table that is open. -/
  | entry (key : List String) (v : Value)
  deriving Inhabited

/-- What a line says, and what follows it on the line. -/
def statement? (cs : List Char) : Option (Line × List Char) :=
  match cs with
  | [] => some (.blank, [])
  | '[' :: '[' :: cs => do
    let (k, cs) ← key? cs
    match cs with
    | ']' :: ']' :: cs => some (.item k, cs)
    | _ => none
  | '[' :: cs => do
    let (k, cs) ← key? cs
    match cs with
    | ']' :: cs => some (.table k, cs)
    | _ => none
  | '#' :: cs => some (.blank, '#' :: cs)
  | '\n' :: cs => some (.blank, '\n' :: cs)
  | '\r' :: cs => some (.blank, '\r' :: cs)
  | cs => (keyValue? skipSpaces (value? maxDepth) cs).map fun ((k, v), cs) => (.entry k v, cs)

/-- The first line, and the lines after it. -/
def line? (cs : List Char) : Option (Line × List Char) := do
  let (l, cs) ← statement? (skipSpaces cs)
  let cs ← lineEnd? cs
  some (l, cs)

/-- The lines of a document, `fuel` of them at most. -/
def lines? : (fuel : Nat) → List Char → Option (List Line)
  | _, [] => some []
  | 0, _ :: _ => none
  | fuel + 1, c :: cs => do
    let (l, rest) ← line? (c :: cs)
    let ls ← lines? fuel rest
    some (l :: ls)

end LiveTrace.Toml
