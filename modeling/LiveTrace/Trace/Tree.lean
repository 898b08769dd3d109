import LiveTrace.Trace.Event
/-!
# LiveTrace.Trace.Tree

JSON values as trees of rows, opened up to a given depth. What lies deeper, and every value that
is no container, is a leaf that shows its JSON text.
-/

namespace LiveTrace

/-- What a leaf shows. -/
inductive LeafClass
  | number
  | string
  | boolean
  | null
  /-- A container that is not opened. -/
  | json
  deriving DecidableEq, Inhabited

/-- Class of a value as a leaf. -/
def LeafClass.of : Json → LeafClass
  | .number _ => .number
  | .string _ => .string
  | .bool _ => .boolean
  | .null => .null
  | .array _ | .object _ => .json

/-- A value opened into rows. -/
inductive Tree
  /-- A value shown by its JSON text. -/
  | leaf (kind : LeafClass) (text : List Char)
  /-- A row for each field. -/
  | object (rows : List (String × Tree))
  /-- A row for each item. -/
  | array (items : List Tree)
  deriving Inhabited

namespace Tree

/-- Open a value up to a depth of containers. -/
def ofJson : (depth : Nat) → Json → Tree
  | depth + 1, .object fields => .object (fields.map fun e => (e.1, ofJson depth e.2))
  | depth + 1, .array items => .array (items.map (ofJson depth))
  | _, v => .leaf (.of v) v.text

/-- The first row with a key. -/
def row? (key : String) : Tree → Option Tree
  | object rows => Entries.lookup? key rows
  | _ => none

/-! ## Text -/

/-- Blanks at the start of a line. -/
def indentation (n : Nat) : List Char := List.replicate n ' '

mutual

/-- The text after a row's key or dash: a leaf on the same line, rows on lines of their own, each
indented. -/
def rest (indent : Nat) : Tree → List Char
  | leaf _ text => ' ' :: (text ++ ['\n'])
  | object rows => '\n' :: rowsText indent rows
  | array items => '\n' :: itemsText indent items

/-- Rows of an object. -/
def rowsText (indent : Nat) : List (String × Tree) → List Char
  | [] => []
  | (key, t) :: rows =>
    indentation indent ++ key.toList ++ ':' :: (rest (indent + 2) t ++ rowsText indent rows)

/-- Rows of an array. -/
def itemsText (indent : Nat) : List Tree → List Char
  | [] => []
  | t :: items => indentation indent ++ '-' :: (rest (indent + 2) t ++ itemsText indent items)

end

/-- The text of a tree; that of a leaf is not a line. -/
def text : Tree → List Char
  | leaf _ text => text
  | object rows => rowsText 0 rows
  | array items => itemsText 0 items

end Tree

/-! ## Trace events -/

/-- How far trace events are opened. -/
structure RenderDepths where
  /-- Depth of the descriptor. -/
  descriptor : Nat
  /-- Depth of the payload. -/
  data : Nat
  deriving DecidableEq, Inhabited

/-- Usual depths. -/
def RenderDepths.default : RenderDepths := ⟨4, 2⟩

namespace TraceEvent

/-- A row for each field of the descriptor of a trace event and a last row for its payload. The rows
themselves count as one level. -/
def rows (e : TraceEvent) (depths : RenderDepths) : List (String × Tree) :=
  e.descriptor.map (fun f => (f.1, Tree.ofJson (depths.descriptor - 1) f.2)) ++
    (e.data.map fun v => ("data", Tree.ofJson (depths.data - 1) v)).toList

/-- A trace event as a tree. -/
def tree (e : TraceEvent) (depths : RenderDepths) : Tree := .object (e.rows depths)

end TraceEvent

end LiveTrace
