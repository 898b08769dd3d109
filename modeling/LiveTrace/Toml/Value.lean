import LiveTrace.Json.Basic
/-!
# LiveTrace.Toml.Value

Values of TOML documents, and the JSON values that they stand for (`Value.toJson?`). Whether a word
that is written as a number can be held as one matters only where its value is wanted, so a value
may contain numbers without one.
-/

namespace LiveTrace.Toml

/-- A value of a document. -/
inductive Value
  | text (s : String)
  | flag (b : Bool)
  /-- A number; none if it is too large, or has no digits. -/
  | number (n : Option Json.Number)
  /-- A date, a time of day, or both. -/
  | moment
  | array (items : List Value)
  | table (entries : List (String × Value))
  deriving Inhabited

mutual

/-- The JSON value that a value stands for, if all of its numbers have one. A date or time of day,
which no setting is, counts as an object without fields. -/
def Value.toJson? : Value → Option Json
  | .text s => some (.string s)
  | .flag b => some (.bool b)
  | .number n => n.map .number
  | .moment => some (.object [])
  | .array items => (itemsToJson? items).map .array
  | .table entries => (entriesToJson? entries).map .object

/-- The JSON values of items. -/
def itemsToJson? : List Value → Option (List Json)
  | [] => some []
  | v :: rest => v.toJson?.bind fun j => (itemsToJson? rest).map (j :: ·)

/-- The JSON values of entries. -/
def entriesToJson? : List (String × Value) → Option (List (String × Json))
  | [] => some []
  | (k, v) :: rest => v.toJson?.bind fun j => (entriesToJson? rest).map ((k, j) :: ·)

end

end LiveTrace.Toml
