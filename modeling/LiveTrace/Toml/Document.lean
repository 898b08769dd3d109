import LiveTrace.Toml.Reader
/-!
# LiveTrace.Toml.Document

TOML documents. The lines of a document are taken in order (`State.take?`): each opens a table or
gives a value in the table that is open. No table is opened twice, no value is given twice, and a
value is not continued.
-/

namespace LiveTrace.Toml

/-- A document in the making. -/
structure State where
  /-- The entries outside of every table. -/
  root : List (String × Node)
  /-- Key of the table that is open; empty outside of every table. -/
  current : List String

namespace State

/-- Nothing was read. -/
def start : State := ⟨[], []⟩

/-- Open the table of a key. -/
def openTable? : List String → List (String × Node) → Option (List (String × Node))
  | [], _ => none
  | [k], entries =>
    match Entries.lookup? k entries with
    | none => some (Entries.insert k (.opened []) entries)
    | some (.implied sub) => some (Entries.insert k (.opened sub) entries)
    | some _ => none
  | k :: l :: ks, entries =>
    match Entries.lookup? k entries with
    | none => (openTable? (l :: ks) []).map fun sub => Entries.insert k (.implied sub) entries
    | some (.implied sub) =>
      (openTable? (l :: ks) sub).map fun sub => Entries.insert k (.implied sub) entries
    | some (.dotted sub) =>
      (openTable? (l :: ks) sub).map fun sub => Entries.insert k (.dotted sub) entries
    | some (.opened sub) =>
      (openTable? (l :: ks) sub).map fun sub => Entries.insert k (.opened sub) entries
    | some (.tables sub before) =>
      (openTable? (l :: ks) sub).map fun sub => Entries.insert k (.tables sub before) entries
    | some (.value _) => none

/-- Add a table to the array of tables of a key. -/
def addItem? : List String → List (String × Node) → Option (List (String × Node))
  | [], _ => none
  | [k], entries =>
    match Entries.lookup? k entries with
    | none => some (Entries.insert k (.tables [] []) entries)
    | some (.tables last before) =>
      some (Entries.insert k (.tables [] (.opened last :: before)) entries)
    | some _ => none
  | k :: l :: ks, entries =>
    match Entries.lookup? k entries with
    | none => (addItem? (l :: ks) []).map fun sub => Entries.insert k (.implied sub) entries
    | some (.implied sub) =>
      (addItem? (l :: ks) sub).map fun sub => Entries.insert k (.implied sub) entries
    | some (.dotted sub) =>
      (addItem? (l :: ks) sub).map fun sub => Entries.insert k (.dotted sub) entries
    | some (.opened sub) =>
      (addItem? (l :: ks) sub).map fun sub => Entries.insert k (.opened sub) entries
    | some (.tables sub before) =>
      (addItem? (l :: ks) sub).map fun sub => Entries.insert k (.tables sub before) entries
    | some (.value _) => none

/-- Give a value in the table of a key, which was opened before. -/
def setIn? : List String → (key : List String) → Value → List (String × Node) →
    Option (List (String × Node))
  | [], key, v, entries => setValue? key v entries
  | k :: ks, key, v, entries =>
    match Entries.lookup? k entries with
    | some (.implied sub) =>
      (setIn? ks key v sub).map fun sub => Entries.insert k (.implied sub) entries
    | some (.dotted sub) =>
      (setIn? ks key v sub).map fun sub => Entries.insert k (.dotted sub) entries
    | some (.opened sub) =>
      (setIn? ks key v sub).map fun sub => Entries.insert k (.opened sub) entries
    | some (.tables sub before) =>
      (setIn? ks key v sub).map fun sub => Entries.insert k (.tables sub before) entries
    | _ => none

/-- Take a line. -/
def take? (s : State) : Line → Option State
  | .blank => some s
  | .table key => (openTable? key s.root).map fun root => ⟨root, key⟩
  | .item key => (addItem? key s.root).map fun root => ⟨root, key⟩
  | .entry key v => (setIn? s.current key v s.root).map fun root => { s with root }

/-- Take lines in order. -/
def takeAll? (s : State) : List Line → Option State
  | [] => some s
  | l :: ls => (s.take? l).bind fun s => s.takeAll? ls

end State

/-- A mark of the byte order at the front is dropped. -/
def skipMark : List Char → List Char
  | '\uFEFF' :: cs => cs
  | cs => cs

/-- The entries of the table that a document stands for. -/
def read? (text : String) : Option (List (String × Value)) := do
  let cs := skipMark text.toList
  let lines ← lines? (cs.length + 1) cs
  let s ← State.start.takeAll? lines
  some (entryValues s.root)

end LiveTrace.Toml
