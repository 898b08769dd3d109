import LiveTrace.Json.Record
/-!
# LiveTrace.Registry.Document

What a daemon says of itself: a description of each API, and its verbosity levels. Descriptions
are free-form, so a part without the expected form counts as absent and hides nothing else; only
the document as a whole has to be an object, or an array of its two parts.
-/

namespace LiveTrace

/-- Documentation of an operation. -/
structure OperationDocument where
  /-- What the operation gives when it succeeds. -/
  description : Option String
  /-- Who may use it, kept as it is. -/
  permissions : Option Json
  deriving Inhabited

/-- Description of an API. -/
structure ApiDocument where
  description : Option String
  /-- The operations by path, such as `/add`. -/
  paths : List (String × OperationDocument)
  deriving Inhabited

/-- What a daemon says of itself; it tells only what it was asked for. -/
structure Snapshot where
  /-- Descriptions of the APIs by name. -/
  apis : Option (List (String × ApiDocument))
  /-- Verbosity levels by name, as they were sent. -/
  verbosity : Option (List (String × Json))
  deriving Inhabited

/-! ## Reading free-form parts -/

/-- The fields of a record whose form is not insisted upon; a value without the form has none. -/
def freeFields (names : List String) (v : Json) : List (String × Json) :=
  match Record.fields? "" (names.map .any) v with
  | .ok fields => fields
  | .error _ => []

/-- A field of such a record. -/
def freeField? (names : List String) (name : String) (v : Json) : Option Json :=
  Entries.lookup? name (freeFields names v)

/-- The entries of an object; other values have none. -/
def freeEntries : Option Json → List (String × Json)
  | some (.object entries) => entries
  | _ => []

/-- The description in a block that holds nothing else. -/
def descriptionOf (v : Json) : Option String :=
  (freeField? ["description"] "description" v).bind Json.asString?

namespace OperationDocument

/-- Nothing is documented. -/
def blank : OperationDocument := ⟨none, none⟩

/-- The response that documents success. -/
def successCode : String := "200"

/-- Read the documentation of a method. -/
def ofMethod (v : Json) : OperationDocument where
  description :=
    (Entries.lookup? successCode
      (freeEntries (freeField? ["responses", "x-permissions"] "responses" v))).bind descriptionOf
  permissions := Record.value? (freeFields ["responses", "x-permissions"] v) "x-permissions"

/-- Read the documentation of a path, which is that of its method `get`. -/
def ofJson (v : Json) : OperationDocument :=
  match freeField? ["get"] "get" v with
  | some method => ofMethod method
  | none => blank

end OperationDocument

/-- Read the description of an API. -/
def ApiDocument.ofJson (v : Json) : ApiDocument where
  description := (freeField? ["info", "paths"] "info" v).bind descriptionOf
  paths := (freeEntries (freeField? ["info", "paths"] "paths" v)).map fun e =>
    (e.1, OperationDocument.ofJson e.2)

namespace Snapshot

/-- The parts of a document. -/
def rules : List FieldRule := [.any "apis", .any "verbosity"]

/-- The entries of a part, if it is an object. -/
def part? (fields : List (String × Json)) (name : String) : Option (List (String × Json)) :=
  match Entries.lookup? name fields with
  | some (.object entries) => some entries
  | _ => none

/-- The document with the given parts. -/
def ofFields (fields : List (String × Json)) : Snapshot where
  apis := (part? fields "apis").map fun l => l.map fun e => (e.1, ApiDocument.ofJson e.2)
  verbosity := part? fields "verbosity"

/-- Read a document. -/
def ofJson (v : Json) : Except Mismatch Snapshot :=
  (Record.fields? "MonitorSnapshot" rules v).map ofFields

end Snapshot

end LiveTrace
