import LiveTrace.Json.Printer
import LiveTrace.Text.Visible
/-!
# LiveTrace.Json.Record

Records on the wire. A record is described by its fields in order (`FieldRule`); a value has the
form of the record if it is an object whose known fields are well formed, or an array that lists
the fields in that order. `Record.fields?` decides this and gives the fields by name, so that
reading a record afterwards (`string`, `string?`, `int`, `value?`) cannot fail.

Of several faults one is reported (`Mismatch`): a malformed field before a missing one, the first
field of the value before later ones, and the surplus of an array last.
-/

namespace LiveTrace

/-- Why a value does not have the form of a record. -/
inductive Mismatch
  /-- A value of another type. -/
  | wrongType (found : Json) (expected : String)
  /-- An integer that does not fit. -/
  | outOfRange (found : Int) (expected : String)
  /-- An object without a required field. -/
  | missingField (field : String)
  /-- An array that ends before a required field. -/
  | tooShort (length : Nat) (record : String) (fields : Nat)
  /-- An array with more elements than the record has fields. -/
  | tooLong (length : Nat)
  deriving Inhabited

namespace Mismatch

/-- How a value is named in a message. -/
def describe : Json → String
  | .null => "null"
  | .bool b => "boolean `" ++ String.ofList (Json.boolText b) ++ "`"
  | .number (.integer n) => "integer `" ++ toString n ++ "`"
  | .number (.double d) => "floating point `" ++ String.ofList (Json.Number.double d).text ++ "`"
  | .string s => "string " ++ Text.quote s
  | .array _ => "sequence"
  | .object _ => "map"

/-- A count of fields. -/
def elements (n : Nat) : String := if n = 1 then "1 element" else toString n ++ " elements"

/-- What the operator is told. -/
def message : Mismatch → String
  | wrongType found expected => "invalid type: " ++ describe found ++ ", expected " ++ expected
  | outOfRange found expected =>
    "invalid value: integer `" ++ toString found ++ "`, expected " ++ expected
  | missingField field => "missing field `" ++ field ++ "`"
  | tooShort length record fields =>
    "invalid length " ++ toString length ++ ", expected struct " ++ record ++ " with " ++
      elements fields
  | tooLong length => "invalid length " ++ toString length ++ ", expected fewer elements in array"

end Mismatch

/-! ## Fields -/

/-- One field of a record. -/
structure FieldRule where
  name : String
  /-- Whether a value has the form of the field. -/
  check : Json → Except Mismatch Unit
  /-- Whether the field may not be left out. -/
  required : Bool

namespace FieldRule

/-- A text. -/
def isString : Json → Except Mismatch Unit
  | .string _ => .ok ()
  | v => .error (.wrongType v "a string")

/-- A truth value. -/
def isBool : Json → Except Mismatch Unit
  | .bool _ => .ok ()
  | v => .error (.wrongType v "a boolean")

/-- An integer of 64 bits with sign. -/
def isInt64 : Json → Except Mismatch Unit
  | .number (.integer n) =>
    if -0x8000000000000000 ≤ n ∧ n < 0x8000000000000000 then .ok () else .error (.outOfRange n "i64")
  | v => .error (.wrongType v "i64")

/-- An integer of 64 bits without sign. -/
def isNat64 : Json → Except Mismatch Unit
  | .number (.integer n) =>
    if 0 ≤ n ∧ n < 0x10000000000000000 then .ok () else .error (.outOfRange n "usize")
  | v => .error (.wrongType v "usize")

/-- `null`, or what another test accepts. -/
def orNull (check : Json → Except Mismatch Unit) : Json → Except Mismatch Unit
  | .null => .ok ()
  | v => check v

/-- A text that must be given. -/
def requiredString (name : String) : FieldRule := ⟨name, isString, true⟩

/-- A text that may be left out. -/
def string (name : String) : FieldRule := ⟨name, isString, false⟩

/-- A text that may be left out or be `null`. -/
def optionalString (name : String) : FieldRule := ⟨name, orNull isString, false⟩

/-- An integer of 64 bits that must be given. -/
def requiredInt (name : String) : FieldRule := ⟨name, isInt64, true⟩

/-- A truth value that may be left out. -/
def bool (name : String) : FieldRule := ⟨name, isBool, false⟩

/-- An unsigned integer of 64 bits that may be left out. -/
def nat (name : String) : FieldRule := ⟨name, isNat64, false⟩

/-- A value of any form that may be left out. -/
def any (name : String) : FieldRule := ⟨name, fun _ => .ok (), false⟩

end FieldRule

/-! ## Records -/

namespace Record

/-- The first fault among named values; names without a rule are passed over. -/
def check (rules : List FieldRule) : List (String × Json) → Except Mismatch Unit
  | [] => .ok ()
  | (name, v) :: rest =>
    match rules.find? fun r => r.name == name with
    | none => check rules rest
    | some r =>
      match r.check v with
      | .error e => .error e
      | .ok () => check rules rest

/-- The fields of a value that has the form of a record, by name. -/
def fields? (record : String) (rules : List FieldRule) :
    Json → Except Mismatch (List (String × Json))
  | .object entries => do
    check rules entries
    match rules.find? fun r => r.required && (Entries.lookup? r.name entries).isNone with
    | some r => .error (.missingField r.name)
    | none => .ok entries
  | .array items => do
    let entries := (rules.map FieldRule.name).zip items
    check rules entries
    match (rules.drop items.length).findIdx? FieldRule.required with
    | some i => .error (.tooShort (items.length + i) record rules.length)
    | none =>
      if rules.length < items.length then .error (.tooLong items.length) else .ok entries
  | v => .error (.wrongType v ("struct " ++ record))

/-- A text by the name of its field, if it is given. -/
def string? (fields : List (String × Json)) (name : String) : Option String :=
  (Entries.lookup? name fields).bind Json.asString?

/-- A text by the name of its field. -/
def string (fields : List (String × Json)) (name : String) (default : String) : String :=
  (string? fields name).getD default

/-- An integer by the name of its field. -/
def int (fields : List (String × Json)) (name : String) : Int :=
  ((Entries.lookup? name fields).bind Json.asInt64?).getD 0

/-- An unsigned integer by the name of its field. -/
def nat (fields : List (String × Json)) (name : String) (default : Nat) : Nat :=
  ((Entries.lookup? name fields).bind Json.asNat64?).getD default

/-- A truth value by the name of its field. -/
def bool (fields : List (String × Json)) (name : String) (default : Bool) : Bool :=
  ((Entries.lookup? name fields).bind Json.asBool?).getD default

/-- A value by the name of its field; `null` counts as left out. -/
def value? (fields : List (String × Json)) (name : String) : Option Json :=
  match Entries.lookup? name fields with
  | some .null => none
  | v => v

end Record

end LiveTrace
