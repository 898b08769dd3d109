import LiveTrace.Table
import LiveTrace.Decimal.Double
/-!
# LiveTrace.Json.Basic

JSON values. Integers and doubles are different numbers (`1` is not `1.0`). The fields of an
object are a list of entries; a value is `Canonical` when the keys of each of its objects ascend
strictly and its integers are in the range the wire can carry, which is what every value read from
text is. Values that are only printed may list their fields in another order.
-/

namespace LiveTrace

/-- A JSON number. -/
inductive Json.Number
  | integer (n : Int)
  | double (d : Double)
  deriving DecidableEq, Inhabited

/-- A JSON value. -/
inductive Json
  | null
  | bool (b : Bool)
  | number (n : Json.Number)
  | string (s : String)
  | array (items : List Json)
  | object (fields : List (String × Json))
  deriving Inhabited

namespace Json

/-- An integer. -/
def int (n : Int) : Json := .number (.integer n)

/-- An object with the given fields, in ascending order of their keys; of two fields with one key
the later stays. -/
def ofFields (fields : List (String × Json)) : Json :=
  .object (fields.foldl (fun l e => Entries.insert e.1 e.2 l) [])

theorem ofFields_eq_ofList (fields : List (String × Json)) :
    ofFields fields = .object (Table.ofList fields).entries :=
  congrArg object (Table.entries_foldl_insert .empty fields).symm

/-- A field of an object; other values have none. -/
def get? : Json → String → Option Json
  | .object fields, key => Entries.lookup? key fields
  | _, _ => none

/-- Of several fields with one key the last one is found. -/
theorem get?_ofFields (fields : List (String × Json)) (key : String) :
    (ofFields fields).get? key = Entries.lookup? key fields.reverse := by
  simp [ofFields, get?, Entries.lookup?_foldl_insert, Entries.lookup?]

/-- The text of a string value. -/
def asString? : Json → Option String
  | .string s => some s
  | _ => none

/-- The truth value. -/
def asBool? : Json → Option Bool
  | .bool b => some b
  | _ => none

/-- An integer of 64 bits with sign. -/
def asInt64? : Json → Option Int
  | .number (.integer n) => if -0x8000000000000000 ≤ n ∧ n < 0x8000000000000000 then some n else none
  | _ => none

/-- An integer of 64 bits without sign. -/
def asNat64? : Json → Option Nat
  | .number (.integer n) => if 0 ≤ n ∧ n < 0x10000000000000000 then some n.toNat else none
  | _ => none

/-- The integers of the wire. -/
def Number.InRange : Number → Prop
  | .integer n => -0x8000000000000000 ≤ n ∧ n < 0x10000000000000000
  | .double _ => True

mutual

/-- How deeply containers are nested. -/
def depth : Json → Nat
  | .array items => itemsDepth items + 1
  | .object fields => fieldsDepth fields + 1
  | _ => 0

/-- The depth of the deepest item. -/
def itemsDepth : List Json → Nat
  | [] => 0
  | v :: rest => max v.depth (itemsDepth rest)

/-- The depth of the deepest field. -/
def fieldsDepth : List (String × Json) → Nat
  | [] => 0
  | (_, v) :: rest => max v.depth (fieldsDepth rest)

end

mutual

/-- Keys ascend strictly in every object and integers are those of the wire. -/
def Canonical : Json → Prop
  | .number n => n.InRange
  | .array items => ItemsCanonical items
  | .object fields => Entries.Ascending fields ∧ FieldsCanonical fields
  | _ => True

/-- Every item is canonical. -/
def ItemsCanonical : List Json → Prop
  | [] => True
  | v :: rest => v.Canonical ∧ ItemsCanonical rest

/-- The value of every field is canonical. -/
def FieldsCanonical : List (String × Json) → Prop
  | [] => True
  | (_, v) :: rest => v.Canonical ∧ FieldsCanonical rest

end

mutual

/-- No number is a double. -/
def WithoutDoubles : Json → Prop
  | .number (.double _) => False
  | .array items => ItemsWithoutDoubles items
  | .object fields => FieldsWithoutDoubles fields
  | _ => True

/-- No number among the items is a double. -/
def ItemsWithoutDoubles : List Json → Prop
  | [] => True
  | v :: rest => v.WithoutDoubles ∧ ItemsWithoutDoubles rest

/-- No number among the fields is a double. -/
def FieldsWithoutDoubles : List (String × Json) → Prop
  | [] => True
  | (_, v) :: rest => v.WithoutDoubles ∧ FieldsWithoutDoubles rest

end

mutual

/-- The value with the fields of every object in ascending order of their keys. -/
def sorted : Json → Json
  | .array items => .array (itemsSorted items)
  | .object fields => ofFields (fieldsSorted fields)
  | v => v

/-- Every item sorted. -/
def itemsSorted : List Json → List Json
  | [] => []
  | v :: rest => v.sorted :: itemsSorted rest

/-- The value of every field sorted. -/
def fieldsSorted : List (String × Json) → List (String × Json)
  | [] => []
  | (k, v) :: rest => (k, v.sorted) :: fieldsSorted rest

end

end Json

end LiveTrace
