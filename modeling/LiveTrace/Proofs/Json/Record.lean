import LiveTrace.Json.Record
import LiveTrace.Proofs.Entries
import LiveTrace.Proofs.Json.Structure
/-!
# LiveTrace.Proofs.Json.Record

**Which objects have the form of a record.** An object is accepted if none of its fields is refused
and no required one is missing (`Record.fields?_object_eq_ok_iff`); fields without a rule do not
matter. Where no field is listed twice, this can be asked rule by rule: each field of the record has
to be there and well formed, or left out if it may be (`Record.fields?_object_iff_isMet`,
`FieldRule.IsMet`). Objects that were written or read list no field twice, and sorting their fields
changes nothing about what is found under a name (`Json.exists_sorted_object`).
-/

namespace LiveTrace

/-! ### Objects -/

namespace Json

/-- No field of an object is listed twice. -/
theorem Canonical.nodup_keys {fields : List (String × Json)} (h : (object fields).Canonical) :
    (fields.map Prod.fst).Nodup := (canonical_object_iff.1 h).1.nodup_keys

theorem Canonical.of_lookup? {fields : List (String × Json)} (h : (object fields).Canonical)
    {k : String} {v : Json} (hv : Entries.lookup? k fields = some v) : v.Canonical := by
  obtain ⟨hsorted, hvalues⟩ := canonical_object_iff.1 h
  exact hvalues _ ((Table.lookup?_eq_some_iff hsorted).1 hv)

/-- The fields of an object, sorted, are those that it listed, with their values sorted. -/
theorem exists_sorted_object {fields : List (String × Json)}
    (hkeys : (fields.map Prod.fst).Nodup) :
    ∃ l, (object fields).sorted = .object l ∧ (l.map Prod.fst).Nodup ∧
      ∀ k, Entries.lookup? k l = (Entries.lookup? k fields).map sorted := by
  let table := Table.ofList (fields.map fun e => (e.1, e.2.sorted))
  refine ⟨table.entries, ?_, table.ascending.nodup_keys, fun k => ?_⟩
  · rw [sorted_object, ofFields_eq_ofList]
  · have hnodup : ((fields.map fun e => (e.1, e.2.sorted)).map Prod.fst).Nodup := by
      rwa [List.map_map]
    have hfold := Entries.lookup?_foldl_insert_of_nodup Prod.fst Prod.snd hnodup [] k
    rw [Entries.lookup?, Option.or_none, List.map_id'] at hfold
    rw [← Table.lookup?_map_values, ← hfold]
    exact congrArg (Entries.lookup? k) (Table.entries_foldl_insert ..)

end Json

/-! ### One field -/

namespace FieldRule

/-- A field of an object is well formed, or it is left out and may be. -/
def IsMet (r : FieldRule) (fields : List (String × Json)) : Prop :=
  match Entries.lookup? r.name fields with
  | some v => r.check v = .ok ()
  | none => r.required = false

variable {fields : List (String × Json)} {name : String}

theorem isString_eq_ok_iff {v : Json} : isString v = .ok () ↔ ∃ s, v = .string s := by
  cases v <;> simp [isString]

theorem isInt64_eq_ok_iff {v : Json} :
    isInt64 v = .ok () ↔
      ∃ n, v = .int n ∧ -0x8000000000000000 ≤ n ∧ n < 0x8000000000000000 := by
  unfold isInt64
  split
  · rename_i n
    split <;> simp_all [Json.int]
  · rename_i v hother
    simp only [reduceCtorEq, false_iff, not_exists, not_and]
    rintro n rfl
    exact absurd rfl (hother n)

theorem isMet_requiredString :
    (requiredString name).IsMet fields ↔ ∃ s, Entries.lookup? name fields = some (.string s) := by
  unfold IsMet
  show (match Entries.lookup? name fields with
    | some v => isString v = .ok ()
    | none => true = false) ↔ _
  cases Entries.lookup? name fields with
  | none => simp
  | some v => simp [isString_eq_ok_iff]

theorem IsMet.string {s : String} (h : Entries.lookup? name fields = some (.string s)) :
    (FieldRule.string name).IsMet fields := by
  rw [IsMet, show (FieldRule.string name).name = name from rfl, h]
  rfl

/-- A text that may be left out or be `null` is written as a string, or not at all. -/
theorem IsMet.optionalString {s : Option String}
    (h : Entries.lookup? name fields = s.map .string) :
    (FieldRule.optionalString name).IsMet fields := by
  rw [IsMet, show (FieldRule.optionalString name).name = name from rfl, h]
  cases s <;> rfl

theorem IsMet.any : (FieldRule.any name).IsMet fields := by
  unfold IsMet
  split <;> rfl

theorem isMet_requiredInt :
    (requiredInt name).IsMet fields ↔
      ∃ n, Entries.lookup? name fields = some (.int n) ∧
        -0x8000000000000000 ≤ n ∧ n < 0x8000000000000000 := by
  unfold IsMet
  show (match Entries.lookup? name fields with
    | some v => isInt64 v = .ok ()
    | none => true = false) ↔ _
  cases Entries.lookup? name fields with
  | none => simp
  | some v => simp [isInt64_eq_ok_iff]

end FieldRule

/-! ### Records -/

namespace Record

variable {rules : List FieldRule} {fields : List (String × Json)}

theorem check_eq_ok_iff :
    check rules fields = .ok () ↔
      ∀ e ∈ fields, ∀ r, (rules.find? fun r => r.name == e.1) = some r → r.check e.2 = .ok () := by
  induction fields with
  | nil => simp [check]
  | cons e rest ih =>
    obtain ⟨name, v⟩ := e
    rw [check, List.forall_mem_cons, ← ih]
    cases rules.find? fun r => r.name == name with
    | none => simp
    | some r => cases hv : r.check v <;> simp [hv]

/-- **An object has the form of a record** if none of its fields is refused and none that is
required is missing. -/
theorem fields?_object_eq_ok_iff {record : String} {l : List (String × Json)} :
    fields? record rules (.object fields) = .ok l ↔
      l = fields ∧
        (∀ e ∈ fields, ∀ r, (rules.find? fun r => r.name == e.1) = some r →
          r.check e.2 = .ok ()) ∧
        ∀ r ∈ rules, r.required = true → (Entries.lookup? r.name fields).isSome = true := by
  have hmissing : (rules.find? fun r =>
      r.required && (Entries.lookup? r.name fields).isNone) = none ↔
        ∀ r ∈ rules, r.required = true → (Entries.lookup? r.name fields).isSome = true := by
    simp [List.find?_eq_none, Option.isSome_iff_ne_none]
  rw [← check_eq_ok_iff, ← hmissing]
  show (check rules fields >>= _) = _ ↔ _
  cases check rules fields with
  | error e => simp [bind, Except.bind]
  | ok _ =>
    simp only [bind, Except.bind]
    cases rules.find? fun r => r.required && (Entries.lookup? r.name fields).isNone with
    | some r => simp
    | none => simp [eq_comm]

/-- An object has the form of a record whose fields may be left out, if its own fields are well
formed. -/
theorem fields?_object (hoptional : ∀ r ∈ rules, r.required = false)
    (h : ∀ e ∈ fields, ∀ r, (rules.find? fun r => r.name == e.1) = some r → r.check e.2 = .ok ())
    (record : String) : fields? record rules (.object fields) = .ok fields := by
  refine fields?_object_eq_ok_iff.2 ⟨rfl, h, fun r hr hrequired => ?_⟩
  rw [hoptional r hr] at hrequired
  contradiction

theorem string?_eq {name : String} {s : Option String}
    (h : Entries.lookup? name fields = s.map .string) : string? fields name = s := by
  rw [string?, h]
  cases s <;> rfl

theorem string_eq {name s default : String} (h : Entries.lookup? name fields = some (.string s)) :
    string fields name default = s := by
  rw [string, string?, h]
  rfl

theorem int_eq {name : String} {n : Int} (h : Entries.lookup? name fields = some (.int n))
    (hlow : -0x8000000000000000 ≤ n) (hhigh : n < 0x8000000000000000) : int fields name = n := by
  rw [int, h]
  simp [Json.int, Json.asInt64?, hlow, hhigh]

/-- A rule is found by the name of its field. -/
theorem find?_name_eq_some (hnames : (rules.map FieldRule.name).Nodup) {r : FieldRule}
    (hr : r ∈ rules) : (rules.find? fun r' => r'.name == r.name) = some r := by
  induction rules with
  | nil => contradiction
  | cons r' rules ih =>
    obtain ⟨hr', hrules⟩ := List.nodup_cons.1 hnames
    rcases List.mem_cons.1 hr with rfl | hr
    · exact List.find?_cons_of_pos (by simp)
    · have hne : r'.name ≠ r.name := fun h => hr' (h ▸ List.mem_map_of_mem hr)
      rw [List.find?_cons_of_neg (by simpa using hne)]
      exact ih hrules hr

/-- **Rule by rule:** an object that lists no field twice has the form of a record if and only if
each field of the record is well formed in it, or is left out and may be. -/
theorem fields?_object_iff_isMet (hkeys : (fields.map Prod.fst).Nodup)
    (hnames : (rules.map FieldRule.name).Nodup) {record : String} {l : List (String × Json)} :
    fields? record rules (.object fields) = .ok l ↔
      l = fields ∧ ∀ r ∈ rules, r.IsMet fields := by
  rw [fields?_object_eq_ok_iff]
  refine and_congr_right fun _ => ⟨?_, fun h => ⟨?_, ?_⟩⟩
  · rintro ⟨hcheck, hrequired⟩ r hr
    unfold FieldRule.IsMet
    cases hlookup : Entries.lookup? r.name fields with
    | some v =>
      have hmem := (Entries.lookup?_eq_some_iff hkeys).1 hlookup
      exact hcheck _ hmem r (find?_name_eq_some hnames hr)
    | none =>
      have hpresent := hrequired r hr
      rw [hlookup] at hpresent
      simpa using hpresent
  · rintro ⟨name, v⟩ he r hfind
    have hname : r.name = name := by simpa using List.find?_some hfind
    have hlookup : Entries.lookup? r.name fields = some v :=
      (Entries.lookup?_eq_some_iff hkeys).2 (hname ▸ he)
    have hmet := h r (List.mem_of_find?_eq_some hfind)
    rwa [FieldRule.IsMet, hlookup] at hmet
  · intro r hr hrequired
    have hmet := h r hr
    unfold FieldRule.IsMet at hmet
    cases hlookup : Entries.lookup? r.name fields with
    | some v => rfl
    | none =>
      rw [hlookup] at hmet
      rw [hmet] at hrequired
      contradiction

end Record

end LiveTrace
