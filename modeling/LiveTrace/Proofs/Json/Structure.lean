import LiveTrace.Json.Basic
/-!
# LiveTrace.Proofs.Json.Structure

**Values by their parts.** What is said of a JSON value by recursion (`Json.depth`, `Json.Canonical`,
`Json.WithoutDoubles`, `Json.sorted`) is restated here in terms of the items of an array and the
fields of an object, which is the form that proofs about the reader and the printer need, since
those go through lists. `Json.induction` is the induction that fits.

A value is `Json.Integral` if each of its numbers is an integer of the wire. Such a value can list
its fields in any order; a canonical value is one whose fields are sorted already
(`Json.Canonical.sorted_eq`).
-/

namespace LiveTrace

namespace Json

/-! ### Induction -/

/-- Induction over the parts of a value. -/
@[elab_as_elim]
theorem induction {motive : Json → Prop} (null : motive .null) (bool : ∀ b, motive (.bool b))
    (number : ∀ n, motive (.number n)) (string : ∀ s, motive (.string s))
    (array : ∀ items, (∀ v ∈ items, motive v) → motive (.array items))
    (object : ∀ fields, (∀ e ∈ fields, motive e.2) → motive (.object fields)) (v : Json) :
    motive v := by
  refine @Json.rec motive (fun items => ∀ v ∈ items, motive v)
    (fun fields => ∀ e ∈ fields, motive e.2) (fun e => motive e.2)
    null bool number string array object ?_ ?_ ?_ ?_ ?_ v
  · simp
  · intro v rest hv hrest
    simpa using ⟨hv, hrest⟩
  · simp
  · intro e rest he hrest w hw
    rcases List.mem_cons.1 hw with rfl | hw
    · exact he
    · exact hrest w hw
  · intro k v hv
    exact hv

/-! ### Depth -/

theorem itemsDepth_le_iff {items : List Json} {n : Nat} :
    itemsDepth items ≤ n ↔ ∀ v ∈ items, v.depth ≤ n := by
  induction items with
  | nil => simp [itemsDepth]
  | cons v rest ih => simp only [itemsDepth, Nat.max_le, ih, List.forall_mem_cons]

theorem fieldsDepth_le_iff {fields : List (String × Json)} {n : Nat} :
    fieldsDepth fields ≤ n ↔ ∀ e ∈ fields, e.2.depth ≤ n := by
  induction fields with
  | nil => simp [fieldsDepth]
  | cons e rest ih => simp only [fieldsDepth, Nat.max_le, ih, List.forall_mem_cons]

/-- An array is one level deeper than the deepest of its items. -/
theorem depth_array_le_iff {items : List Json} {n : Nat} :
    (array items).depth ≤ n + 1 ↔ ∀ v ∈ items, v.depth ≤ n := by
  rw [depth, Nat.add_le_add_iff_right, itemsDepth_le_iff]

/-- An object is one level deeper than the deepest of its fields. -/
theorem depth_object_le_iff {fields : List (String × Json)} {n : Nat} :
    (object fields).depth ≤ n + 1 ↔ ∀ e ∈ fields, e.2.depth ≤ n := by
  rw [depth, Nat.add_le_add_iff_right, fieldsDepth_le_iff]

/-! ### Canonical values and values without doubles -/

theorem canonical_array_iff {items : List Json} :
    (array items).Canonical ↔ ∀ v ∈ items, v.Canonical := by
  rw [Canonical]
  induction items with
  | nil => simp [ItemsCanonical]
  | cons v rest ih => simp only [ItemsCanonical, ih, List.forall_mem_cons]

theorem canonical_object_iff {fields : List (String × Json)} :
    (object fields).Canonical ↔ Entries.Ascending fields ∧ ∀ e ∈ fields, e.2.Canonical := by
  have hvalues : FieldsCanonical fields ↔ ∀ e ∈ fields, e.2.Canonical := by
    induction fields with
    | nil => simp [FieldsCanonical]
    | cons e rest ih => simp only [FieldsCanonical, ih, List.forall_mem_cons]
  rw [Canonical, hvalues]

theorem withoutDoubles_array_iff {items : List Json} :
    (array items).WithoutDoubles ↔ ∀ v ∈ items, v.WithoutDoubles := by
  rw [WithoutDoubles]
  induction items with
  | nil => simp [ItemsWithoutDoubles]
  | cons v rest ih => simp only [ItemsWithoutDoubles, ih, List.forall_mem_cons]

theorem withoutDoubles_object_iff {fields : List (String × Json)} :
    (object fields).WithoutDoubles ↔ ∀ e ∈ fields, e.2.WithoutDoubles := by
  rw [WithoutDoubles]
  induction fields with
  | nil => simp [FieldsWithoutDoubles]
  | cons e rest ih => simp only [FieldsWithoutDoubles, ih, List.forall_mem_cons]

/-! ### Sorting fields -/

theorem sorted_array (items : List Json) : (array items).sorted = .array (items.map sorted) := by
  rw [sorted]
  refine congrArg array ?_
  induction items with
  | nil => rfl
  | cons v rest ih => rw [itemsSorted, ih, List.map_cons]

theorem sorted_object (fields : List (String × Json)) :
    (object fields).sorted = ofFields (fields.map fun e => (e.1, e.2.sorted)) := by
  rw [sorted]
  refine congrArg ofFields ?_
  induction fields with
  | nil => rfl
  | cons e rest ih => rw [fieldsSorted, ih, List.map_cons]

/-- Fields that ascend are left as they are. -/
theorem ofFields_of_ascending {fields : List (String × Json)} (h : Entries.Ascending fields) :
    ofFields fields = .object fields := by
  have htable : Table.ofList fields = ⟨fields, h⟩ := by
    refine Table.ext_get? fun k => ?_
    rw [Table.ofList, Table.get?_foldl_insert, Table.lookup?_reverse h, Table.get?_empty,
      Option.or_none]
    rfl
  rw [ofFields_eq_ofList, htable]

/-- Sorting adds no field. -/
theorem mem_ofList {fields : List (String × Json)} {e : String × Json}
    (h : e ∈ (Table.ofList fields).entries) : e ∈ fields := by
  have hmem (l m : List (String × Json))
      (h : e ∈ l.foldl (fun m e => Entries.insert e.1 e.2 m) m) : e ∈ l ∨ e ∈ m := by
    induction l generalizing m with
    | nil => exact .inr h
    | cons f rest ih =>
      rcases ih _ h with hrest | hinsert
      · exact .inl (List.mem_cons_of_mem _ hrest)
      · rcases Entries.mem_insert hinsert with rfl | hm
        · exact .inl List.mem_cons_self
        · exact .inr hm
  rw [Table.ofList, Table.entries_foldl_insert] at h
  simpa [Table.empty] using hmem fields [] h

/-- **A canonical value is sorted already.** -/
theorem Canonical.sorted_eq {v : Json} (h : v.Canonical) : v.sorted = v := by
  induction v using Json.induction with
  | null | bool | number | string => rfl
  | array items ih =>
    have hitems : items.map sorted = items.map id :=
      List.map_congr_left fun v hv => ih v hv (canonical_array_iff.1 h v hv)
    rw [sorted_array, hitems, List.map_id]
  | object fields ih =>
    obtain ⟨hascending, hvalues⟩ := canonical_object_iff.1 h
    have hfields : fields.map (fun e => (e.1, e.2.sorted)) = fields.map id :=
      List.map_congr_left fun e he => congrArg (Prod.mk e.1) (ih e he (hvalues e he))
    rw [sorted_object, hfields, List.map_id, ofFields_of_ascending hascending]

/-! ### Values whose numbers are integers -/

/-- Every number is an integer of the wire. -/
inductive Integral : Json → Prop
  | null : Integral .null
  | bool (b : Bool) : Integral (.bool b)
  | number {n : Int} (h : (Number.integer n).InRange) : Integral (.number (.integer n))
  | string (s : String) : Integral (.string s)
  | array {items : List Json} (h : ∀ v ∈ items, Integral v) : Integral (.array items)
  | object {fields : List (String × Json)} (h : ∀ e ∈ fields, Integral e.2) :
    Integral (.object fields)

/-- Sorting fields changes no number. -/
theorem Integral.sorted {v : Json} (h : v.Integral) : v.sorted.Integral := by
  induction h with
  | null => exact .null
  | bool b => exact .bool b
  | number h => exact .number h
  | string s => exact .string s
  | @array items h ih =>
    rw [sorted_array]
    refine .array fun w hw => ?_
    obtain ⟨v, hv, rfl⟩ := List.mem_map.1 hw
    exact ih v hv
  | @object fields h ih =>
    rw [sorted_object, ofFields_eq_ofList]
    refine .object fun f hf => ?_
    obtain ⟨e, he, rfl⟩ := List.mem_map.1 (mem_ofList hf)
    exact ih e he

theorem Canonical.integral {v : Json} (h : v.Canonical) (hdoubles : v.WithoutDoubles) :
    v.Integral := by
  induction v using Json.induction with
  | null => exact .null
  | bool b => exact .bool b
  | number n =>
    cases n with
    | integer n => exact .number (by simpa [Canonical] using h)
    | double d => simp [WithoutDoubles] at hdoubles
  | string s => exact .string s
  | array items ih =>
    rw [canonical_array_iff] at h
    rw [withoutDoubles_array_iff] at hdoubles
    exact .array fun v hv => ih v hv (h v hv) (hdoubles v hv)
  | object fields ih =>
    rw [canonical_object_iff] at h
    rw [withoutDoubles_object_iff] at hdoubles
    exact .object fun e he => ih e he (h.2 e he) (hdoubles e he)

end Json

end LiveTrace
