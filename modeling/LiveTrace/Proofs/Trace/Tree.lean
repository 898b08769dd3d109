import Mathlib.Data.String.Basic
import LiveTrace.Proofs.Json.RoundTrip
import LiveTrace.Trace.Tree
/-!
# LiveTrace.Proofs.Trace.Tree

**Opening a value up to a depth loses nothing.** Places in values and in trees are told by the same
steps, to the field of a key or to an item, and what a tree shows at a place is the value at that
place, opened as far as the depth goes on from there (`Tree.at?_ofJson`). So a container is left
closed only where the depth is used up, and elsewhere the rows of a tree are the fields and items of
the value, in their order.

Closed containers are shown as JSON text, which is read back as other text is. Reading every leaf
rebuilds the value (`Tree.toJson?_ofJson`).
-/

namespace LiveTrace

/-- A step from a container to something in it. -/
inductive JsonPart
  /-- The value of a field. -/
  | field (key : String)
  /-- The item at an index. -/
  | item (index : Nat)
  deriving DecidableEq, Inhabited

namespace Json

/-- What a step leads to. -/
def part? : Json → JsonPart → Option Json
  | .object fields, .field key => Entries.lookup? key fields
  | .array items, .item index => items[index]?
  | _, _ => none

/-- The value at a place, which is below as many containers as the place has steps. -/
def at? (v : Json) : List JsonPart → Option Json
  | [] => some v
  | part :: place => (v.part? part).bind fun w => w.at? place

end Json

namespace Tree

/-- What a step leads to. -/
def part? : Tree → JsonPart → Option Tree
  | t, .field key => t.row? key
  | .array items, .item index => items[index]?
  | _, _ => none

/-- The node at a place, which is below as many containers as the place has steps. -/
def at? (t : Tree) : List JsonPart → Option Tree
  | [] => some t
  | part :: place => (t.part? part).bind fun u => u.at? place

mutual

/-- How deeply containers are nested. -/
def depth : Tree → Nat
  | leaf .. => 0
  | object rows => rowsDepth rows + 1
  | array items => itemsDepth items + 1

/-- The depth of the deepest row. -/
def rowsDepth : List (String × Tree) → Nat
  | [] => 0
  | (_, t) :: rows => max t.depth (rowsDepth rows)

/-- The depth of the deepest item. -/
def itemsDepth : List Tree → Nat
  | [] => 0
  | t :: items => max t.depth (itemsDepth items)

end

mutual

/-- The value that a tree shows: each leaf is the value that its text is read as. -/
def toJson? : Tree → Option Json
  | leaf _ text => Json.read? (String.ofList text)
  | object rows => (rowsToJson? rows).map .object
  | array items => (itemsToJson? items).map .array

/-- The fields that rows show. -/
def rowsToJson? : List (String × Tree) → Option (List (String × Json))
  | [] => some []
  | (key, t) :: rows => do
    let v ← t.toJson?
    let fields ← rowsToJson? rows
    return (key, v) :: fields

/-- The items that a tree shows. -/
def itemsToJson? : List Tree → Option (List Json)
  | [] => some []
  | t :: items => do
    let v ← t.toJson?
    let values ← itemsToJson? items
    return v :: values

end

/-! ### How deep a tree is -/

theorem itemsDepth_map {d : Nat} {items : List Json}
    (h : ∀ v ∈ items, (ofJson d v).depth = min d v.depth) :
    itemsDepth (items.map (ofJson d)) = min d (Json.itemsDepth items) := by
  induction items with
  | nil => simp [itemsDepth, Json.itemsDepth]
  | cons v rest ih =>
    have hrest := ih fun w hw => h w (List.mem_cons_of_mem v hw)
    rw [List.map_cons, itemsDepth, Json.itemsDepth, hrest, h v List.mem_cons_self]
    omega

theorem rowsDepth_map {d : Nat} {fields : List (String × Json)}
    (h : ∀ e ∈ fields, (ofJson d e.2).depth = min d e.2.depth) :
    rowsDepth (fields.map fun e => (e.1, ofJson d e.2)) = min d (Json.fieldsDepth fields) := by
  induction fields with
  | nil => simp [rowsDepth, Json.fieldsDepth]
  | cons e rest ih =>
    have hrest := ih fun f hf => h f (List.mem_cons_of_mem e hf)
    rw [List.map_cons, rowsDepth, Json.fieldsDepth, hrest, h e List.mem_cons_self]
    omega

/-- **A tree is as deep as its value, but no deeper than it may be.** -/
theorem depth_ofJson (d : Nat) (v : Json) : (ofJson d v).depth = min d v.depth := by
  induction v using Json.induction generalizing d with
  | null | bool | number | string => simp [ofJson, depth, Json.depth]
  | array items ih =>
    cases d with
    | zero => simp [ofJson, depth]
    | succ d =>
      rw [ofJson, depth, Json.depth, itemsDepth_map fun v hv => ih v hv d]
      omega
  | object fields ih =>
    cases d with
    | zero => simp [ofJson, depth]
    | succ d =>
      rw [ofJson, depth, Json.depth, rowsDepth_map fun e he => ih e he d]
      omega

/-! ### What stands at a place -/

theorem part?_ofJson_zero (v : Json) (part : JsonPart) : (ofJson 0 v).part? part = none := by
  cases part <;> simp [ofJson, part?, row?]

theorem part?_ofJson_succ (d : Nat) (v : Json) (part : JsonPart) :
    (ofJson (d + 1) v).part? part = (v.part? part).map (ofJson d) := by
  cases v <;> cases part <;>
    simp [ofJson, part?, row?, Json.part?, Table.lookup?_map_values]

/-- **A tree shows at a place the value at that place**, opened up to the depth that is left. -/
theorem at?_ofJson (d : Nat) (v : Json) (place : List JsonPart) :
    (ofJson d v).at? place =
      if place.length ≤ d then (v.at? place).map (ofJson (d - place.length)) else none := by
  induction place generalizing d v with
  | nil => rfl
  | cons part place ih =>
    rw [at?, Json.at?]
    cases d with
    | zero => simp [part?_ofJson_zero]
    | succ d =>
      rw [part?_ofJson_succ, List.length_cons]
      cases v.part? part with
      | none => simp
      | some w => simp [ih]

/-- A node is the value at its place, which leads through no more containers than may be opened. -/
theorem exists_of_at?_ofJson {d : Nat} {v : Json} {place : List JsonPart} {t : Tree}
    (h : (ofJson d v).at? place = some t) :
    place.length ≤ d ∧ ∃ w, v.at? place = some w ∧ ofJson (d - place.length) w = t := by
  rw [at?_ofJson] at h
  split at h
  · rename_i hle
    exact ⟨hle, Option.map_eq_some_iff.1 h⟩
  · contradiction

/-- A closed container is one that is opened no further. -/
theorem eq_zero_of_closed {d : Nat} {w : Json} {text : List Char}
    (h : ofJson d w = .leaf .json text) :
    d = 0 ∧ text = w.text ∧ ((∃ fields, w = .object fields) ∨ ∃ items, w = .array items) := by
  cases w with
  | object fields => cases d <;> simp_all [ofJson]
  | array items => cases d <;> simp_all [ofJson]
  | _ => simp [ofJson, LeafClass.of] at h

theorem eq_object_of_opened {d : Nat} {w : Json} {rows : List (String × Tree)}
    (h : ofJson d w = .object rows) :
    ∃ fields, w = .object fields ∧ rows = fields.map fun e => (e.1, ofJson (d - 1) e.2) := by
  cases w with
  | object fields => cases d <;> simp_all [ofJson]
  | array items => cases d <;> simp [ofJson] at h
  | _ => simp [ofJson] at h

theorem eq_array_of_opened {d : Nat} {w : Json} {items : List Tree}
    (h : ofJson d w = .array items) :
    ∃ values, w = .array values ∧ items = values.map (ofJson (d - 1)) := by
  cases w with
  | object fields => cases d <;> simp [ofJson] at h
  | array values => cases d <;> simp_all [ofJson]
  | _ => simp [ofJson] at h

/-- A depth that is enough opens everything, and more makes no difference. -/
theorem ofJson_of_depth_le {d e : Nat} {v : Json} (hd : v.depth ≤ d) (he : v.depth ≤ e) :
    ofJson d v = ofJson e v := by
  induction v using Json.induction generalizing d e with
  | null | bool | number | string => simp [ofJson]
  | array items ih =>
    obtain ⟨d, rfl⟩ : ∃ n, d = n + 1 := ⟨d - 1, by simp only [Json.depth] at hd; omega⟩
    obtain ⟨e, rfl⟩ : ∃ n, e = n + 1 := ⟨e - 1, by simp only [Json.depth] at he; omega⟩
    rw [Json.depth_array_le_iff] at hd he
    rw [ofJson, ofJson, List.map_congr_left fun v hv => ih v hv (hd v hv) (he v hv)]
  | object fields ih =>
    obtain ⟨d, rfl⟩ : ∃ n, d = n + 1 := ⟨d - 1, by simp only [Json.depth] at hd; omega⟩
    obtain ⟨e, rfl⟩ : ∃ n, e = n + 1 := ⟨e - 1, by simp only [Json.depth] at he; omega⟩
    rw [Json.depth_object_le_iff] at hd he
    rw [ofJson, ofJson]
    refine congrArg object (List.map_congr_left fun f hf => ?_)
    rw [ih f hf (hd f hf) (he f hf)]

end Tree

namespace Json

/-- Everything in a canonical value is canonical. -/
theorem Canonical.part? {v w : Json} (hv : v.Canonical) {part : JsonPart}
    (h : v.part? part = some w) : w.Canonical := by
  cases v <;> cases part <;> simp only [Json.part?, reduceCtorEq] at h
  · rename_i items index
    exact canonical_array_iff.1 hv w (List.mem_of_getElem? h)
  · rename_i fields key
    obtain ⟨hascending, hvalues⟩ := canonical_object_iff.1 hv
    exact hvalues (key, w) ((Table.lookup?_eq_some_iff hascending).1 h)

theorem Canonical.at? {v w : Json} (hv : v.Canonical) {place : List JsonPart}
    (h : v.at? place = some w) : w.Canonical := by
  induction place generalizing v with
  | nil =>
    obtain rfl := Option.some.inj h
    exact hv
  | cons part place ih =>
    obtain ⟨u, hu, hw⟩ := Option.bind_eq_some_iff.1 h
    exact ih (hv.part? hu) hw

end Json

namespace Tree

/-! ### Reading leaves -/

theorem itemsToJson?_map {d : Nat} {items : List Json}
    (h : ∀ v ∈ items, (ofJson d v).toJson? = some v) :
    itemsToJson? (items.map (ofJson d)) = some items := by
  induction items with
  | nil => rfl
  | cons v rest ih =>
    have hrest := ih fun w hw => h w (List.mem_cons_of_mem v hw)
    rw [List.map_cons, itemsToJson?, h v List.mem_cons_self, hrest]
    rfl

theorem rowsToJson?_map {d : Nat} {fields : List (String × Json)}
    (h : ∀ e ∈ fields, (ofJson d e.2).toJson? = some e.2) :
    rowsToJson? (fields.map fun e => (e.1, ofJson d e.2)) = some fields := by
  induction fields with
  | nil => rfl
  | cons e rest ih =>
    have hrest := ih fun f hf => h f (List.mem_cons_of_mem e hf)
    rw [List.map_cons, rowsToJson?, h e List.mem_cons_self, hrest]
    rfl

/-- The text of a value without doubles is read as the value. -/
theorem toJson?_leaf {v : Json} (hv : v.Canonical) (hdoubles : v.WithoutDoubles)
    (hdepth : v.depth ≤ Json.maxDepth) (kind : LeafClass) :
    (leaf kind v.text).toJson? = some v := by
  have hread := Json.readWithin?_compact (hv.integral hdoubles) hdepth
  rwa [hv.sorted_eq] at hread

/-- **Reading every leaf rebuilds the value**, however far it was opened. -/
theorem toJson?_ofJson (d : Nat) {v : Json} (hv : v.Canonical) (hdoubles : v.WithoutDoubles)
    (hdepth : v.depth ≤ Json.maxDepth) : (ofJson d v).toJson? = some v := by
  induction v using Json.induction generalizing d with
  | null | bool | number | string =>
    rw [ofJson]
    · exact toJson?_leaf hv hdoubles hdepth _
    all_goals nofun
  | array items ih =>
    cases d with
    | zero => exact toJson?_leaf hv hdoubles hdepth _
    | succ d =>
      have hitems : itemsToJson? (items.map (ofJson d)) = some items := by
        refine itemsToJson?_map fun v hmem => ih v hmem d (Json.canonical_array_iff.1 hv v hmem)
          (Json.withoutDoubles_array_iff.1 hdoubles v hmem) ?_
        exact Json.depth_array_le_iff.1 (Nat.le_succ_of_le hdepth) v hmem
      rw [ofJson, toJson?, hitems]
      rfl
  | object fields ih =>
    cases d with
    | zero => exact toJson?_leaf hv hdoubles hdepth _
    | succ d =>
      have hrows : rowsToJson? (fields.map fun e => (e.1, ofJson d e.2)) = some fields := by
        refine rowsToJson?_map fun e hmem => ih e hmem d ((Json.canonical_object_iff.1 hv).2 e hmem)
          (Json.withoutDoubles_object_iff.1 hdoubles e hmem) ?_
        exact Json.depth_object_le_iff.1 (Nat.le_succ_of_le hdepth) e hmem
      rw [ofJson, toJson?, hrows]
      rfl

/-! ### Nothing is lost -/

/-- **Opening a value up to a depth loses nothing.** Open any value up to any depth. Then

* containers are nested as in the value, but no deeper than the depth;
* a container is shown closed only below as many open ones as the depth tells, and it is an object
  or an array of the value, shown by its text;
* if the depth is that of the value at least, no container is closed, and a greater depth gives the
  same tree;
* the rows of an open object are the fields of the object at the same place, their keys ascending,
  and those of an open array are the items of the array there, in order, each opened up to the depth
  that is left;
* if the value has no doubles and nests no more than 127 containers, the value is rebuilt by reading
  the text of every leaf. -/
theorem ofJson_loses_nothing (d : Nat) {v : Json} (hv : v.Canonical) :
    (ofJson d v).depth = min d v.depth ∧
      (∀ place text, (ofJson d v).at? place = some (.leaf .json text) →
        place.length = d ∧ ∃ w, v.at? place = some w ∧ text = w.text ∧
          ((∃ fields, w = .object fields) ∨ ∃ items, w = .array items)) ∧
      (v.depth ≤ d → (∀ place text, (ofJson d v).at? place ≠ some (.leaf .json text)) ∧
        ∀ e, d ≤ e → ofJson e v = ofJson d v) ∧
      (∀ place rows, (ofJson d v).at? place = some (.object rows) →
        (rows.map Prod.fst).Pairwise (· < ·) ∧ ∃ fields, v.at? place = some (.object fields) ∧
          rows = fields.map fun e => (e.1, ofJson (d - (place.length + 1)) e.2)) ∧
      (∀ place items, (ofJson d v).at? place = some (.array items) →
        ∃ values, v.at? place = some (.array values) ∧
          items = values.map (ofJson (d - (place.length + 1)))) ∧
      (v.WithoutDoubles → v.depth ≤ 127 → (ofJson d v).toJson? = some v) := by
  have hclosed (d : Nat) (place : List JsonPart) (text : List Char)
      (h : (ofJson d v).at? place = some (.leaf .json text)) :
      place.length = d ∧ ∃ w, v.at? place = some w ∧ text = w.text ∧
        ((∃ fields, w = .object fields) ∨ ∃ items, w = .array items) := by
    obtain ⟨hle, w, hw, ht⟩ := exists_of_at?_ofJson h
    obtain ⟨hleft, htext, hcontainer⟩ := eq_zero_of_closed ht
    exact ⟨by omega, w, hw, htext, hcontainer⟩
  refine ⟨depth_ofJson d v, hclosed d, fun hd => ⟨fun place text h => ?_, fun e he => ?_⟩,
    fun place rows h => ?_, fun place items h => ?_, toJson?_ofJson d hv⟩
  · -- one more level changes nothing, so the leaf would be below two numbers of containers
    have hmore : (ofJson (d + 1) v).at? place = some (.leaf .json text) := by
      rw [ofJson_of_depth_le (Nat.le_succ_of_le hd) hd, h]
    have hlength := (hclosed d place text h).1
    have hlength' := (hclosed (d + 1) place text hmore).1
    omega
  · exact ofJson_of_depth_le (Nat.le_trans hd he) hd
  · obtain ⟨-, w, hw, ht⟩ := exists_of_at?_ofJson h
    obtain ⟨fields, rfl, rfl⟩ := eq_object_of_opened ht
    refine ⟨?_, fields, hw, by rw [Nat.sub_add_eq]⟩
    have hascending := (Json.canonical_object_iff.1 (hv.at? hw)).1
    rw [List.map_map, List.pairwise_map]
    exact hascending.imp fun h => compare_lt_iff_lt.1 h
  · obtain ⟨-, w, hw, ht⟩ := exists_of_at?_ofJson h
    obtain ⟨values, rfl, rfl⟩ := eq_array_of_opened ht
    exact ⟨values, hw, by rw [Nat.sub_add_eq]⟩

/-- A depth of one leaves two containers closed, an empty one among them, next to a string that
looks like one. -/
theorem ofJson_loses_nothing_closed :
    let inner : Json := .array [.int 1, .object [("b", .string "\"")]]
    let v : Json := .object [("a", inner), ("c", .object []), ("d", .string "\x7b\x7d")]
    let t := ofJson 1 v
    v.Canonical ∧ v.WithoutDoubles ∧ v.depth ≤ 127 ∧ t.depth = 1 ∧
      t.at? [.field "c"] = some (.leaf .json ['\x7b', '\x7d']) ∧
      (∃ w, v.at? [.field "c"] = some w ∧ w.text = ['\x7b', '\x7d']) ∧
      t.at? [.field "a", .item 0] = none ∧ t.toJson? = some v ∧ ofJson 4 v = ofJson 3 v := by
  intro inner v t
  have hv : v.Canonical := by
    simp [v, inner, Json.Canonical, Json.FieldsCanonical, Json.ItemsCanonical, Json.int,
      Json.Number.InRange, Entries.Ascending]
    decide +kernel
  have hdoubles : v.WithoutDoubles := by
    simp [v, inner, Json.WithoutDoubles, Json.FieldsWithoutDoubles, Json.ItemsWithoutDoubles,
      Json.int]
  have hdepth : v.depth ≤ 127 := by decide +kernel
  obtain ⟨hnesting, hclosed, -, -, -, hread⟩ := ofJson_loses_nothing 1 hv
  obtain ⟨-, -, henough, -, -, -⟩ := ofJson_loses_nothing 3 hv
  obtain ⟨-, w, hw, htext, -⟩ := hclosed [.field "c"] ['\x7b', '\x7d'] rfl
  exact ⟨hv, hdoubles, hdepth, hnesting, rfl, ⟨w, hw, htext.symm⟩, rfl, hread hdoubles hdepth,
    (henough (by decide +kernel)).2 4 (by decide)⟩

end Tree

end LiveTrace
