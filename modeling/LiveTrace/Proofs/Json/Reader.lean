import LiveTrace.Json.Reader
import LiveTrace.Proofs.Json.Structure
/-!
# LiveTrace.Proofs.Json.Reader

**What the reader of JSON gives.** Items and fields are read alike, as elements with commas between
them (`Json.Series`); the fuel only has to be as much as there are elements. Every value that is
read is canonical and nested no deeper than allowed (`Json.value?_canonical`).
-/

namespace LiveTrace

namespace Json

/-! ### Series of elements -/

section Series

variable {α : Type}

/-- Elements that can be read one after the other, with commas between them, up to the character
that closes the series. -/
inductive Series (element : List Char → α → List Char → Prop) (close : Char) :
    List Char → List α → List Char → Prop
  /-- The last element is followed by the closing character. -/
  | last {cs tail rest : List Char} {a : α} (ha : element cs a tail)
    (hclose : skipSpace tail = close :: rest) : Series element close cs [a] rest
  /-- Any other element is followed by a comma. -/
  | next {cs tail next rest : List Char} {a : α} {l : List α} (ha : element cs a tail)
    (hcomma : skipSpace tail = ',' :: next) (hl : Series element close next l rest) :
    Series element close cs (a :: l) rest

theorem Series.forall {element : List Char → α → List Char → Prop} {close : Char}
    {cs rest : List Char} {l : List α} (h : Series element close cs l rest) {P : α → Prop}
    (helement : ∀ {cs a tail}, element cs a tail → P a) : ∀ a ∈ l, P a := by
  induction h with
  | last ha hclose => simpa using helement ha
  | next ha hcomma hl ih => simpa using ⟨helement ha, ih⟩

end Series

/-- What an item is: a value. -/
def IsItem (value : List Char → Option (Json × List Char)) (cs : List Char) (v : Json)
    (tail : List Char) : Prop := value cs = some (v, tail)

/-- What a field is: a quoted key, a colon and a value. -/
inductive IsField (value : List Char → Option (Json × List Char)) (cs : List Char) :
    String × Json → List Char → Prop
  | mk {quoted key afterKey afterColon tail : List Char} {v : Json}
    (hquote : skipSpace cs = '"' :: quoted) (hkey : stringTail? quoted = some (key, afterKey))
    (hcolon : skipSpace afterKey = ':' :: afterColon) (hv : value afterColon = some (v, tail)) :
    IsField value cs (String.ofList key, v) tail

variable {value : List Char → Option (Json × List Char)} {cs rest : List Char} {fuel : Nat}

theorem series_of_items? {items : List Json} (h : items? value fuel cs = some (items, rest)) :
    Series (IsItem value) ']' cs items rest := by
  induction fuel generalizing cs items with
  | zero => simp [items?] at h
  | succ fuel ih =>
    rw [items?] at h
    simp only [Option.bind_eq_bind, Option.bind_eq_some_iff, Prod.exists] at h
    obtain ⟨v, tail, hv, h⟩ := h
    split at h
    · rename_i next hcomma
      simp only [Option.bind_eq_some_iff, Option.some.injEq, Prod.mk.injEq, Prod.exists] at h
      obtain ⟨l, rest', hl, rfl, rfl⟩ := h
      exact .next hv hcomma (ih hl)
    · rename_i rest' hclose
      cases h
      exact .last hv hclose
    · contradiction

theorem items?_of_series {items : List Json} (h : Series (IsItem value) ']' cs items rest)
    (hfuel : items.length ≤ fuel) : items? value fuel cs = some (items, rest) := by
  induction h generalizing fuel with
  | last hitem hclose =>
    cases fuel with
    | zero => simp at hfuel
    | succ fuel =>
      rw [IsItem] at hitem
      simp [items?, hitem, hclose]
  | next hitem hcomma hl ih =>
    cases fuel with
    | zero => simp at hfuel
    | succ fuel =>
      have hnext : items? value fuel _ = _ := ih (by simpa using hfuel)
      rw [IsItem] at hitem
      simp [items?, hitem, hcomma, hnext]

theorem series_of_fields? {fields : List (String × Json)}
    (h : fields? value fuel cs = some (fields, rest)) :
    Series (IsField value) '\x7d' cs fields rest := by
  induction fuel generalizing cs fields with
  | zero => simp [fields?] at h
  | succ fuel ih =>
    rw [fields?] at h
    split at h
    · rename_i quoted hquote
      simp only [Option.bind_eq_bind, Option.bind_eq_some_iff, Prod.exists] at h
      obtain ⟨key, afterKey, hkey, h⟩ := h
      split at h
      · rename_i afterColon hcolon
        simp only [Option.bind_eq_some_iff, Prod.exists] at h
        obtain ⟨v, tail, hv, h⟩ := h
        have hfield := IsField.mk hquote hkey hcolon hv
        split at h
        · rename_i next hcomma
          simp only [Option.bind_eq_some_iff, Option.some.injEq, Prod.mk.injEq, Prod.exists] at h
          obtain ⟨l, rest', hl, rfl, rfl⟩ := h
          exact .next hfield hcomma (ih hl)
        · rename_i rest' hclose
          cases h
          exact .last hfield hclose
        · contradiction
      · contradiction
    · contradiction

theorem fields?_of_series {fields : List (String × Json)}
    (h : Series (IsField value) '\x7d' cs fields rest) (hfuel : fields.length ≤ fuel) :
    fields? value fuel cs = some (fields, rest) := by
  induction h generalizing fuel with
  | last hfield hclose =>
    obtain ⟨hquote, hkey, hcolon, hv⟩ := hfield
    cases fuel with
    | zero => simp at hfuel
    | succ fuel => simp [fields?, hquote, hkey, hcolon, hv, hclose]
  | next hfield hcomma hl ih =>
    obtain ⟨hquote, hkey, hcolon, hv⟩ := hfield
    cases fuel with
    | zero => simp at hfuel
    | succ fuel =>
      have hnext : fields? value fuel _ = _ := ih (by simpa using hfuel)
      simp [fields?, hquote, hkey, hcolon, hv, hcomma, hnext]

/-! ### Numbers -/

theorem keptDigits_lt {kept : Nat} (h : kept < 0x10000000000000000) (ds : List Char) :
    (keptDigits kept ds).1 < 0x10000000000000000 := by
  induction ds generalizing kept with
  | nil => exact h
  | cons d ds ih =>
    rw [keptDigits]
    split
    · rename_i hnext
      exact ih hnext
    · exact h

theorem inRange_ofParts? {negative : Bool} {whole : List Char} {fraction : Option (List Char)}
    {exponent : Option Int} {n : Number}
    (h : Number.ofParts? negative whole fraction exponent = some n) : n.InRange := by
  have hkept : (keptDigits 0 whole).1 < 0x10000000000000000 := keptDigits_lt (by decide) whole
  have hdouble {d : Option Double} (h : d.map Number.double = some n) : n.InRange := by
    obtain ⟨d, -, rfl⟩ := Option.map_eq_some_iff.1 h
    exact trivial
  unfold Number.ofParts? at h
  generalize keptDigits 0 whole = p at h hkept
  obtain ⟨kept, dropped⟩ := p
  -- only a number without fraction and exponent can be an integer
  cases fraction with
  | some digits => exact hdouble h
  | none =>
    cases exponent with
    | some e => exact hdouble h
    | none =>
      simp only at h hkept
      split at h
      · simp only [Option.some.injEq] at h
        subst h
        simp only [Number.InRange]
        omega
      · split at h
        · simp only [Option.some.injEq] at h
          subst h
          simp only [Number.InRange]
          omega
        · exact hdouble h

theorem inRange_unsigned? {negative : Bool} {n : Number}
    (h : unsigned? negative cs = some (n, rest)) : n.InRange := by
  simp only [unsigned?, Option.bind_eq_bind, Option.bind_eq_some_iff, Prod.exists] at h
  obtain ⟨_, _, -, _, _, -, _, _, -, n', hn, h⟩ := h
  cases h
  exact inRange_ofParts? hn

/-- Integers that are read are those of the wire. -/
theorem inRange_number? {n : Number} (h : number? cs = some (n, rest)) : n.InRange := by
  unfold number? at h
  split at h <;> exact inRange_unsigned? h

/-! ### Values -/

theorem canonical_ofFields {fields : List (String × Json)} (h : ∀ e ∈ fields, e.2.Canonical) :
    (ofFields fields).Canonical := by
  rw [ofFields_eq_ofList, canonical_object_iff]
  exact ⟨(Table.ofList fields).ascending, fun e he => h e (mem_ofList he)⟩

theorem depth_ofFields_le {fields : List (String × Json)} {n : Nat}
    (h : ∀ e ∈ fields, e.2.depth ≤ n) : (ofFields fields).depth ≤ n + 1 := by
  rw [ofFields_eq_ofList, depth_object_le_iff]
  exact fun e he => h e (mem_ofList he)

/-- An array that is read holds values that are read. -/
theorem exists_of_array? {v : Json} (h : array? value cs = some (v, rest)) :
    ∃ items, v = .array items ∧ ∀ w ∈ items, ∃ cs tail, value cs = some (w, tail) := by
  unfold array? at h
  split at h
  · cases h
    exact ⟨[], rfl, by simp⟩
  · obtain ⟨⟨items, rest'⟩, hitems, heq⟩ := Option.map_eq_some_iff.1 h
    cases heq
    refine ⟨items, rfl, (series_of_items? hitems).forall fun {cs w tail} hw => ⟨cs, tail, hw⟩⟩

/-- An object that is read holds values that are read. -/
theorem exists_of_object? {v : Json} (h : object? value cs = some (v, rest)) :
    ∃ fields, v = ofFields fields ∧ ∀ e ∈ fields, ∃ cs tail, value cs = some (e.2, tail) := by
  unfold object? at h
  split at h
  · cases h
    exact ⟨[], rfl, by simp⟩
  · obtain ⟨⟨fields, rest'⟩, hfields, heq⟩ := Option.map_eq_some_iff.1 h
    cases heq
    refine ⟨fields, rfl, (series_of_fields? hfields).forall fun hfield => ?_⟩
    obtain ⟨-, -, -, hv⟩ := hfield
    exact ⟨_, _, hv⟩

/-- A value that is read is no container and canonical, or else a container is left to be nested for
it. -/
theorem exists_of_value? {depth : Nat} {v : Json} (h : value? depth cs = some (v, rest)) :
    (v.Canonical ∧ v.depth = 0) ∨
      ∃ inner cs', depth = inner + 1 ∧ (array? (value? inner) cs' = some (v, rest) ∨
        object? (value? inner) cs' = some (v, rest)) := by
  fun_induction value? depth cs generalizing v rest with
  | case1 | case2 | case3 =>
    cases h
    exact .inl ⟨trivial, rfl⟩
  | case4 =>
    obtain ⟨_, -, heq⟩ := Option.map_eq_some_iff.1 h
    cases heq
    exact .inl ⟨trivial, rfl⟩
  | case5 | case7 => contradiction
  | case6 cs cs' _ inner => exact .inr ⟨inner, cs', rfl, .inl h⟩
  | case8 cs cs' _ inner => exact .inr ⟨inner, cs', rfl, .inr h⟩
  | case9 =>
    obtain ⟨_, hn, heq⟩ := Option.map_eq_some_iff.1 h
    cases heq
    exact .inl ⟨inRange_number? hn, rfl⟩

/-- **What is read is canonical**, and has no more nested containers than are allowed. -/
theorem value?_canonical {depth : Nat} {v : Json} (h : value? depth cs = some (v, rest)) :
    v.Canonical ∧ v.depth ≤ depth := by
  induction depth generalizing cs v rest with
  | zero =>
    rcases exists_of_value? h with ⟨hv, hdepth⟩ | ⟨_, _, hinner, -⟩
    · exact ⟨hv, Nat.le_of_eq hdepth⟩
    · contradiction
  | succ depth ih =>
    rcases exists_of_value? h with ⟨hv, hdepth⟩ | ⟨_, _, hinner, harray | hobject⟩
    · exact ⟨hv, hdepth ▸ Nat.zero_le _⟩
    · cases hinner
      obtain ⟨items, rfl, hitems⟩ := exists_of_array? harray
      rw [canonical_array_iff, depth_array_le_iff]
      have hparts : ∀ w ∈ items, w.Canonical ∧ w.depth ≤ depth := by
        intro w hw
        obtain ⟨_, _, hread⟩ := hitems w hw
        exact ih hread
      exact ⟨fun w hw => (hparts w hw).1, fun w hw => (hparts w hw).2⟩
    · cases hinner
      obtain ⟨fields, rfl, hfields⟩ := exists_of_object? hobject
      have hparts : ∀ e ∈ fields, e.2.Canonical ∧ e.2.depth ≤ depth := by
        intro e he
        obtain ⟨_, _, hread⟩ := hfields e he
        exact ih hread
      exact ⟨canonical_ofFields fun e he => (hparts e he).1,
        depth_ofFields_le fun e he => (hparts e he).2⟩

/-- What a whole text stands for is canonical. -/
theorem readWithin?_canonical {depth : Nat} {s : String} {v : Json}
    (h : readWithin? depth s = some v) : v.Canonical ∧ v.depth ≤ depth := by
  simp only [readWithin?, Option.bind_eq_bind, Option.bind_eq_some_iff, Prod.exists] at h
  obtain ⟨w, rest, hread, h⟩ := h
  split at h
  · cases h
    exact value?_canonical hread
  · contradiction

end Json

end LiveTrace
