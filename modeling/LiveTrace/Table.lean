/-!
# LiveTrace.Table

Tables: finite maps kept as a list of entries in ascending order of their keys. The order of a
table is what every listing of the program shows (APIs, operations, levels, trace slots), so it is
part of the type: a `Table` carries the proof that its keys ascend strictly, and two tables that
answer every look-up alike are the same table (`Table.ext_get?`).

The same operations on bare lists of entries (`Entries.lookup?`, `Entries.insert`) serve the
fields of JSON objects, which cannot carry such a proof.
-/

namespace LiveTrace

universe u v w

variable {κ : Type u} {α : Type v} {β : Type w}

/-! ## Lists of entries -/

namespace Entries

/-- The value of the first entry with key `k`. -/
def lookup? [BEq κ] (k : κ) : List (κ × α) → Option α
  | [] => none
  | (k', a) :: rest => if k == k' then some a else lookup? k rest

/-- Put an entry where its key belongs, replacing the entry of an equal key. -/
def insert [Ord κ] (k : κ) (a : α) : List (κ × α) → List (κ × α)
  | [] => [(k, a)]
  | (k', a') :: rest =>
    match compare k k' with
    | .lt => (k, a) :: (k', a') :: rest
    | .eq => (k, a) :: rest
    | .gt => (k', a') :: insert k a rest

/-- Whether the keys ascend strictly. -/
def Ascending [Ord κ] (l : List (κ × α)) : Prop :=
  l.Pairwise fun e f => compare e.1 f.1 = .lt

theorem mem_insert [Ord κ] {k : κ} {a : α} {e : κ × α} {l : List (κ × α)}
    (h : e ∈ insert k a l) : e = (k, a) ∨ e ∈ l := by
  induction l with
  | nil => simpa [insert] using h
  | cons f rest ih =>
    obtain ⟨k', a'⟩ := f
    simp only [insert] at h
    split at h <;> simp at h ⊢ <;> grind

variable [Ord κ] [Std.TransOrd κ] [Std.LawfulEqOrd κ]

theorem Ascending.insert {l : List (κ × α)} (h : Ascending l) (k : κ) (a : α) :
    Ascending (Entries.insert k a l) := by
  induction l with
  | nil => simp [Entries.insert, Ascending]
  | cons f rest ih =>
    obtain ⟨k', a'⟩ := f
    obtain ⟨hhead, htail⟩ := List.pairwise_cons.1 h
    simp only [Entries.insert]
    split
    · rename_i hlt
      refine List.pairwise_cons.2 ⟨fun e he => ?_, h⟩
      rcases List.mem_cons.1 he with rfl | he
      · exact hlt
      · exact Std.TransCmp.lt_trans hlt (hhead e he)
    · rename_i heq
      have hk : k = k' := Std.LawfulEqCmp.eq_of_compare heq
      subst hk
      exact List.pairwise_cons.2 ⟨hhead, htail⟩
    · rename_i hgt
      refine List.pairwise_cons.2 ⟨fun e he => ?_, ih htail⟩
      rcases mem_insert he with rfl | he
      · exact Std.OrientedCmp.gt_iff_lt.1 hgt
      · exact hhead e he

omit [Std.TransOrd κ] in
theorem lookup?_insert_self [BEq κ] [LawfulBEq κ] (k : κ) (a : α) (l : List (κ × α)) :
    lookup? k (Entries.insert k a l) = some a := by
  induction l with
  | nil => simp [Entries.insert, lookup?]
  | cons f rest ih =>
    obtain ⟨k', a'⟩ := f
    simp only [Entries.insert]
    split
    · simp [lookup?]
    · simp [lookup?]
    · rename_i hgt
      have hne : k ≠ k' := fun h => by subst h; simp [Std.ReflCmp.compare_self] at hgt
      simp [lookup?, hne, ih]

omit [Std.TransOrd κ] in
theorem lookup?_insert_of_ne [BEq κ] [LawfulBEq κ] {k j : κ} (hj : j ≠ k) (a : α)
    (l : List (κ × α)) : lookup? j (Entries.insert k a l) = lookup? j l := by
  induction l with
  | nil => simp [Entries.insert, lookup?, hj]
  | cons f rest ih =>
    obtain ⟨k', a'⟩ := f
    simp only [Entries.insert]
    split
    · simp [lookup?, hj]
    · rename_i heq
      have hk : k = k' := Std.LawfulEqCmp.eq_of_compare heq
      subst hk
      simp [lookup?, hj]
    · simp [lookup?, ih]

omit [Ord κ] [Std.TransOrd κ] [Std.LawfulEqOrd κ] in
theorem lookup?_append [BEq κ] (k : κ) (l m : List (κ × α)) :
    lookup? k (l ++ m) = (lookup? k l).or (lookup? k m) := by
  induction l with
  | nil => rfl
  | cons e rest ih => by_cases h : (k == e.1) = true <;> simp [lookup?, h, ih]

omit [Std.TransOrd κ] in
/-- Of several entries put in under one key the last one stays. -/
theorem lookup?_foldl_insert [BEq κ] [LawfulBEq κ] (k : κ) (l m : List (κ × α)) :
    lookup? k (l.foldl (fun m e => Entries.insert e.1 e.2 m) m) =
      (lookup? k l.reverse).or (lookup? k m) := by
  induction l generalizing m with
  | nil => rfl
  | cons e rest ih =>
    rw [List.foldl_cons, ih, List.reverse_cons, lookup?_append, Option.or_assoc]
    by_cases h : k = e.1
    · subst h
      simp [lookup?, lookup?_insert_self]
    · simp [lookup?, h, lookup?_insert_of_ne h]

end Entries

/-! ## Tables -/

/-- A finite map, its entries in ascending order of the keys. -/
structure Table (κ : Type u) (α : Type v) [Ord κ] where
  entries : List (κ × α)
  ascending : Entries.Ascending entries

namespace Table

section Basic

variable [Ord κ]

@[ext] theorem ext {s t : Table κ α} (h : s.entries = t.entries) : s = t := by
  cases s; cases t; simp_all

/-- The table without entries. -/
def empty : Table κ α := ⟨[], List.Pairwise.nil⟩

instance : Inhabited (Table κ α) := ⟨empty⟩

instance : EmptyCollection (Table κ α) := ⟨empty⟩

/-- The value stored under a key. -/
def get? [BEq κ] (t : Table κ α) (k : κ) : Option α := Entries.lookup? k t.entries

/-- Whether a key has a value. -/
def contains [BEq κ] (t : Table κ α) (k : κ) : Bool := (t.get? k).isSome

/-- The keys, ascending. -/
def keys (t : Table κ α) : List κ := t.entries.map Prod.fst

/-- The values, in order of their keys. -/
def values (t : Table κ α) : List α := t.entries.map Prod.snd

/-- Number of entries. -/
def size (t : Table κ α) : Nat := t.entries.length

/-- Whether the table has no entry. -/
def isEmpty (t : Table κ α) : Bool := t.entries.isEmpty

/-- Forget the entry of a key. -/
def erase [BEq κ] (t : Table κ α) (k : κ) : Table κ α where
  entries := t.entries.filter fun e => !(k == e.1)
  ascending := t.ascending.filter _

/-- Apply a function to every value. -/
def mapValues (f : α → β) (t : Table κ α) : Table κ β where
  entries := t.entries.map fun e => (e.1, f e.2)
  ascending := by
    unfold Entries.Ascending
    rw [List.pairwise_map]
    exact t.ascending

end Basic

section Insert

variable [Ord κ] [Std.TransOrd κ] [Std.LawfulEqOrd κ]

/-- Store a value under a key, replacing the one stored before. -/
def insert (t : Table κ α) (k : κ) (a : α) : Table κ α where
  entries := Entries.insert k a t.entries
  ascending := t.ascending.insert k a

/-- Store every entry of a list; of two with one key the later stays. -/
def ofList (l : List (κ × α)) : Table κ α := l.foldl (fun t e => t.insert e.1 e.2) empty

end Insert

/-! ## Look-ups -/

section Lookup

variable [BEq κ] [LawfulBEq κ]

theorem lookup?_map_values (f : α → β) (k : κ) (l : List (κ × α)) :
    Entries.lookup? k (l.map fun e => (e.1, f e.2)) = (Entries.lookup? k l).map f := by
  induction l with
  | nil => rfl
  | cons e rest ih =>
    by_cases h : k = e.1 <;> simp [Entries.lookup?, h, ih]

theorem lookup?_filter (kept : κ → Bool) (k : κ) (l : List (κ × α)) :
    Entries.lookup? k (l.filter fun e => kept e.1) =
      if kept k then Entries.lookup? k l else none := by
  induction l with
  | nil => simp [Entries.lookup?]
  | cons e rest ih =>
    by_cases hk : k = e.1
    · subst hk
      cases h : kept e.1 <;> simp [Entries.lookup?, h, ih]
    · cases h : kept e.1 <;> simp [Entries.lookup?, h, ih, hk]

theorem isSome_lookup? (k : κ) (l : List (κ × α)) :
    (Entries.lookup? k l).isSome = true ↔ k ∈ l.map Prod.fst := by
  induction l with
  | nil => simp [Entries.lookup?]
  | cons e rest ih => by_cases h : k = e.1 <;> simp [Entries.lookup?, h, ← ih]

variable [Ord κ]

theorem contains_iff_mem_keys (t : Table κ α) (k : κ) : t.contains k = true ↔ k ∈ t.keys :=
  isSome_lookup? k t.entries

omit [LawfulBEq κ] in
@[simp] theorem get?_empty (k : κ) : (empty : Table κ α).get? k = none := rfl

@[simp] theorem get?_mapValues (f : α → β) (t : Table κ α) (k : κ) :
    (t.mapValues f).get? k = (t.get? k).map f :=
  lookup?_map_values f k t.entries

theorem get?_erase (t : Table κ α) (k j : κ) :
    (t.erase k).get? j = if j == k then none else t.get? j := by
  have hfilter := lookup?_filter (fun i => !(k == i)) j t.entries
  rw [get?, erase, hfilter]
  by_cases h : j = k
  · simp [h]
  · simp [h, Ne.symm h, get?]

theorem contains_erase (t : Table κ α) (k j : κ) :
    (t.erase k).contains j = (!(j == k) && t.contains j) := by
  rw [contains, contains, get?_erase]
  by_cases h : (j == k) = true <;> simp [h]

variable [Std.TransOrd κ] [Std.LawfulEqOrd κ]

@[simp] theorem get?_insert_self (t : Table κ α) (k : κ) (a : α) :
    (t.insert k a).get? k = some a :=
  Entries.lookup?_insert_self k a t.entries

theorem get?_insert (t : Table κ α) (k j : κ) (a : α) :
    (t.insert k a).get? j = if j == k then some a else t.get? j := by
  by_cases h : j = k
  · subst h; simp
  · simp [h, insert, get?, Entries.lookup?_insert_of_ne h a]

theorem contains_insert (t : Table κ α) (k j : κ) (a : α) :
    (t.insert k a).contains j = (j == k || t.contains j) := by
  rw [contains, contains, get?_insert]
  by_cases h : (j == k) = true <;> simp [h]

omit [BEq κ] [LawfulBEq κ] in
theorem entries_foldl_insert (t : Table κ α) (l : List (κ × α)) :
    (l.foldl (fun t e => t.insert e.1 e.2) t).entries =
      l.foldl (fun m e => Entries.insert e.1 e.2 m) t.entries := by
  induction l generalizing t with
  | nil => rfl
  | cons e rest ih => exact ih (t.insert e.1 e.2)

theorem get?_foldl_insert (t : Table κ α) (l : List (κ × α)) (k : κ) :
    (l.foldl (fun t e => t.insert e.1 e.2) t).get? k =
      (Entries.lookup? k l.reverse).or (t.get? k) := by
  rw [get?, entries_foldl_insert]
  exact Entries.lookup?_foldl_insert k l t.entries

end Lookup

/-! ## Extensionality -/

section Extensionality

variable [Ord κ] [BEq κ] [LawfulBEq κ] [Std.TransOrd κ] [Std.LawfulEqOrd κ]

/-- A key below the first of an ascending list has no value. -/
theorem lookup?_eq_none_of_lt {k : κ} {l : List (κ × α)} (hl : Entries.Ascending l)
    (h : ∀ e ∈ l.head?, compare k e.1 = .lt) : Entries.lookup? k l = none := by
  induction l with
  | nil => rfl
  | cons e rest ih =>
    obtain ⟨hhead, htail⟩ := List.pairwise_cons.1 hl
    have hlt : compare k e.1 = .lt := h e rfl
    have hne : k ≠ e.1 := fun hk => by subst hk; simp [Std.ReflCmp.compare_self] at hlt
    have hrest : Entries.lookup? k rest = none :=
      ih htail fun f hf => Std.TransCmp.lt_trans hlt (hhead f (List.mem_of_mem_head? hf))
    simp [Entries.lookup?, hne, hrest]

/-- Where the keys ascend, look-ups do not depend on the order of the entries. -/
theorem lookup?_reverse {l : List (κ × α)} (hl : Entries.Ascending l) (k : κ) :
    Entries.lookup? k l.reverse = Entries.lookup? k l := by
  induction l with
  | nil => rfl
  | cons e rest ih =>
    obtain ⟨hhead, htail⟩ := List.pairwise_cons.1 hl
    rw [List.reverse_cons, Entries.lookup?_append, ih htail]
    by_cases hk : k = e.1
    · have hrest : Entries.lookup? k rest = none :=
        lookup?_eq_none_of_lt htail fun f hf => hk ▸ hhead f (List.mem_of_mem_head? hf)
      simp [Entries.lookup?, hk, hk ▸ hrest]
    · simp [Entries.lookup?, hk]

/-- In an ascending list the entries are what look-ups find. -/
theorem lookup?_eq_some_iff {k : κ} {a : α} {l : List (κ × α)} (hl : Entries.Ascending l) :
    Entries.lookup? k l = some a ↔ (k, a) ∈ l := by
  induction l with
  | nil => simp [Entries.lookup?]
  | cons e rest ih =>
    obtain ⟨hhead, htail⟩ := List.pairwise_cons.1 hl
    by_cases hk : k = e.1
    · subst hk
      have hrest : (e.1, a) ∉ rest := fun hmem => by
        simpa [Std.ReflCmp.compare_self] using hhead (e.1, a) hmem
      simp [Entries.lookup?, hrest, Prod.ext_iff, eq_comm]
    · simp [Entries.lookup?, hk, ih htail, Prod.ext_iff]

theorem get?_eq_some_iff {t : Table κ α} {k : κ} {a : α} :
    t.get? k = some a ↔ (k, a) ∈ t.entries := lookup?_eq_some_iff t.ascending

theorem entries_ext {l m : List (κ × α)} (hl : Entries.Ascending l) (hm : Entries.Ascending m)
    (h : ∀ k, Entries.lookup? k l = Entries.lookup? k m) : l = m := by
  induction l generalizing m with
  | nil =>
    cases m with
    | nil => rfl
    | cons f m => have := h f.1; simp [Entries.lookup?] at this
  | cons e l ih =>
    cases m with
    | nil => have := h e.1; simp [Entries.lookup?] at this
    | cons f m =>
      obtain ⟨hle, hl'⟩ := List.pairwise_cons.1 hl
      obtain ⟨hmf, hm'⟩ := List.pairwise_cons.1 hm
      have hef : compare e.1 f.1 = .eq := by
        cases hc : compare e.1 f.1 with
        | eq => rfl
        | lt =>
          have h1 := h e.1
          rw [lookup?_eq_none_of_lt hm (by simpa using hc)] at h1
          simp [Entries.lookup?] at h1
        | gt =>
          have h1 := h f.1
          rw [lookup?_eq_none_of_lt hl (by simpa using Std.OrientedCmp.gt_iff_lt.1 hc)] at h1
          simp [Entries.lookup?] at h1
      have hk : e.1 = f.1 := Std.LawfulEqCmp.eq_of_compare hef
      have hv : e.2 = f.2 := by
        have h1 := h e.1
        simpa [Entries.lookup?, hk] using h1
      have hrest : l = m := by
        refine ih hl' hm' fun k => ?_
        by_cases hke : k = e.1
        · subst hke
          rw [lookup?_eq_none_of_lt hl' fun g hg => hle g (List.mem_of_mem_head? hg),
            lookup?_eq_none_of_lt hm' fun g hg => hk ▸ hmf g (List.mem_of_mem_head? hg)]
        · have h1 := h k
          simpa [Entries.lookup?, hke, hk ▸ hke] using h1
      rw [Prod.ext hk hv, hrest]

/-- Two tables that answer every look-up alike are the same table. -/
theorem ext_get? {s t : Table κ α} (h : ∀ k, s.get? k = t.get? k) : s = t :=
  ext (entries_ext s.ascending t.ascending h)

/-- A key that is left out does not tell what was stored under it. -/
theorem erase_insert_self (t : Table κ α) (k : κ) (a : α) : (t.insert k a).erase k = t.erase k := by
  refine ext_get? fun j => ?_
  rw [get?_erase, get?_erase, get?_insert]
  by_cases hj : (j == k) = true
  · rw [if_pos hj, if_pos hj]
  · rw [if_neg hj, if_neg hj, if_neg hj]

end Extensionality

end Table

end LiveTrace
