import LiveTrace.Table
import Mathlib.Data.List.Nodup
/-!
# LiveTrace.Proofs.Entries

Lists of entries whose keys are in no order: what look-ups find where keys differ, and where entries
are removed or are put in one after the other.
-/

namespace LiveTrace.Entries

universe u v w

variable {κ : Type u} {α : Type v}

/-! ### Look-ups -/

section Lookup

variable [BEq κ] [LawfulBEq κ]

/-- Where keys differ, the entries are what look-ups find. -/
theorem lookup?_eq_some_iff {k : κ} {a : α} {l : List (κ × α)} (hl : (l.map Prod.fst).Nodup) :
    lookup? k l = some a ↔ (k, a) ∈ l := by
  induction l with
  | nil => simp [lookup?]
  | cons e rest ih =>
    rw [List.map_cons, List.nodup_cons] at hl
    by_cases hk : k = e.1
    · subst hk
      have hrest : (e.1, a) ∉ rest := fun hmem => hl.1 (List.mem_map.2 ⟨_, hmem, rfl⟩)
      simp [lookup?, hrest, Prod.ext_iff, eq_comm]
    · simp [lookup?, hk, ih hl.2, Prod.ext_iff]

/-- Where keys differ, the entry that a look-up finds is the only one that a filter on its key
takes out. -/
theorem perm_cons_filter {k : κ} {a : α} {l : List (κ × α)}
    (hl : (l.map Prod.fst).Nodup) (h : lookup? k l = some a) :
    l.Perm ((k, a) :: l.filter fun e => e.1 != k) := by
  induction l with
  | nil => simp [lookup?] at h
  | cons e rest ih =>
    obtain ⟨k', a'⟩ := e
    rw [List.map_cons, List.nodup_cons] at hl
    by_cases hk : k = k'
    · subst hk
      have ha : a' = a := by simpa [lookup?] using h
      have hrest : (rest.filter fun e => e.1 != k) = rest := by
        rw [List.filter_eq_self]
        intro f hf
        have hne : f.1 ≠ k := fun hfk => hl.1 (List.mem_map.2 ⟨f, hf, hfk⟩)
        simpa using hne
      rw [ha, List.filter_cons_of_neg (by simp), hrest]
    · have hrest : lookup? k rest = some a := by simpa [lookup?, hk] using h
      have hne : (k' != k) = true := by simpa using Ne.symm hk
      rw [List.filter_cons, if_pos hne]
      exact ((ih hl.2 hrest).cons _).trans (List.Perm.swap ..)

end Lookup

/-! ### Entries that are put in -/

section Insert

variable [Ord κ] {ι : Type w}

/-- Keys that ascend strictly differ. -/
theorem Ascending.nodup_keys [Std.LawfulEqOrd κ] {l : List (κ × α)} (h : Ascending l) :
    (l.map Prod.fst).Nodup := by
  refine List.pairwise_map.2 (h.imp fun {e f} hlt heq => ?_)
  have hself : compare f.1 f.1 = .eq := Std.ReflCmp.compare_self
  rw [heq, hself] at hlt
  contradiction

/-- Of two values that are put in under one key the later stays. -/
theorem insert_insert_self [Std.TransOrd κ] (k : κ) (a b : α) (l : List (κ × α)) :
    insert k a (insert k b l) = insert k a l := by
  induction l with
  | nil => simp [insert, Std.ReflCmp.compare_self]
  | cons e rest ih =>
    obtain ⟨k', a'⟩ := e
    cases h : compare k k' with
    | lt => simp [insert, h, Std.ReflCmp.compare_self]
    | eq => simp [insert, h, Std.ReflCmp.compare_self]
    | gt => simp [insert, h, ih]

theorem mem_foldl_insert (key : ι → κ) (value : ι → α) {l : List ι} {m : List (κ × α)}
    {e : κ × α} (h : e ∈ l.foldl (fun m i => insert (key i) (value i) m) m) :
    (∃ i ∈ l, e = (key i, value i)) ∨ e ∈ m := by
  induction l generalizing m with
  | nil => exact .inr h
  | cons i l ih =>
    rcases ih h with ⟨j, hj, he⟩ | h
    · exact .inl ⟨j, List.mem_cons_of_mem i hj, he⟩
    · exact (mem_insert h).imp_left fun he => ⟨i, List.mem_cons_self, he⟩

/-- Where keys differ, look-ups find what was put in, in whatever order. -/
theorem lookup?_foldl_insert_of_nodup [BEq κ] [LawfulBEq κ] [Std.LawfulEqOrd κ] (key : ι → κ)
    (value : ι → α) {l : List ι} (hkeys : (l.map key).Nodup) (m : List (κ × α)) (k : κ) :
    lookup? k (l.foldl (fun m i => insert (key i) (value i) m) m) =
      (lookup? k (l.map fun i => (key i, value i))).or (lookup? k m) := by
  induction l generalizing m with
  | nil => rfl
  | cons i l ih =>
    obtain ⟨hi, hl⟩ := List.nodup_cons.1 hkeys
    rw [List.foldl_cons, ih hl, List.map_cons, lookup?]
    by_cases hk : k = key i
    · have hmem := Table.isSome_lookup? k (l.map fun i => (key i, value i))
      rw [List.map_map] at hmem
      have habsent : k ∉ l.map key := hk ▸ hi
      have hnone : lookup? k (l.map fun i => (key i, value i)) = none :=
        Option.not_isSome_iff_eq_none.1 fun hsome => habsent (hmem.1 hsome)
      subst hk
      rw [hnone, Option.none_or, lookup?_insert_self, if_pos (beq_self_eq_true _), Option.some_or]
    · rw [lookup?_insert_of_ne hk, if_neg (by simpa using hk)]

end Insert

end LiveTrace.Entries
