import Mathlib.Data.List.Nodup
import LiveTrace.Proofs.Registry.Discovery
/-!
# LiveTrace.Proofs.Registry.Report

**A merge reports exactly what it changes.** The report of a merge names the APIs and the operations
that are known afterwards and were not before, each of them once, and whatever was known before is
known as it was (`Registry.report_is_difference`). So a report is empty if and only if nothing
changed.

What a step adds is packaged with what it leaves alone: `Api.Gains` for the paths of one document,
`Registry.Gains` for the entries of a catalog. Both hold of a step that adds nothing and of two
steps in a row, the reports being appended. Two paths to one operation, or an entry for a known API,
are therefore no special cases: the second step starts from what the first one left.
-/

namespace LiveTrace

/-! ### What paths add to an API -/

namespace Api

/-- An API gains operations of the given names. Nothing else of it changes. -/
structure Gains (before : Api) (added : List String) (after : Api) : Prop where
  name : after.name = before.name
  description : after.description = before.description
  /-- An operation that was known stays as it is. -/
  kept : ∀ o op, before.operations.get? o = some op → after.operations.get? o = some op
  /-- The names are those of the new operations. -/
  mem_added_iff : ∀ o, o ∈ added ↔
    before.operations.get? o = none ∧ (after.operations.get? o).isSome = true
  nodup : added.Nodup

namespace Gains

variable {a b c : Api} {l m : List String}

theorem refl (a : Api) : Gains a [] a where
  name := rfl
  description := rfl
  kept := fun _ _ h => h
  mem_added_iff := by
    intro o
    cases a.operations.get? o <;> simp
  nodup := List.nodup_nil

/-- What is not known afterwards was not known before. -/
theorem get?_eq_none (h : Gains a l b) {o : String} (hb : b.operations.get? o = none) :
    a.operations.get? o = none := by
  rw [Option.eq_none_iff_forall_ne_some]
  intro op ha
  rw [h.kept o op ha] at hb
  contradiction

/-- What is added by two steps in a row. -/
theorem trans (h : Gains a l b) (h' : Gains b m c) : Gains a (l ++ m) c where
  name := h'.name.trans h.name
  description := h'.description.trans h.description
  kept := fun o op hop => h'.kept o op (h.kept o op hop)
  mem_added_iff := by
    intro o
    rw [List.mem_append, h.mem_added_iff, h'.mem_added_iff]
    cases hb : b.operations.get? o with
    | none => simp [h.get?_eq_none hb]
    | some op => simp [h'.kept o op hb]
  nodup := by
    refine List.nodup_append.2 ⟨h.nodup, h'.nodup, ?_⟩
    intro o ho o' ho' heq
    subst heq
    have hknown := ((h.mem_added_iff o).1 ho).2
    rw [((h'.mem_added_iff o).1 ho').1] at hknown
    contradiction

/-- An API without a new operation is as it was. -/
theorem eq_of_none (h : Gains a l b)
    (hnone : ∀ o, a.operations.get? o = none → b.operations.get? o = none) : b = a := by
  have hoperations : b.operations = a.operations := by
    refine Table.ext_get? fun o => ?_
    cases ha : a.operations.get? o with
    | none => exact hnone o ha
    | some op => exact h.kept o op ha
  obtain ⟨name, description, operations⟩ := b
  obtain ⟨rfl, rfl⟩ : name = a.name ∧ description = a.description := ⟨h.name, h.description⟩
  rw [show operations = a.operations from hoperations]

end Gains

theorem gains_addPath (api : Api) (path : String) (document : OperationDocument) :
    api.Gains (api.addPath path document).1 (api.addPath path document).2 := by
  unfold addPath
  by_cases hknown : api.operations.contains (operationName path) = true
  · simpa only [hknown, if_true] using .refl api
  · have hnone : api.operations.get? (operationName path) = none := by
      simpa [Table.contains] using hknown
    simp only [hknown]
    refine ⟨rfl, rfl, ?_, ?_, List.nodup_singleton _⟩
    · intro o op hop
      have hne : o ≠ operationName path := by
        rintro rfl
        rw [hnone] at hop
        contradiction
      simpa [Table.get?_insert, hne] using hop
    · intro o
      by_cases ho : o = operationName path
      · simp [ho, hnone]
      · cases hop : api.operations.get? o <;> simp [Table.get?_insert, ho, hop]

/-- **Adding paths reports the operations that are new**, each of them once. -/
theorem gains_addPaths (api : Api) (paths : List (String × OperationDocument)) :
    api.Gains (api.addPaths paths).1 (api.addPaths paths).2 := by
  induction paths generalizing api with
  | nil => exact .refl api
  | cons e rest ih =>
    rw [addPaths_cons]
    exact (api.gains_addPath e.1 e.2).trans (ih _)

end Api

/-! ### What entries add to a registry -/

namespace Registry

/-- A registry gains the APIs and the operations that a report names. Nothing else of it changes. -/
structure Gains (before : Registry) (report : MergeReport) (after : Registry) : Prop where
  /-- The names are those of the new APIs. -/
  mem_apis_iff : ∀ a, a ∈ report.apis ↔ before.api? a = none ∧ (after.api? a).isSome = true
  /-- The pairs are those of the new operations, be their APIs new or known. -/
  mem_operations_iff : ∀ a o, (a, o) ∈ report.operations ↔
    before.operation? a o = none ∧ (after.operation? a o).isSome = true
  nodup : report.operations.Nodup
  /-- An API that was known only gains operations. -/
  kept : ∀ a api, before.api? a = some api →
    ∃ added api', after.api? a = some api' ∧ api.Gains added api'

namespace Gains

variable {r s t : Registry} {first second : MergeReport}

theorem refl (r : Registry) : Gains r ⟨[], []⟩ r where
  mem_apis_iff := by
    intro a
    cases r.api? a <;> simp
  mem_operations_iff := by
    intro a o
    cases r.operation? a o <;> simp
  nodup := List.nodup_nil
  kept := fun _ api h => ⟨[], api, h, .refl api⟩

/-- What is not known afterwards was not known before. -/
theorem api?_eq_none (h : Gains r first s) {a : String} (hs : s.api? a = none) :
    r.api? a = none := by
  rw [Option.eq_none_iff_forall_ne_some]
  intro api hr
  obtain ⟨_, _, hs', -⟩ := h.kept a api hr
  rw [hs] at hs'
  contradiction

/-- An operation that was known stays as it is. -/
theorem operation?_eq_some (h : Gains r first s) {a o : String} {op : Operation}
    (hr : r.operation? a o = some op) : s.operation? a o = some op := by
  obtain ⟨api, hapi, hop⟩ := Option.bind_eq_some_iff.1 hr
  obtain ⟨_, api', hapi', hgains⟩ := h.kept a api hapi
  exact Option.bind_eq_some_iff.2 ⟨api', hapi', hgains.kept o op hop⟩

theorem operation?_eq_none (h : Gains r first s) {a o : String} (hs : s.operation? a o = none) :
    r.operation? a o = none := by
  rw [Option.eq_none_iff_forall_ne_some]
  intro op hr
  rw [h.operation?_eq_some hr] at hs
  contradiction

/-- What is added by two steps in a row. -/
theorem trans (h : Gains r first s) (h' : Gains s second t) :
    Gains r ⟨first.apis ++ second.apis, first.operations ++ second.operations⟩ t where
  mem_apis_iff := by
    intro a
    rw [List.mem_append, h.mem_apis_iff, h'.mem_apis_iff]
    cases hs : s.api? a with
    | none => simp [h.api?_eq_none hs]
    | some api =>
      obtain ⟨_, api', ht, -⟩ := h'.kept a api hs
      simp [ht]
  mem_operations_iff := by
    intro a o
    rw [List.mem_append, h.mem_operations_iff, h'.mem_operations_iff]
    cases hs : s.operation? a o with
    | none => simp [h.operation?_eq_none hs]
    | some op => simp [h'.operation?_eq_some hs]
  nodup := by
    refine List.nodup_append.2 ⟨h.nodup, h'.nodup, ?_⟩
    rintro ⟨a, o⟩ hfirst _ hsecond rfl
    have hknown := ((h.mem_operations_iff a o).1 hfirst).2
    rw [((h'.mem_operations_iff a o).1 hsecond).1] at hknown
    contradiction
  kept := by
    intro a api hr
    obtain ⟨_, api', hs, hgains⟩ := h.kept a api hr
    obtain ⟨_, api'', ht, hgains'⟩ := h'.kept a api' hs
    exact ⟨_, api'', ht, hgains.trans hgains'⟩

/-- An API of which no new operation is reported is as it was. -/
theorem api?_eq_of_not_mem (h : Gains r first s) {a : String} {api : Api}
    (hr : r.api? a = some api) (hnone : ∀ o, (a, o) ∉ first.operations) : s.api? a = some api := by
  obtain ⟨added, api', hs, hgains⟩ := h.kept a api hr
  have heq : api' = api := by
    refine hgains.eq_of_none fun o ho => ?_
    by_contra hnew
    refine hnone o ((h.mem_operations_iff a o).2 ⟨?_, ?_⟩)
    · rw [operation?, hr, Option.bind_some, ho]
    · rw [operation?, hs, Option.bind_some]
      exact Option.isSome_iff_ne_none.2 hnew
  rw [hs, heq]

/-- **Nothing is reported if and only if nothing changed.** -/
theorem isEmpty_iff (h : Gains r first s) : first.isEmpty = true ↔ s = r := by
  rw [MergeReport.isEmpty, Bool.and_eq_true, List.isEmpty_iff, List.isEmpty_iff]
  constructor
  · rintro ⟨hapis, hoperations⟩
    have hsame : s.apis = r.apis := by
      refine Table.ext_get? fun a => ?_
      show s.api? a = r.api? a
      cases hr : r.api? a with
      | none =>
        have hnot := (h.mem_apis_iff a).not.1 (by simp [hapis])
        simpa [hr] using hnot
      | some api => exact h.api?_eq_of_not_mem hr (by simp [hoperations])
    exact congrArg Registry.mk hsame
  · rintro rfl
    constructor
    · rw [List.eq_nil_iff_forall_not_mem]
      intro a ha
      obtain ⟨hnone, hsome⟩ := (h.mem_apis_iff a).1 ha
      simp [hnone] at hsome
    · rw [List.eq_nil_iff_forall_not_mem]
      rintro ⟨a, o⟩ ho
      obtain ⟨hnone, hsome⟩ := (h.mem_operations_iff a o).1 ho
      simp [hnone] at hsome

end Gains

/-- The operations known of an API are those that its next document is added to. -/
theorem operation?_eq_get?_getD (r : Registry) (name o : String) (document : ApiDocument) :
    r.operation? name o = ((r.api? name).getD (.new name document)).operations.get? o := by
  unfold operation?
  cases r.api? name <;> rfl

theorem gains_addApi (r : Registry) (name : String) (document : ApiDocument) :
    r.Gains (r.addApi name document).1 (r.addApi name document).2 := by
  have hgains := ((r.api? name).getD (.new name document)).gains_addPaths document.paths
  have hafter (a : String) := r.api?_addApi name document a
  -- only the API of the entry is touched, so each part is asked of it and of the others
  refine ⟨fun a => ?_, fun a o => ?_, ?_, fun a api hr => ?_⟩
  · by_cases ha : a = name
    · subst ha
      rw [hafter, if_pos rfl]
      cases hr : r.api? a <;> simp [addApi, Api.learn, hr]
    · rw [hafter, if_neg ha]
      cases hr : r.api? name <;> cases r.api? a <;> simp [addApi, hr, ha]
  · by_cases ha : a = name
    · subst ha
      have hadded := hgains.mem_added_iff o
      rw [← r.operation?_eq_get?_getD] at hadded
      rw [operation?, operation?, hafter, if_pos rfl]
      simpa [addApi, Api.learn, operation?] using hadded
    · rw [operation?, operation?, hafter, if_neg ha]
      cases (r.api? a).bind fun api => api.operations.get? o <;> simp [addApi, Ne.symm ha]
  · exact hgains.nodup.map (Prod.mk_right_injective name)
  · by_cases ha : a = name
    · subst ha
      rw [hr] at hgains
      exact ⟨_, _, by rw [hafter, if_pos rfl, hr]; rfl, hgains⟩
    · exact ⟨[], api, by rw [hafter, if_neg ha, hr], .refl api⟩

/-- **Merging a catalog reports what is new**, whatever was known before. -/
theorem gains_merge (r : Registry) (monitorApi : String) (catalog : Catalog) :
    r.Gains (r.merge monitorApi catalog).1 (r.merge monitorApi catalog).2 := by
  induction catalog generalizing r with
  | nil => exact .refl r
  | cons e rest ih =>
    by_cases he : e.1 = monitorApi
    · rw [merge_cons_of_eq r he]
      exact ih r
    · rw [merge_cons_of_ne r he]
      exact (r.gains_addApi e.1 e.2).trans (ih _)

/-- New APIs are reported in the order of the catalog. -/
theorem sublist_apis_merge (r : Registry) (monitorApi : String) (catalog : Catalog) :
    (r.merge monitorApi catalog).1.apis.Sublist (catalog.map Prod.fst) := by
  induction catalog generalizing r with
  | nil => exact .slnil
  | cons e rest ih =>
    by_cases he : e.1 = monitorApi
    · rw [merge_cons_of_eq r he]
      exact (ih r).cons e.1
    · rw [merge_cons_of_ne r he, List.map_cons]
      have hfirst : (r.addApi e.1 e.2).1.apis.Sublist [e.1] := by
        cases hr : r.api? e.1 <;> simp [addApi, hr]
      exact hfirst.append (ih _)

/-- **A merge reports exactly what it changes.** Merge a catalog, its names in ascending order, into
any registry. Then

* the report names, in ascending order, the APIs that are known afterwards and were not before;
* it pairs with their APIs, each of them once, the operations that are known afterwards and were not
  before;
* an API that was known has its name, its description and every operation as before, and it is as it
  was if the report has no operation of it;
* the report is empty if and only if the registry is as it was. -/
theorem report_is_difference (r : Registry) (monitorApi : String) {catalog : Catalog}
    (hsorted : Entries.Ascending catalog) :
    let report := (r.merge monitorApi catalog).1
    let after := (r.merge monitorApi catalog).2
    report.apis.Pairwise (· < ·) ∧
      (∀ a, a ∈ report.apis ↔ r.api? a = none ∧ (after.api? a).isSome = true) ∧
      report.operations.Nodup ∧
      (∀ a o, (a, o) ∈ report.operations ↔
        r.operation? a o = none ∧ (after.operation? a o).isSome = true) ∧
      (∀ a api, r.api? a = some api → ∃ api', after.api? a = some api' ∧
        api'.name = api.name ∧ api'.description = api.description ∧
        (∀ o op, api.operations.get? o = some op → api'.operations.get? o = some op) ∧
        ((∀ o, (a, o) ∉ report.operations) → api' = api)) ∧
      (report.isEmpty = true ↔ after = r) := by
  intro report after
  have hgains : r.Gains report after := r.gains_merge monitorApi catalog
  refine ⟨?_, hgains.mem_apis_iff, hgains.nodup, hgains.mem_operations_iff, fun a api hr => ?_,
    hgains.isEmpty_iff⟩
  · have hnames : (catalog.map Prod.fst).Pairwise (· < ·) := by
      rw [List.pairwise_map]
      exact hsorted.imp fun h => compare_lt_iff_lt.1 h
    exact hnames.sublist (r.sublist_apis_merge monitorApi catalog)
  · obtain ⟨added, api', hafter, hapi⟩ := hgains.kept a api hr
    refine ⟨api', hafter, hapi.name, hapi.description, hapi.kept, fun hnone => ?_⟩
    rw [hgains.api?_eq_of_not_mem hr hnone] at hafter
    exact (Option.some.inj hafter).symm

/-- A known API gets an operation by two paths, one known already, beside a new API. -/
theorem report_is_difference_colliding :
    let path : OperationDocument := ⟨some "adds", none⟩
    let known : Catalog := [("calc", ⟨none, [("/add", path)]⟩)]
    let catalog : Catalog := [("calc", ⟨none, [("/add", path), ("/sub", path), ("sub", path)]⟩),
      ("math", ⟨none, []⟩), ("monitor", ⟨none, [("/get", path)]⟩)]
    let merged := (empty.merge "monitor" known).2.merge "monitor" catalog
    Entries.Ascending catalog ∧ "math" ∈ merged.1.apis ∧ "calc" ∉ merged.1.apis ∧
      merged.1.operations = [("calc", "sub")] ∧ merged.1.operations.Nodup ∧
      ¬ merged.2 = (empty.merge "monitor" known).2 := by
  intro path known catalog merged
  have hsorted : Entries.Ascending catalog := by
    unfold Entries.Ascending
    decide +kernel
  obtain ⟨-, hapis, hnodup, -, -, hempty⟩ :=
    report_is_difference (empty.merge "monitor" known).2 "monitor" hsorted
  have hoperations : merged.1.operations = [("calc", "sub")] := by decide +kernel
  refine ⟨hsorted, (hapis "math").2 (by decide +kernel), fun hcalc => ?_, hoperations, hnodup,
    fun hsame => ?_⟩
  · have hnone := ((hapis "calc").1 hcalc).1
    revert hnone
    decide +kernel
  · have hnothing : merged.1.isEmpty = true := hempty.2 hsame
    rw [MergeReport.isEmpty, hoperations] at hnothing
    simp at hnothing

end Registry

end LiveTrace
