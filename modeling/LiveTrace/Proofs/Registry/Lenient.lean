import LiveTrace.Proofs.Json.Record
import LiveTrace.Proofs.Json.Structure
import LiveTrace.Proofs.Registry.Discovery
import LiveTrace.Verbosity.State
/-!
# LiveTrace.Proofs.Registry.Lenient

**A malformed part hides no other part.** The document that a daemon sends about itself is
free-form below its two parts. An object is always accepted (`Snapshot.ofJson_object`): none of the
records in it has a field that is required or checked (`FieldRule.IsFree`), so a part of another
form reads as absent and the parts next to it are read as they are.

What a registry learns of an API from a document is told by the value that the document has for
this API (`Registry.api?_merge_ofFields`). This gives both which APIs and operations become known
and that nothing else in the document matters to them (`Snapshot.malformed_hides_nothing`).
-/

namespace LiveTrace

/-! ### Records whose form is not insisted upon -/

/-- A field may be left out, and may have any value. -/
def FieldRule.IsFree (r : FieldRule) : Prop := r.required = false ∧ ∀ v, r.check v = .ok ()

theorem FieldRule.isFree_any (name : String) : (any name).IsFree := ⟨rfl, fun _ => rfl⟩

/-- **An object has the form of every record with free fields only.** -/
theorem Record.fields?_of_free {rules : List FieldRule} (h : ∀ r ∈ rules, r.IsFree)
    (record : String) (fields : List (String × Json)) :
    fields? record rules (.object fields) = .ok fields :=
  fields?_object (fun r hr => (h r hr).1)
    (fun e _ r hfind => (h r (List.mem_of_find?_eq_some hfind)).2 e.2) record

theorem freeFields_object (names : List String) (fields : List (String × Json)) :
    freeFields names (.object fields) = fields := by
  have hfree : ∀ r ∈ names.map FieldRule.any, r.IsFree := by
    intro r hr
    obtain ⟨name, -, rfl⟩ := List.mem_map.1 hr
    exact FieldRule.isFree_any name
  rw [freeFields, Record.fields?_of_free hfree]

/-- The paths of a description are the keys of its part of that name. -/
theorem ApiDocument.paths_ofJson {fields paths : List (String × Json)}
    (h : Entries.lookup? "paths" fields = some (.object paths)) :
    (ofJson (.object fields)).paths =
      paths.map fun e => (e.1, OperationDocument.ofJson e.2) := by
  rw [ofJson, freeField?, freeField?, freeFields_object, h]
  rfl

namespace Snapshot

/-- **Every object is a document.** -/
theorem ofJson_object (fields : List (String × Json)) :
    ofJson (.object fields) = .ok (ofFields fields) := by
  have hfree : ∀ r ∈ rules, r.IsFree := by
    intro r hr
    rcases List.mem_pair.1 hr with rfl | rfl <;> exact FieldRule.isFree_any _
  rw [ofJson, Record.fields?_of_free hfree]
  rfl

/-- The value that a document has for an API. -/
def apiValue? (fields : List (String × Json)) (a : String) : Option Json :=
  (part? fields "apis").bind (Entries.lookup? a)

theorem apis_ofFields (fields : List (String × Json)) :
    (ofFields fields).apis.getD [] =
      ((part? fields "apis").getD []).map fun e => (e.1, ApiDocument.ofJson e.2) := by
  cases h : part? fields "apis" <;> simp [ofFields, h]

/-- The parts of an object that is sorted throughout are sorted. -/
theorem ascending_part? {fields : List (String × Json)} (h : (Json.object fields).Canonical)
    (name : String) : Entries.Ascending ((part? fields name).getD []) := by
  unfold part?
  split
  · rename_i entries hlookup
    exact (Json.canonical_object_iff.1 (h.of_lookup? hlookup)).1
  · exact List.Pairwise.nil

end Snapshot

/-! ### What a document tells of an API -/

/-- A sorted catalog has at most the document that is looked up. -/
theorem Catalog.documents_eq_lookup? {catalog : Catalog} (h : Entries.Ascending catalog)
    (a : String) : documents a catalog = (Entries.lookup? a catalog).toList := by
  cases hlookup : Entries.lookup? a catalog with
  | some document => exact documents_eq_of_mem h ((Table.lookup?_eq_some_iff h).1 hlookup)
  | none =>
    rw [Option.toList_none, List.eq_nil_iff_forall_not_mem]
    intro document hmem
    have hfound := (Table.lookup?_eq_some_iff h).2 (mem_documents.1 hmem)
    rw [hlookup] at hfound
    contradiction

namespace Registry

/-- **What is learned of an API is told by the value that the document has for it.** -/
theorem api?_merge_ofFields (r : Registry) (monitorApi : String) {fields : List (String × Json)}
    (h : (Json.object fields).Canonical) (a : String) :
    (r.merge monitorApi ((Snapshot.ofFields fields).apis.getD [])).2.api? a =
      if a = monitorApi then r.api? a
      else
        match Snapshot.apiValue? fields a with
        | some v => Api.learn a (r.api? a) (ApiDocument.ofJson v)
        | none => r.api? a := by
  have hsorted : Entries.Ascending (((Snapshot.part? fields "apis").getD []).map
      fun e => (e.1, ApiDocument.ofJson e.2)) := by
    unfold Entries.Ascending
    rw [List.pairwise_map]
    exact Snapshot.ascending_part? h "apis"
  rw [api?_merge, Snapshot.apis_ofFields, Catalog.documents_eq_lookup? hsorted,
    Table.lookup?_map_values, Snapshot.apiValue?]
  cases Snapshot.part? fields "apis" with
  | none => rfl
  | some apis =>
    show (if a = monitorApi then _ else _) = if a = monitorApi then _ else
      match Entries.lookup? a apis with
      | some v => Api.learn a (r.api? a) (ApiDocument.ofJson v)
      | none => r.api? a
    rw [Option.getD_some]
    cases Entries.lookup? a apis <;> rfl

/-- The APIs in a document are those that it has a value for, the monitoring API apart. -/
theorem isSome_api?_merge_ofFields (monitorApi : String) {fields : List (String × Json)}
    (h : (Json.object fields).Canonical) (a : String) :
    ((empty.merge monitorApi ((Snapshot.ofFields fields).apis.getD [])).2.api? a).isSome = true ↔
      a ≠ monitorApi ∧ (Snapshot.apiValue? fields a).isSome = true := by
  rw [api?_merge_ofFields empty monitorApi h]
  by_cases ha : a = monitorApi
  · rw [if_pos ha]
    simp [ha, api?, empty]
  · rw [if_neg ha]
    cases Snapshot.apiValue? fields a <;> simp [ha, api?, empty, Api.learn]

/-- The operations of an API in a document include those of all its paths. -/
theorem isSome_operation?_merge_ofFields (monitorApi : String) {fields : List (String × Json)}
    (h : (Json.object fields).Canonical) {a : String} (ha : a ≠ monitorApi)
    {api paths : List (String × Json)} (hapi : Snapshot.apiValue? fields a = some (.object api))
    (hpaths : Entries.lookup? "paths" api = some (.object paths)) {path : String}
    (hpath : path ∈ paths.map Prod.fst) :
    ((empty.merge monitorApi ((Snapshot.ofFields fields).apis.getD [])).2.operation? a
      (operationName path)).isSome = true := by
  obtain ⟨e, he, rfl⟩ := List.mem_map.1 hpath
  rw [operation?, api?_merge_ofFields empty monitorApi h, if_neg ha, hapi]
  simp only [Api.learn, Option.bind_some]
  rw [Api.get?_addPaths, ApiDocument.paths_ofJson hpaths]
  simp only [Option.isSome_or, Option.isSome_map, List.find?_isSome, Bool.or_eq_true]
  exact .inr ⟨(e.1, .ofJson e.2), List.mem_map_of_mem he, beq_self_eq_true _⟩

end Registry

namespace Snapshot

/-- **A malformed part hides no other part.** Take any JSON object as what a daemon says of itself.
It is read as a document. If its part `apis` is an object, the document lists the keys of that part,
and merged into an empty registry each of them but the monitoring API becomes an API; an API whose
value is an object with an object `paths` has an operation for each key of that. For any other
object that has the same value for an API, the same becomes of what a registry knows of the API;
and for any other object with the same part `verbosity` the same levels are applied, as many and to
the same effect. -/
theorem malformed_hides_nothing (monitorApi : String) (fields : List (String × Json))
    (hobject : (Json.object fields).Canonical) :
    ∃ snapshot, ofJson (.object fields) = .ok snapshot ∧
      (∀ apis, Entries.lookup? "apis" fields = some (.object apis) →
        ∃ catalog, snapshot.apis = some catalog ∧
          catalog.map Prod.fst = apis.map Prod.fst ∧
          let r := (Registry.empty.merge monitorApi catalog).2
          (∀ a, (r.api? a).isSome = true ↔ a ≠ monitorApi ∧ a ∈ apis.map Prod.fst) ∧
            ∀ a api paths, a ≠ monitorApi → (a, .object api) ∈ apis →
              Entries.lookup? "paths" api = some (.object paths) →
                ∀ path ∈ paths.map Prod.fst, (r.operation? a (operationName path)).isSome = true) ∧
      ∀ fields' snapshot', (Json.object fields').Canonical →
        ofJson (.object fields') = .ok snapshot' →
          (∀ a (r r' : Registry), apiValue? fields a = apiValue? fields' a → r.api? a = r'.api? a →
            (r.merge monitorApi (snapshot.apis.getD [])).2.api? a =
              (r'.merge monitorApi (snapshot'.apis.getD [])).2.api? a) ∧
          (Entries.lookup? "verbosity" fields = Entries.lookup? "verbosity" fields' →
            ∀ v : VerbosityState, v.applyReported monitorApi (snapshot.verbosity.getD []) =
              v.applyReported monitorApi (snapshot'.verbosity.getD [])) := by
  refine ⟨ofFields fields, ofJson_object fields, ?_, ?_⟩
  · intro apis hapis
    have hpart : part? fields "apis" = some apis := by rw [part?, hapis]
    have hcatalog : (ofFields fields).apis = some (apis.map fun e => (e.1, .ofJson e.2)) := by
      simp [ofFields, hpart]
    have hsorted : Entries.Ascending apis := by
      simpa [hpart] using ascending_part? hobject "apis"
    have hvalue (a : String) : apiValue? fields a = Entries.lookup? a apis := by
      rw [apiValue?, hpart, Option.bind_some]
    refine ⟨_, hcatalog, by simp, ?_, ?_⟩
    · intro a
      have hknown := Registry.isSome_api?_merge_ofFields monitorApi hobject a
      rw [hcatalog, hvalue, Table.isSome_lookup?] at hknown
      exact hknown
    · intro a api paths ha hapi hpaths path hpath
      have hfound : apiValue? fields a = some (.object api) := by
        rw [hvalue]
        exact (Table.lookup?_eq_some_iff hsorted).2 hapi
      have hknown :=
        Registry.isSome_operation?_merge_ofFields monitorApi hobject ha hfound hpaths hpath
      rw [hcatalog] at hknown
      exact hknown
  · intro fields' snapshot' hobject' hsnapshot'
    rw [ofJson_object] at hsnapshot'
    obtain rfl := Except.ok.inj hsnapshot'
    constructor
    · intro a r r' hvalue hknown
      rw [Registry.api?_merge_ofFields r monitorApi hobject,
        Registry.api?_merge_ofFields r' monitorApi hobject', hvalue, hknown]
    · intro hlevels v
      have hpart : (ofFields fields).verbosity = (ofFields fields').verbosity := by
        simp only [ofFields, part?, hlevels]
      rw [hpart]

/-- Levels that are no object and an API that is a truth value, next to an API whose information and
paths are malformed; and another document with the same description of that API. -/
theorem malformed_hides_nothing_calculator :
    let description := Json.object
      [("info", .null), ("paths", .object [("/add", .null), ("sub", .array [.bool true])])]
    let fields := [("apis", .object [("calc", description), ("odd", .bool true)]),
      ("verbosity", .string "high")]
    let other := [("apis", .object [("calc", description), ("monitor", .null)])]
    let known (fields : List (String × Json)) :=
      (Registry.empty.merge "monitor" ((ofFields fields).apis.getD [])).2
    (Json.object fields).Canonical ∧ (Json.object other).Canonical ∧
      ((known fields).operation? "calc" "add").isSome = true ∧
      ((known fields).operation? "calc" "sub").isSome = true ∧
      ((known fields).api? "odd").isSome = true ∧
      (known fields).api? "calc" = (known other).api? "calc" := by
  intro description fields other known
  have hfields : (Json.object fields).Canonical := by
    simp only [fields, description, Json.Canonical, Json.FieldsCanonical, Json.ItemsCanonical,
      Entries.Ascending]
    decide +kernel
  have hother : (Json.object other).Canonical := by
    simp only [other, description, Json.Canonical, Json.FieldsCanonical, Json.ItemsCanonical,
      Entries.Ascending]
    decide +kernel
  obtain ⟨snapshot, hsnapshot, hlisted, hsame⟩ := malformed_hides_nothing "monitor" fields hfields
  obtain rfl := Except.ok.inj ((ofJson_object fields).symm.trans hsnapshot)
  obtain ⟨catalog, hcatalog, -, hapis, hoperations⟩ := hlisted _ rfl
  have hknown : known fields = (Registry.empty.merge "monitor" catalog).2 := by
    simp only [known, hcatalog, Option.getD_some]
  obtain ⟨hentry, -⟩ := hsame other _ hother (ofJson_object other)
  have hpath := hoperations "calc" _ _ (by decide) List.mem_cons_self rfl
  refine ⟨hfields, hother, ?_, ?_, ?_, hentry "calc" .empty .empty rfl rfl⟩
  · rw [hknown]
    exact hpath "/add" List.mem_cons_self
  · rw [hknown]
    exact hpath "sub" (List.mem_cons_of_mem _ List.mem_cons_self)
  · rw [hknown]
    exact (hapis "odd").2 ⟨by decide, List.mem_cons_of_mem _ List.mem_cons_self⟩

end Snapshot

end LiveTrace
