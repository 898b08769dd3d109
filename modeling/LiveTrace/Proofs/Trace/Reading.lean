import LiveTrace.Proofs.Text.Trim
import LiveTrace.Proofs.Trace.Tag
import LiveTrace.Trace.Tag
/-!
# LiveTrace.Proofs.Trace.Reading

**What the operator writes for a subscription, and what is read from it.** A tag is spelled by the
name of an API or `*`, a slash and the name of a category (`TraceTag.parse_eq_ok_iff`); a mode by
its own name (`TraceMode.parse_eq_ok_iff`); and a selection by one of each with `=` between them, or
by a tag alone (`TraceSelection.parse_eq_ok_iff`). White space around a part does not count. In each
case the text of what was read is one that it can be read from (`TraceTag.parse_text`,
`TraceMode.parse_name`, `TraceSelection.parse_text`).
-/

namespace LiveTrace

/-- The first occurrence of a separator stands behind a text that has none. -/
theorem Text.splitFirst?_append {sep : Char} {before after : List Char} (h : sep ∉ before) :
    splitFirst? sep (before ++ sep :: after) = some (before, after) := by
  induction before with
  | nil => simp [splitFirst?]
  | cons c before ih =>
    simp only [List.mem_cons, not_or] at h
    simp [splitFirst?, Ne.symm h.1, ih h.2]

theorem TraceCategory.ofName?_eq_some_iff {s : String} {c : TraceCategory} :
    ofName? s = some c ↔ s = c.name := by
  constructor
  · intro h
    have hname := List.find?_some h
    simp only [beq_iff_eq] at hname
    exact hname.symm
  · rintro rfl
    exact ofName?_name c

/-! ## Tags -/

namespace TraceTag

variable {s : String} {t : TraceTag}

/-- Whether a text, white space around it aside, spells a tag: the name of an API, or `*` for every
API, then a slash and the name of the category. -/
def IsSpelledBy (t : TraceTag) (s : String) : Prop :=
  ∃ api, api ≠ "" ∧ Text.trim s = api ++ "/" ++ t.category.name ∧
    t.api = if api = "*" then none else some api

theorem ofParts?_eq_some_iff {api category : List Char} :
    ofParts? api category = some t ↔ api ≠ [] ∧ String.ofList category = t.category.name ∧
      t.api = if String.ofList api = "*" then none else some (String.ofList api) := by
  have hstar : String.ofList api = "*" ↔ api = ['*'] := by
    rw [← String.toList_inj, String.toList_ofList]
    rfl
  simp only [ofParts?, hstar]
  cases hc : TraceCategory.ofName? (String.ofList category) with
  | none =>
    have hname : String.ofList category ≠ t.category.name := by
      intro h
      rw [TraceCategory.ofName?_eq_some_iff.2 h] at hc
      cases hc
    simp [hname]
  | some c =>
    rw [TraceCategory.ofName?_eq_some_iff.1 hc]
    have hname : c.name = t.category.name ↔ c = t.category :=
      ⟨TraceCategory.name_injective, congrArg _⟩
    obtain ⟨a, d⟩ := t
    by_cases hempty : api = []
    · simp [hempty]
    · by_cases hall : api = ['*'] <;> simp [hempty, hall, hname, and_comm, eq_comm]

theorem parse_eq_ok_iff_ofParts? :
    parse s = .ok t ↔ ∃ api category,
      Text.splitLast? '/' (Text.trimChars s.toList) = some (api, category) ∧
        ofParts? api category = some t := by
  unfold parse
  cases Text.splitLast? '/' (Text.trimChars s.toList) with
  | none => simp
  | some parts =>
    obtain ⟨api, category⟩ := parts
    cases hparts : ofParts? api category <;> simp [hparts]

/-- **A tag is read from the texts that spell it.** The slash before the category is the last one
of the text, since no category has one in its name. -/
theorem parse_eq_ok_iff : parse s = .ok t ↔ t.IsSpelledBy s := by
  rw [parse_eq_ok_iff_ofParts?]
  constructor
  · rintro ⟨api, category, hsplit, hparts⟩
    obtain ⟨hempty, hcategory, hapi⟩ := ofParts?_eq_some_iff.1 hparts
    obtain ⟨htrim, -⟩ := Text.splitLast?_eq_some hsplit
    refine ⟨String.ofList api, by simpa using hempty, ?_, hapi⟩
    rw [← hcategory, ← String.toList_inj, Text.toList_trim, htrim]
    simp
  · rintro ⟨api, hempty, htrim, hapi⟩
    refine ⟨api.toList, t.category.name.toList, ?_, ?_⟩
    · rw [← Text.toList_trim, htrim]
      have hsplit : Text.splitLast? '/' (api.toList ++ '/' :: t.category.name.toList) =
          some (api.toList, t.category.name.toList) :=
        Text.splitLast?_append t.category.slash_notMem_name
      simpa using hsplit
    · refine ofParts?_eq_some_iff.2 ⟨?_, by simp, by simpa using hapi⟩
      simpa using hempty

theorem parse_eq_error_iff {e : MonitorError} :
    parse s = .error e ↔ (¬ ∃ t : TraceTag, t.IsSpelledBy s) ∧ e = .invalidTag s := by
  simp only [← parse_eq_ok_iff]
  unfold parse
  cases Text.splitLast? '/' (Text.trimChars s.toList) with
  | none => simp [eq_comm]
  | some parts =>
    obtain ⟨api, category⟩ := parts
    cases hparts : ofParts? api category <;> simp [hparts, eq_comm]

/-- The text of a tag is what was read, without the white space around it. -/
theorem IsSpelledBy.text_eq (h : t.IsSpelledBy s) : t.text = Text.trim s := by
  obtain ⟨api, -, htrim, hapi⟩ := h
  rw [text, htrim, hapi]
  by_cases hall : api = "*" <;> simp [hall]

/-- A tag is read again from its own text. -/
theorem parse_text (h : parse s = .ok t) : parse t.text = .ok t := by
  have hspelled := parse_eq_ok_iff.1 h
  rw [parse_eq_ok_iff, hspelled.text_eq]
  obtain ⟨api, hempty, htrim, hapi⟩ := hspelled
  exact ⟨api, hempty, by rw [Text.trim_trim, htrim], hapi⟩

end TraceTag

/-! ## Modes -/

namespace TraceMode

variable {s : String} {m : TraceMode}

/-- Whether a text is the name of a mode. -/
def IsName (s : String) : Prop := s ≠ "" ∧ ∀ c ∈ s.toList, ('a' ≤ c ∧ c ≤ 'z') ∨ c = '_'

theorem isName_name (m : TraceMode) : IsName m.name := by
  obtain ⟨hne, hall⟩ := m.valid
  refine ⟨by simpa using hne, ?_⟩
  intro c hc
  simpa [isModeChar] using List.all_eq_true.1 hall c hc

theorem ofName?_eq_some_iff : ofName? s = some m ↔ m.name = s := by
  constructor
  · intro h
    unfold ofName? at h
    split at h
    · cases h
      rfl
    · contradiction
  · rintro rfl
    exact ofName?_name m

theorem ofName?_eq_none_iff : ofName? s = none ↔ ¬ IsName s := by
  have hvalid : IsName s ↔ s.toList ≠ [] ∧ s.toList.all isModeChar = true := by
    simp [IsName, isModeChar]
  rw [hvalid]
  unfold ofName?
  split <;> simp_all

/-- **A mode is read from its name.** -/
theorem parse_eq_ok_iff : parse s = .ok m ↔ m.name = Text.trim s := by
  rw [← ofName?_eq_some_iff]
  unfold parse
  cases ofName? (Text.trim s) <;> simp

theorem parse_eq_error_iff {e : MonitorError} :
    parse s = .error e ↔ ¬ IsName (Text.trim s) ∧ e = .invalidMode (Text.trim s) := by
  rw [← ofName?_eq_none_iff]
  unfold parse
  cases ofName? (Text.trim s) <;> simp [eq_comm]

theorem exists_parse_eq_ok_iff : (∃ m, parse s = .ok m) ↔ IsName (Text.trim s) := by
  constructor
  · rintro ⟨m, h⟩
    rw [← parse_eq_ok_iff.1 h]
    exact m.isName_name
  · intro h
    cases hm : parse s with
    | ok m => exact ⟨m, rfl⟩
    | error e => exact absurd h (parse_eq_error_iff.1 hm).1

/-- A mode is read again from its own name. -/
theorem parse_name (h : parse s = .ok m) : parse m.name = .ok m := by
  rw [parse_eq_ok_iff] at h ⊢
  rw [h, Text.trim_trim]

end TraceMode

/-! ## Selections -/

namespace TraceSelection

variable {s tag mode : String} {x : TraceSelection}

/-- The parts of a selection: what stands before and after its first `=`, or the whole text and the
usual mode. -/
def HasParts (s tag mode : String) : Prop :=
  '=' ∉ tag.toList ∧ (s = tag ++ "=" ++ mode ∨ s = tag ∧ mode = defaultMode)

theorem exists_hasParts (s : String) : ∃ tag mode, HasParts s tag mode := by
  cases hsplit : Text.splitFirst? '=' s.toList with
  | none => exact ⟨s, defaultMode, Text.splitFirst?_eq_none.1 hsplit, .inr ⟨rfl, rfl⟩⟩
  | some parts =>
    obtain ⟨before, after⟩ := parts
    obtain ⟨hs, hnotMem⟩ := Text.splitFirst?_eq_some hsplit
    refine ⟨String.ofList before, String.ofList after, by simpa using hnotMem, .inl ?_⟩
    rw [← String.toList_inj, hs]
    simp

theorem parse_of_hasParts (h : HasParts s tag mode) :
    parse s = TraceTag.parse tag >>= fun t => TraceMode.parse mode >>= fun m => .ok ⟨t, m⟩ := by
  obtain ⟨hnotMem, rfl | ⟨rfl, rfl⟩⟩ := h
  · have hlist : (tag ++ "=" ++ mode).toList = tag.toList ++ '=' :: mode.toList := by simp
    have hsplit : Text.splitFirst? '=' (tag ++ "=" ++ mode).toList =
        some (tag.toList, mode.toList) := by
      rw [hlist, Text.splitFirst?_append hnotMem]
    simp only [parse, hsplit, String.ofList_toList]
  · simp [parse, Text.splitFirst?_eq_none.2 hnotMem]

theorem parse_eq_ok_iff (h : HasParts s tag mode) :
    parse s = .ok x ↔ TraceTag.parse tag = .ok x.tag ∧ TraceMode.parse mode = .ok x.mode := by
  rw [parse_of_hasParts h]
  obtain ⟨t, m⟩ := x
  cases TraceTag.parse tag <;> cases TraceMode.parse mode <;> simp [bind, Except.bind]

theorem parse_eq_error_iff {e : MonitorError} (h : HasParts s tag mode) :
    parse s = .error e ↔ TraceTag.parse tag = .error e ∨
      (∃ t, TraceTag.parse tag = .ok t) ∧ TraceMode.parse mode = .error e := by
  rw [parse_of_hasParts h]
  cases TraceTag.parse tag <;> cases TraceMode.parse mode <;> simp [bind, Except.bind]

/-- A selection is read again from its own text. -/
theorem parse_text (h : parse s = .ok x) : parse x.text = .ok x := by
  obtain ⟨tag, mode, hparts⟩ := exists_hasParts s
  obtain ⟨htag, hmode⟩ := (parse_eq_ok_iff hparts).1 h
  have htext : HasParts x.text x.tag.text x.mode.name := by
    refine ⟨?_, .inl rfl⟩
    -- the tag was read from a part of the text without `=`
    rw [(TraceTag.parse_eq_ok_iff.1 htag).text_eq, Text.toList_trim]
    exact fun hmem => hparts.1 (Text.mem_of_mem_trimChars hmem)
  exact (parse_eq_ok_iff htext).2 ⟨TraceTag.parse_text htag, TraceMode.parse_name hmode⟩

end TraceSelection

end LiveTrace
