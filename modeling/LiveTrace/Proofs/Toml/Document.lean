import LiveTrace.Proofs.Entries
import LiveTrace.Proofs.Toml.Lines
import LiveTrace.Toml.Document
/-!
# LiveTrace.Proofs.Toml.Document

**A document is read back with any of its settings left out.** The text of sections is made of
parts: lines that open a section, lines of settings and empty lines (`write_eq_parts`). Any of them
may be removed, as long as no setting stays without the line that opens its section (`remaining`);
what is left is read as the sections that stay, with the settings that stay (`read?_remaining`).

First the texts are read as lines (`spell_parts`), then the lines are taken (`takeAll?_sections`).
Empty lines may stay or not, so the lines are compared without them (`Spell`).
-/

namespace LiveTrace

namespace Toml

theorem entryValues_insert (k : String) (n : Node) (l : List (String × Node)) :
    entryValues (Entries.insert k n l) = Entries.insert k n.toValue (entryValues l) := by
  induction l with
  | nil => rfl
  | cons e rest ih =>
    obtain ⟨k', n'⟩ := e
    cases h : compare k k' <;> simp [Entries.insert, entryValues, h, ih]

/-! ### Parts of a text -/

/-- A part of the text of sections. -/
inductive Part
  /-- The empty line before a section. -/
  | gap (name : String)
  /-- The line that opens a section. -/
  | header (name : String)
  /-- The line or lines of a setting. -/
  | setting (name key : String)
  deriving DecidableEq

/-- The parts of a section, with their texts. -/
def Section.parts (s : Section) : List (Part × List Char) :=
  (.header s.name, headerLine s.name) ::
    s.settings.map fun e => (.setting s.name e.1, settingLine e)

/-- The parts of sections that come after another one. -/
def partsAfter (sections : List Section) : List (Part × List Char) :=
  sections.flatMap fun s => (.gap s.name, ['\n']) :: s.parts

/-- The parts of sections, with their texts. -/
def parts : List Section → List (Part × List Char)
  | [] => []
  | s :: rest => s.parts ++ partsAfter rest

theorem flatten_parts (s : Section) : (s.parts.map Prod.snd).flatten = s.write := by
  simp [Section.parts, Section.write, headerLine, List.flatMap_def, Function.comp_def]

theorem intercalate_write (s : Section) (rest : List Section) :
    ['\n'].intercalate ((s :: rest).map Section.write) =
      s.write ++ rest.flatMap fun t => '\n' :: t.write := by
  induction rest generalizing s with
  | nil => simp [List.intercalate]
  | cons t rest ih =>
    have hrest := ih t
    simp only [List.intercalate, List.map_cons, List.intersperse_cons_cons, List.flatten_cons,
      List.flatMap_cons, List.singleton_append] at hrest ⊢
    rw [hrest, List.cons_append]

theorem flatten_partsAfter (sections : List Section) :
    ((partsAfter sections).map Prod.snd).flatten = sections.flatMap fun s => '\n' :: s.write := by
  induction sections with
  | nil => rfl
  | cons s rest ih =>
    rw [partsAfter, List.flatMap_cons, List.map_append, List.flatten_append, List.map_cons,
      List.flatten_cons, flatten_parts, List.flatMap_cons, ← ih]
    rfl

/-- **The text of sections is made of its parts.** -/
theorem write_eq_parts (sections : List Section) :
    write sections = String.ofList ((parts sections).map Prod.snd).flatten := by
  rw [write]
  congr 1
  cases sections with
  | nil => rfl
  | cons s rest =>
    rw [intercalate_write, parts, List.map_append, List.flatten_append, flatten_parts,
      flatten_partsAfter]

/-- The texts of the parts that stay. -/
def remainingTexts (stays : Part → Bool) (l : List (Part × List Char)) : List (List Char) :=
  (l.filter fun p => stays p.1).map Prod.snd

theorem remainingTexts_append (stays : Part → Bool) (l m : List (Part × List Char)) :
    remainingTexts stays (l ++ m) = remainingTexts stays l ++ remainingTexts stays m := by
  rw [remainingTexts, List.filter_append, List.map_append]
  rfl

/-- The text of sections without the parts that do not stay. -/
def remaining (stays : Part → Bool) (sections : List Section) : String :=
  String.ofList (remainingTexts stays (parts sections)).flatten

/-- A section without the settings that do not stay. -/
def Section.thin (stays : Part → Bool) (s : Section) : Section :=
  ⟨s.name, s.settings.filter fun e => stays (.setting s.name e.1)⟩

/-- The sections that stay, without the settings that do not. -/
def thinned (stays : Part → Bool) (sections : List Section) : List Section :=
  (sections.filter fun s => stays (.header s.name)).map (Section.thin stays)

/-! ### Reading the lines -/

/-- Whether a line says nothing. -/
def Line.isBlank : Line → Bool
  | blank => true
  | table _ | item _ | entry _ _ => false

/-- The lines of a section. -/
def Section.lines (s : Section) : List Line :=
  .table [s.name] :: s.settings.map fun e => .entry [e.1] e.2.value

/-- A section whose names need no quotes and whose counts fit. -/
structure Section.Writable (s : Section) : Prop where
  name : IsBare s.name
  settings : ∀ e ∈ s.settings, IsBare e.1 ∧ e.2.Fits

/-- Texts that are the lines of sections, empty lines apart. -/
def Spell (texts : List (List Char)) (sections : List Section) : Prop :=
  ∃ ls, List.Forall₂ Reads texts ls ∧
    (ls.filter fun l => !l.isBlank) = sections.flatMap Section.lines

namespace Spell

variable {texts texts' : List (List Char)} {sections sections' : List Section}

theorem nil : Spell [] [] := ⟨[], .nil, rfl⟩

theorem gap : Spell [['\n']] [] := ⟨[.blank], .cons reads_gap .nil, rfl⟩

theorem append (h : Spell texts sections) (h' : Spell texts' sections') :
    Spell (texts ++ texts') (sections ++ sections') := by
  obtain ⟨ls, hreads, hlines⟩ := h
  obtain ⟨ls', hreads', hlines'⟩ := h'
  refine ⟨ls ++ ls', List.rel_append hreads hreads', ?_⟩
  rw [List.filter_append, hlines, hlines', List.flatMap_append]

theorem of_section {s : Section} (h : s.Writable) : Spell (s.parts.map Prod.snd) [s] := by
  refine ⟨s.lines, .cons (reads_headerLine h.name) ?_, ?_⟩
  · rw [List.map_map, List.forall₂_map_left_iff, List.forall₂_map_right_iff, List.forall₂_same]
    exact fun e he => reads_settingLine (h.settings e he).1 (h.settings e he).2
  · have hkept : s.lines.filter (fun l => !l.isBlank) = s.lines := by
      refine List.filter_eq_self.2 (List.forall_mem_cons.2 ⟨rfl, fun l hl => ?_⟩)
      obtain ⟨e, -, rfl⟩ := List.mem_map.1 hl
      rfl
    rw [hkept, List.flatMap_cons, List.flatMap_nil, List.append_nil]

end Spell

section Stay

variable {stays : Part → Bool}
  (hstays : ∀ name key, stays (.setting name key) = true → stays (.header name) = true)

include hstays

/-- What stays of a section are the lines of the section without the settings that do not, or
nothing. -/
theorem spell_section {s : Section} (h : s.Writable) :
    Spell (remainingTexts stays s.parts) (thinned stays [s]) := by
  have hsettings : ((s.settings.map fun e => (Part.setting s.name e.1, settingLine e)).filter
      fun p => stays p.1) = (s.thin stays).settings.map fun e =>
        (Part.setting s.name e.1, settingLine e) := List.filter_map
  cases hheader : stays (.header s.name) with
  | true =>
    have hparts : (s.parts.filter fun p => stays p.1) = (s.thin stays).parts := by
      rw [Section.parts, List.filter_cons, hsettings]
      exact if_pos hheader
    have hthin : thinned stays [s] = [s.thin stays] := by
      simp [thinned, hheader]
    rw [remainingTexts, hparts, hthin]
    exact .of_section ⟨h.name, fun e he => h.settings e (List.mem_filter.1 he).1⟩
  | false =>
    -- without its header a section has no settings either, so nothing is left to read
    have hnone : (s.thin stays).settings = [] := by
      refine List.filter_eq_nil_iff.2 fun e _ he => ?_
      rw [hstays s.name e.1 he] at hheader
      contradiction
    have hthin : thinned stays [s] = [] := by simp [thinned, hheader]
    rw [remainingTexts, Section.parts, List.filter_cons_of_neg (by simp [hheader]), hsettings,
      hnone, hthin]
    exact .nil

omit hstays in
theorem thinned_cons (s : Section) (rest : List Section) :
    thinned stays (s :: rest) = thinned stays [s] ++ thinned stays rest := by
  rw [← List.singleton_append, thinned, List.filter_append, List.map_append]
  rfl

theorem spell_partsAfter {sections : List Section} (h : ∀ s ∈ sections, s.Writable) :
    Spell (remainingTexts stays (partsAfter sections)) (thinned stays sections) := by
  induction sections with
  | nil => exact .nil
  | cons s rest ih =>
    obtain ⟨hs, hrest⟩ := List.forall_mem_cons.1 h
    have hgap : Spell (remainingTexts stays [(Part.gap s.name, ['\n'])]) [] := by
      rw [remainingTexts, List.filter_cons]
      split
      · exact .gap
      · exact .nil
    have hparts : partsAfter (s :: rest) =
        [(Part.gap s.name, ['\n'])] ++ s.parts ++ partsAfter rest := rfl
    rw [hparts, remainingTexts_append, remainingTexts_append, thinned_cons]
    exact (hgap.append (spell_section hstays hs)).append (ih hrest)

theorem spell_parts {sections : List Section} (h : ∀ s ∈ sections, s.Writable) :
    Spell (remainingTexts stays (parts sections)) (thinned stays sections) := by
  cases sections with
  | nil => exact .nil
  | cons s rest =>
    obtain ⟨hs, hrest⟩ := List.forall_mem_cons.1 h
    rw [parts, remainingTexts_append, thinned_cons]
    exact (spell_section hstays hs).append (spell_partsAfter hstays hrest)

end Stay

/-! ### Taking the lines -/

namespace State

/-- Empty lines change nothing. -/
theorem takeAll?_filter_isBlank (s : State) (ls : List Line) :
    s.takeAll? (ls.filter fun l => !l.isBlank) = s.takeAll? ls := by
  induction ls generalizing s with
  | nil => rfl
  | cons l ls ih =>
    cases l with
    | blank => exact ih s
    | table key | item key | entry key v =>
      rw [List.filter_cons_of_pos rfl, takeAll?, takeAll?]
      exact Option.bind_congr fun s _ => ih s

theorem takeAll?_append (s : State) (ls ls' : List Line) :
    s.takeAll? (ls ++ ls') = (s.takeAll? ls).bind fun s => s.takeAll? ls' := by
  induction ls generalizing s with
  | nil => rfl
  | cons l ls ih =>
    rw [List.cons_append, takeAll?, takeAll?, Option.bind_assoc]
    exact Option.bind_congr fun s _ => ih s

end State

/-- The settings of a section, put into what its table has so far. -/
def addSettings (sub : List (String × Node)) (settings : List (String × Setting)) :
    List (String × Node) :=
  settings.foldl (fun l e => Entries.insert e.1 (.value e.2.value) l) sub

/-- Settings go into the table that is open, if it has none of their keys. -/
theorem takeAll?_settings (root : List (String × Node)) (name : String)
    {settings : List (String × Setting)} (hkeys : (settings.map Prod.fst).Nodup)
    {sub : List (String × Node)} (hnew : ∀ e ∈ settings, Entries.lookup? e.1 sub = none) :
    State.takeAll? ⟨Entries.insert name (.opened sub) root, [name]⟩
      (settings.map fun e => .entry [e.1] e.2.value) =
        some ⟨Entries.insert name (.opened (addSettings sub settings)) root, [name]⟩ := by
  induction settings generalizing sub with
  | nil => rfl
  | cons e settings ih =>
    obtain ⟨k, v⟩ := e
    obtain ⟨hk, hkeys⟩ := List.nodup_cons.1 hkeys
    obtain ⟨hfirst, hrest⟩ := List.forall_mem_cons.1 hnew
    -- the table so far is replaced by the one with the setting, under the same name
    have hset : State.setIn? [name] [k] v.value (Entries.insert name (.opened sub) root) =
        some (Entries.insert name (.opened (Entries.insert k (.value v.value) sub)) root) := by
      have hvalue : setValue? [k] v.value sub = some (Entries.insert k (.value v.value) sub) := by
        rw [setValue?, hfirst]
        rfl
      rw [State.setIn?, Entries.lookup?_insert_self]
      simp only [State.setIn?, hvalue, Option.map_some, Entries.insert_insert_self]
    have hnext : ∀ e ∈ settings,
        Entries.lookup? e.1 (Entries.insert k (.value v.value) sub) = none := by
      intro e he
      have hne : e.1 ≠ k := fun heq => hk (List.mem_map.2 ⟨e, he, heq⟩)
      rw [Entries.lookup?_insert_of_ne hne]
      exact hrest e he
    rw [List.map_cons, State.takeAll?, State.take?, hset]
    exact ih hkeys hnext

/-- The table of a section. -/
def Section.node (s : Section) : Node := .opened (addSettings [] s.settings)

/-- A section becomes a table, if there is none of its name. -/
theorem takeAll?_section {s : Section} (hkeys : (s.settings.map Prod.fst).Nodup)
    {root : List (String × Node)} (hnew : Entries.lookup? s.name root = none)
    (current : List String) :
    State.takeAll? ⟨root, current⟩ s.lines =
      some ⟨Entries.insert s.name s.node root, [s.name]⟩ := by
  have hopen : State.openTable? [s.name] root =
      some (Entries.insert s.name (.opened []) root) := by
    rw [State.openTable?, hnew]
  rw [Section.lines, State.takeAll?, State.take?, hopen]
  exact takeAll?_settings root s.name hkeys fun _ _ => rfl

/-- **Sections become the tables of a document**, if their names are different. -/
theorem takeAll?_sections {sections : List Section} (hnames : (sections.map Section.name).Nodup)
    (hkeys : ∀ s ∈ sections, (s.settings.map Prod.fst).Nodup) {root : List (String × Node)}
    (hnew : ∀ s ∈ sections, Entries.lookup? s.name root = none) (current : List String) :
    ∃ current', State.takeAll? ⟨root, current⟩ (sections.flatMap Section.lines) =
      some ⟨sections.foldl (fun l s => Entries.insert s.name s.node l) root, current'⟩ := by
  induction sections generalizing root current with
  | nil => exact ⟨current, rfl⟩
  | cons s rest ih =>
    obtain ⟨hname, hnames⟩ := List.nodup_cons.1 hnames
    obtain ⟨hfirst, hkeys⟩ := List.forall_mem_cons.1 hkeys
    obtain ⟨hnew', hrest⟩ := List.forall_mem_cons.1 hnew
    have hnext : ∀ t ∈ rest, Entries.lookup? t.name (Entries.insert s.name s.node root) = none := by
      intro t ht
      have hne : t.name ≠ s.name := fun heq => hname (List.mem_map.2 ⟨t, ht, heq⟩)
      rw [Entries.lookup?_insert_of_ne hne]
      exact hrest t ht
    rw [List.flatMap_cons, State.takeAll?_append, takeAll?_section hfirst hnew']
    exact ih hnames hkeys hnext [s.name]

/-! ### The document -/

/-- The value of a section. -/
def Section.value (s : Section) : Value :=
  .table (s.settings.foldl (fun l e => Entries.insert e.1 e.2.value l) [])

/-- The entries of a document that has sections. -/
def document (sections : List Section) : List (String × Value) :=
  sections.foldl (fun l s => Entries.insert s.name s.value l) []

theorem entryValues_foldl_insert {α : Type} (key : α → String) (node : α → Node) (l : List α)
    (entries : List (String × Node)) :
    entryValues (l.foldl (fun m a => Entries.insert (key a) (node a) m) entries) =
      l.foldl (fun m a => Entries.insert (key a) (node a).toValue m) (entryValues entries) := by
  induction l generalizing entries with
  | nil => rfl
  | cons a l ih => rw [List.foldl_cons, ih, entryValues_insert, List.foldl_cons]

theorem toValue_node (s : Section) : s.node.toValue = s.value := by
  have hentries : entryValues (addSettings [] s.settings) =
      s.settings.foldl (fun l e => Entries.insert e.1 e.2.value l) [] :=
    entryValues_foldl_insert ..
  rw [Section.node, Node.toValue, hentries]
  rfl

/-- No line that is read back begins with a mark of the byte order. -/
theorem skipMark_of_reads {texts : List (List Char)} {ls : List Line}
    (h : List.Forall₂ Reads texts ls) : skipMark texts.flatten = texts.flatten := by
  cases h with
  | nil => rfl
  | cons hread _ =>
    obtain ⟨c, cs, rfl, hmark⟩ := hread.head
    rw [List.flatten_cons, List.cons_append, skipMark]
    exact fun _ heq => hmark (List.cons.inj heq).1

theorem nodup_names_thinned (stays : Part → Bool) {sections : List Section}
    (h : (sections.map Section.name).Nodup) :
    ((thinned stays sections).map Section.name).Nodup := by
  rw [thinned, List.map_map]
  exact h.sublist (List.filter_sublist.map Section.name)

theorem nodup_keys_thinned (stays : Part → Bool) {sections : List Section}
    (h : ∀ s ∈ sections, (s.settings.map Prod.fst).Nodup) :
    ∀ s ∈ thinned stays sections, (s.settings.map Prod.fst).Nodup := by
  intro s hs
  obtain ⟨t, ht, rfl⟩ := List.mem_map.1 hs
  exact (h t (List.mem_filter.1 ht).1).sublist (List.filter_sublist.map Prod.fst)

/-- **A document is read back with any of its settings left out**, as long as no setting stays
without the line that opens its section. -/
theorem read?_remaining {sections : List Section} (h : ∀ s ∈ sections, s.Writable)
    (hnames : (sections.map Section.name).Nodup)
    (hkeys : ∀ s ∈ sections, (s.settings.map Prod.fst).Nodup) {stays : Part → Bool}
    (hstays : ∀ name key, stays (.setting name key) = true → stays (.header name) = true) :
    read? (remaining stays sections) = some (document (thinned stays sections)) := by
  obtain ⟨ls, hreads, hlines⟩ := spell_parts hstays h
  have hread := lines?_of_reads hreads (Nat.le_succ_of_le (length_le_of_reads hreads))
  have hnew : ∀ s ∈ thinned stays sections,
      Entries.lookup? s.name ([] : List (String × Node)) = none := fun _ _ => rfl
  obtain ⟨current, htaken⟩ := takeAll?_sections (nodup_names_thinned stays hnames)
    (nodup_keys_thinned stays hkeys) hnew []
  have hstart : State.start.takeAll? ls = some ⟨(thinned stays sections).foldl
      (fun l s => Entries.insert s.name s.node l) [], current⟩ := by
    rw [← State.takeAll?_filter_isBlank, hlines]
    exact htaken
  have hvalues : entryValues ((thinned stays sections).foldl
      (fun l s => Entries.insert s.name s.node l) []) = document (thinned stays sections) := by
    simp only [entryValues_foldl_insert, toValue_node]
    rfl
  rw [read?, remaining, String.toList_ofList, skipMark_of_reads hreads]
  simp only [hread, hstart, hvalues, Option.bind_eq_bind, Option.bind_some]

end Toml

end LiveTrace
