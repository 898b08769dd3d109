import LiveTrace.Config.File
import LiveTrace.Proofs.Entries
import LiveTrace.Proofs.Json.Record
import LiveTrace.Proofs.Toml.Document
/-!
# LiveTrace.Proofs.Config.RoundTrip

**A configuration is loaded as it was saved, and what was left out has its default.** The text of a
configuration is read back with any of its settings removed, and whole sections too
(`Config.load_remaining`): what stays has its value, whatever characters a text holds, and what does
not stay has its default. With nothing removed the configuration is the same.

The document is read back by `Toml.read?_remaining`. Its entries are objects of settings, which a
section accepts and looks its fields up in, whichever of them are left (`Toml.Suits`).
-/

namespace LiveTrace

/-! ### Sections as objects -/

namespace Toml

/-- The JSON value that the value of a setting stands for. -/
def Setting.toJson : Setting → Json
  | text s => .string s
  | flag b => .bool b
  | count n => .int n

theorem toJson?_value (v : Setting) : v.value.toJson? = some v.toJson := by cases v <;> rfl

theorem entriesToJson?_insert {l : List (String × Value)} {m : List (String × Json)}
    (hl : entriesToJson? l = some m) {v : Value} {j : Json} (hv : v.toJson? = some j) (k : String) :
    entriesToJson? (Entries.insert k v l) = some (Entries.insert k j m) := by
  induction l generalizing m with
  | nil =>
    obtain rfl : [] = m := Option.some.inj hl
    simp [Entries.insert, entriesToJson?, hv]
  | cons e rest ih =>
    obtain ⟨k', v'⟩ := e
    rw [entriesToJson?] at hl
    obtain ⟨j', hj', hrest⟩ := Option.bind_eq_some_iff.1 hl
    obtain ⟨m', hm', rfl⟩ := Option.map_eq_some_iff.1 hrest
    cases h : compare k k' <;>
      simp [Entries.insert, entriesToJson?, h, hv, hj', hm', ih hm']

theorem entriesToJson?_foldl_insert {ι : Type} (key : ι → String) {value : ι → Value}
    {json : ι → Json} (h : ∀ i, (value i).toJson? = some (json i)) (l : List ι)
    {m : List (String × Value)} {n : List (String × Json)} (hm : entriesToJson? m = some n) :
    entriesToJson? (l.foldl (fun m i => Entries.insert (key i) (value i) m) m) =
      some (l.foldl (fun m i => Entries.insert (key i) (json i) m) n) := by
  induction l generalizing m n with
  | nil => exact hm
  | cons i l ih => exact ih (entriesToJson?_insert hm (h i) (key i))

/-- The fields of an object of settings. -/
def fieldsOf (settings : List (String × Setting)) : List (String × Json) :=
  settings.foldl (fun m e => Entries.insert e.1 e.2.toJson m) []

/-- The fields of an object of sections. -/
def documentFields (sections : List Section) : List (String × Json) :=
  sections.foldl (fun m s => Entries.insert s.name (.object (fieldsOf s.settings)) m) []

/-- **A document of sections is an object of objects.** -/
theorem entriesToJson?_document (sections : List Section) :
    entriesToJson? (document sections) = some (documentFields sections) := by
  have hsection (s : Section) : s.value.toJson? = some (.object (fieldsOf s.settings)) := by
    rw [Section.value, Value.toJson?, entriesToJson?_foldl_insert Prod.fst
      (fun e => toJson?_value e.2) s.settings rfl]
    rfl
  exact entriesToJson?_foldl_insert Section.name hsection sections rfl

/-- A setting is found if it stays. -/
theorem lookup?_fieldsOf_filter {settings : List (String × Setting)}
    (hkeys : (settings.map Prod.fst).Nodup) (kept : String → Bool) (k : String) :
    Entries.lookup? k (fieldsOf (settings.filter fun e => kept e.1)) =
      if kept k then (Entries.lookup? k settings).map Setting.toJson else none := by
  have hkept : ((settings.filter fun e => kept e.1).map Prod.fst).Nodup :=
    hkeys.sublist (List.filter_sublist.map Prod.fst)
  have hfold : Entries.lookup? k (fieldsOf (settings.filter fun e => kept e.1)) = _ :=
    Entries.lookup?_foldl_insert_of_nodup Prod.fst (fun e : String × Setting => e.2.toJson)
      hkept [] k
  rw [hfold, Table.lookup?_map_values, Table.lookup?_filter]
  cases kept k <;> simp [Entries.lookup?]

theorem mem_fieldsOf {settings : List (String × Setting)} {e : String × Json}
    (h : e ∈ fieldsOf settings) : ∃ f ∈ settings, e = (f.1, f.2.toJson) :=
  (Entries.mem_foldl_insert Prod.fst (fun e : String × Setting => e.2.toJson) h).resolve_right
    List.not_mem_nil

theorem mem_documentFields {sections : List Section} {e : String × Json}
    (h : e ∈ documentFields sections) :
    ∃ s ∈ sections, e = (s.name, .object (fieldsOf s.settings)) :=
  (Entries.mem_foldl_insert Section.name
    (fun s => Json.object (fieldsOf s.settings)) h).resolve_right List.not_mem_nil

/-- What is left of a section is found under its name, if the section stays. -/
theorem lookup?_documentFields_thinned (stays : Part → Bool) {sections : List Section}
    (hnames : (sections.map Section.name).Nodup) {s : Section} (hs : s ∈ sections) :
    Entries.lookup? s.name (documentFields (thinned stays sections)) =
      if stays (.header s.name) then some (.object (fieldsOf (s.thin stays).settings))
      else none := by
  have hfold : Entries.lookup? s.name (documentFields (thinned stays sections)) = _ :=
    Entries.lookup?_foldl_insert_of_nodup Section.name
      (fun t => Json.object (fieldsOf t.settings)) (nodup_names_thinned stays hnames) [] s.name
  have hentries : ((thinned stays sections).map
      fun t => (t.name, Json.object (fieldsOf t.settings))) =
        (sections.map fun t => (t.name, Json.object (fieldsOf (t.thin stays).settings))).filter
          fun e => stays (.header e.1) := by
    rw [thinned, List.map_map, List.filter_map]
    rfl
  have hfound : Entries.lookup? s.name
      (sections.map fun t => (t.name, Json.object (fieldsOf (t.thin stays).settings))) =
        some (.object (fieldsOf (s.thin stays).settings)) :=
    (Entries.lookup?_eq_some_iff (by rwa [List.map_map])).2 (List.mem_map.2 ⟨s, hs, rfl⟩)
  rw [hfold, hentries, Table.lookup?_filter (fun name => stays (.header name)), hfound]
  simp [Entries.lookup?]

end Toml

/-! ### Reading what stays -/

namespace Toml

/-- Settings that make up a record of the given rules: they can be written, no key is given twice,
and no value is refused. -/
structure Suits (rules : List FieldRule) (settings : List (String × Setting)) : Prop where
  writable : ∀ e ∈ settings, IsBare e.1 ∧ e.2.Fits
  keys : (settings.map Prod.fst).Nodup
  check : ∀ e ∈ settings, ∀ r, (rules.find? fun r => r.name == e.1) = some r →
    r.check e.2.toJson = .ok ()
  optional : ∀ r ∈ rules, r.required = false

namespace Suits

variable {rules : List FieldRule} {settings : List (String × Setting)} (h : Suits rules settings)
  (kept : String → Bool) {k : String}

include h

theorem fields?_filter (record : String) :
    Record.fields? record rules (.object (fieldsOf (settings.filter fun e => kept e.1))) =
      .ok (fieldsOf (settings.filter fun e => kept e.1)) := by
  refine Record.fields?_object h.optional (fun e he => ?_) record
  obtain ⟨f, hf, rfl⟩ := mem_fieldsOf he
  exact h.check f (List.mem_filter.1 hf).1

theorem string?_filter {s : Option String} (hs : Entries.lookup? k settings = s.map .text) :
    Record.string? (fieldsOf (settings.filter fun e => kept e.1)) k =
      if kept k then s else none := by
  rw [Record.string?, lookup?_fieldsOf_filter h.keys, hs]
  cases kept k <;> cases s <;> rfl

theorem string_filter {s : String} (hs : Entries.lookup? k settings = some (.text s))
    (default : String) :
    Record.string (fieldsOf (settings.filter fun e => kept e.1)) k default =
      if kept k then s else default := by
  have hread := h.string?_filter kept (s := some s) hs
  rw [Record.string, hread]
  cases kept k <;> rfl

theorem bool_filter {b : Bool} (hb : Entries.lookup? k settings = some (.flag b))
    (default : Bool) :
    Record.bool (fieldsOf (settings.filter fun e => kept e.1)) k default =
      if kept k then b else default := by
  rw [Record.bool, lookup?_fieldsOf_filter h.keys, hb]
  cases kept k <;> rfl

theorem nat_filter {n : Nat} (hfits : n < 0x10000000000000000)
    (hn : Entries.lookup? k settings = some (.count n)) (default : Nat) :
    Record.nat (fieldsOf (settings.filter fun e => kept e.1)) k default =
      if kept k then n else default := by
  have hread : (Json.int n).asNat64? = some n := by
    simp [Json.int, Json.asNat64?]
    omega
  rw [Record.nat, lookup?_fieldsOf_filter h.keys, hn, Option.map_some, Setting.toJson]
  cases kept k
  · rfl
  · rw [if_pos rfl, if_pos rfl, Option.bind_some, hread, Option.getD_some]

end Suits

end Toml

/-! ### Sections of a configuration -/

/-- What is kept of the settings of connections, the rest being the defaults. -/
def ConnectionConfig.keeping (c : ConnectionConfig) (kept : String → Bool) : ConnectionConfig where
  host := if kept "host" then c.host else default.host
  token := if kept "token" then c.token else default.token

/-- What is kept of the settings of the monitoring API. -/
def MonitorConfig.keeping (c : MonitorConfig) (kept : String → Bool) : MonitorConfig where
  api := if kept "api" then c.api else default.api
  showMonitorEvents :=
    if kept "show_monitor_events" then c.showMonitorEvents else default.showMonitorEvents
  showPermissions := if kept "show_permissions" then c.showPermissions else default.showPermissions

/-- What is kept of the settings of the log. -/
def LogConfig.keeping (c : LogConfig) (kept : String → Bool) : LogConfig where
  enabled := if kept "enabled" then c.enabled else default.enabled
  maxEntries := if kept "max_entries" then c.maxEntries else default.maxEntries

/-- What is kept of the settings of trace events. -/
def TraceConfig.keeping (c : TraceConfig) (kept : String → Bool) : TraceConfig where
  maxEvents := if kept "max_events" then c.maxEvents else default.maxEvents
  descriptorDepth := if kept "descriptor_depth" then c.descriptorDepth else default.descriptorDepth
  dataDepth := if kept "data_depth" then c.dataDepth else default.dataDepth

/-- What is kept of the settings of colors. -/
def StyleConfig.keeping (c : StyleConfig) (kept : String → Bool) : StyleConfig where
  enabled := if kept "enabled" then c.enabled else default.enabled
  number := if kept "number" then c.number else default.number
  string := if kept "string" then c.string else default.string
  boolean := if kept "boolean" then c.boolean else default.boolean
  null := if kept "null" then c.null else default.null
  json := if kept "json" then c.json else default.json
  key := if kept "key" then c.key else default.key
  tag := if kept "tag" then c.tag else default.tag
  error := if kept "error" then c.error else default.error

/-- What is kept of a configuration, by section and key, the rest being the defaults. -/
def Config.keeping (c : Config) (kept : String → String → Bool) : Config where
  connection := c.connection.keeping (kept "connection")
  monitor := c.monitor.keeping (kept "monitor")
  log := c.log.keeping (kept "log")
  trace := c.trace.keeping (kept "trace")
  style := c.style.keeping (kept "style")

open Toml

theorem ConnectionConfig.suits (c : ConnectionConfig) : Suits rules c.settings where
  writable := by
    cases h : c.token <;> simp [settings, h, Setting.Fits] <;> decide +kernel
  keys := by cases h : c.token <;> simp [settings, h]
  check := by
    cases h : c.token <;>
      simp [settings, h, rules, FieldRule.string, FieldRule.optionalString, Setting.toJson,
        FieldRule.isString, FieldRule.orNull]
  optional := by simp [rules, FieldRule.string, FieldRule.optionalString]

theorem ConnectionConfig.ofJson_filter (c : ConnectionConfig) (kept : String → Bool) :
    ofJson (.object (fieldsOf (c.settings.filter fun e => kept e.1))) = .ok (c.keeping kept) := by
  have htoken : Entries.lookup? "token" c.settings = c.token.map .text := by
    cases h : c.token <;> simp [settings, Entries.lookup?, h]
  rw [ofJson, c.suits.fields?_filter, Except.map, keeping]
  congr 2
  · exact c.suits.string_filter kept (by simp [settings, Entries.lookup?]) _
  · exact c.suits.string?_filter kept htoken

theorem MonitorConfig.suits (c : MonitorConfig) : Suits rules c.settings where
  writable := by
    simp [settings, Setting.Fits]
    decide +kernel
  keys := by simp [settings]
  check := by
    simp [settings, rules, FieldRule.string, FieldRule.bool, Setting.toJson, FieldRule.isString,
      FieldRule.isBool]
  optional := by simp [rules, FieldRule.string, FieldRule.bool]

theorem MonitorConfig.ofJson_filter (c : MonitorConfig) (kept : String → Bool) :
    ofJson (.object (fieldsOf (c.settings.filter fun e => kept e.1))) = .ok (c.keeping kept) := by
  rw [ofJson, c.suits.fields?_filter, Except.map, keeping]
  congr 2
  · exact c.suits.string_filter kept (by simp [settings, Entries.lookup?]) _
  · exact c.suits.bool_filter kept (by simp [settings, Entries.lookup?]) _
  · exact c.suits.bool_filter kept (by simp [settings, Entries.lookup?]) _

/-- Whether the counts fit 64 bits. -/
structure LogConfig.Fits (c : LogConfig) : Prop where
  maxEntries : c.maxEntries < 0x10000000000000000

theorem LogConfig.suits {c : LogConfig} (h : c.Fits) : Suits rules c.settings where
  writable := by
    simp [settings, Setting.Fits, h.maxEntries]
    decide +kernel
  keys := by simp [settings]
  check := by
    have := h.maxEntries
    simp [settings, rules, FieldRule.nat, FieldRule.bool, Setting.toJson, FieldRule.isNat64,
      FieldRule.isBool, Json.int]
    omega
  optional := by simp [rules, FieldRule.nat, FieldRule.bool]

theorem LogConfig.ofJson_filter {c : LogConfig} (h : c.Fits) (kept : String → Bool) :
    ofJson (.object (fieldsOf (c.settings.filter fun e => kept e.1))) = .ok (c.keeping kept) := by
  rw [ofJson, (suits h).fields?_filter, Except.map, keeping]
  congr 2
  · exact (suits h).bool_filter kept (by simp [settings, Entries.lookup?]) _
  · exact (suits h).nat_filter kept h.maxEntries (by simp [settings, Entries.lookup?]) _

/-- Whether the counts fit 64 bits. -/
structure TraceConfig.Fits (c : TraceConfig) : Prop where
  maxEvents : c.maxEvents < 0x10000000000000000
  descriptorDepth : c.descriptorDepth < 0x10000000000000000
  dataDepth : c.dataDepth < 0x10000000000000000

theorem TraceConfig.suits {c : TraceConfig} (h : c.Fits) : Suits rules c.settings where
  writable := by
    simp [settings, Setting.Fits, h.maxEvents, h.descriptorDepth, h.dataDepth]
    decide +kernel
  keys := by simp [settings]
  check := by
    obtain ⟨_, _, _⟩ := h
    simp [settings, rules, FieldRule.nat, Setting.toJson, FieldRule.isNat64, Json.int]
    omega
  optional := by simp [rules, FieldRule.nat]

theorem TraceConfig.ofJson_filter {c : TraceConfig} (h : c.Fits) (kept : String → Bool) :
    ofJson (.object (fieldsOf (c.settings.filter fun e => kept e.1))) = .ok (c.keeping kept) := by
  rw [ofJson, (suits h).fields?_filter, Except.map, keeping]
  congr 2
  · exact (suits h).nat_filter kept h.maxEvents (by simp [settings, Entries.lookup?]) _
  · exact (suits h).nat_filter kept h.descriptorDepth (by simp [settings, Entries.lookup?]) _
  · exact (suits h).nat_filter kept h.dataDepth (by simp [settings, Entries.lookup?]) _

theorem StyleConfig.suits (c : StyleConfig) : Suits rules c.settings where
  writable := by
    simp [settings, Setting.Fits]
    decide +kernel
  keys := by simp [settings]
  check := by
    simp [settings, rules, FieldRule.string, FieldRule.bool, Setting.toJson, FieldRule.isString,
      FieldRule.isBool]
  optional := by simp [rules, FieldRule.string, FieldRule.bool]

theorem StyleConfig.ofJson_filter (c : StyleConfig) (kept : String → Bool) :
    ofJson (.object (fieldsOf (c.settings.filter fun e => kept e.1))) = .ok (c.keeping kept) := by
  rw [ofJson, c.suits.fields?_filter, Except.map, keeping]
  congr 2
  · exact c.suits.bool_filter kept (by simp [settings, Entries.lookup?]) _
  all_goals exact c.suits.string_filter kept (by simp [settings, Entries.lookup?]) _

/-! ### The configuration -/

namespace Config

/-- Whether every count fits 64 bits. -/
structure Fits (c : Config) : Prop where
  log : c.log.Fits
  trace : c.trace.Fits

theorem writable_sections {c : Config} (h : c.Fits) : ∀ s ∈ c.sections, s.Writable := by
  obtain ⟨hconnection, hmonitor, hlog, htrace, hstyle⟩ : IsBare "connection" ∧ IsBare "monitor" ∧
    IsBare "log" ∧ IsBare "trace" ∧ IsBare "style" := by decide +kernel
  simp only [sections, List.forall_mem_cons]
  exact ⟨⟨hconnection, c.connection.suits.writable⟩, ⟨hmonitor, c.monitor.suits.writable⟩,
    ⟨hlog, (LogConfig.suits h.log).writable⟩, ⟨htrace, (TraceConfig.suits h.trace).writable⟩,
    ⟨hstyle, c.style.suits.writable⟩, nofun⟩

theorem nodup_names (c : Config) : (c.sections.map Section.name).Nodup := by
  simp [sections]

/-- No two parts of the text of a configuration are the same. -/
theorem nodup_parts (c : Config) : ((parts c.sections).map Prod.fst).Nodup := by
  cases htoken : c.connection.token <;>
    simp [parts, partsAfter, Section.parts, sections, ConnectionConfig.settings, htoken,
      MonitorConfig.settings, LogConfig.settings, TraceConfig.settings, StyleConfig.settings]

theorem nodup_keys {c : Config} (h : c.Fits) :
    ∀ s ∈ c.sections, (s.settings.map Prod.fst).Nodup := by
  simp only [sections, List.forall_mem_cons]
  exact ⟨c.connection.suits.keys, c.monitor.suits.keys, (LogConfig.suits h.log).keys,
    (TraceConfig.suits h.trace).keys, c.style.suits.keys, nofun⟩

/-- A section that is read whatever stays of it is not refused. -/
theorem check_sectionRule_thin {α : Type} (stays : Part → Bool) (s : Section)
    {read : Json → Except Mismatch α} {value : (String → Bool) → α}
    (hread : ∀ kept, read (.object (fieldsOf (s.settings.filter fun e => kept e.1))) =
      .ok (value kept)) :
    (sectionRule s.name read).check (.object (fieldsOf (s.thin stays).settings)) = .ok () := by
  show (read _).map _ = .ok ()
  rw [Section.thin, hread fun key => stays (.setting s.name key)]
  rfl

/-- No section of a configuration is refused, whatever stays of it. -/
theorem check_thinned (stays : Part → Bool) {c : Config} (h : c.Fits) :
    ∀ e ∈ documentFields (thinned stays c.sections), ∀ r,
      (rules.find? fun r => r.name == e.1) = some r → r.check e.2 = .ok () := by
  intro e he r hr
  obtain ⟨t, ht, rfl⟩ := mem_documentFields he
  obtain ⟨s, hs, rfl⟩ := List.mem_map.1 ht
  replace hs := (List.mem_filter.1 hs).1
  -- the rule of a section depends on its type, so there is a case for each
  simp only [sections, List.mem_cons, List.not_mem_nil, or_false] at hs
  rcases hs with rfl | rfl | rfl | rfl | rfl
  all_goals obtain rfl := Option.some.inj hr
  · exact check_sectionRule_thin stays ⟨_, c.connection.settings⟩ c.connection.ofJson_filter
  · exact check_sectionRule_thin stays ⟨_, c.monitor.settings⟩ c.monitor.ofJson_filter
  · exact check_sectionRule_thin stays ⟨_, c.log.settings⟩ (LogConfig.ofJson_filter h.log)
  · exact check_sectionRule_thin stays ⟨_, c.trace.settings⟩ (TraceConfig.ofJson_filter h.trace)
  · exact check_sectionRule_thin stays ⟨_, c.style.settings⟩ c.style.ofJson_filter

/-- A section that is an object is looked at as a whole. -/
theorem map_withoutSurplus_document (sections : List Section) :
    (document sections).map withoutSurplus = document sections := by
  have hsame : ∀ e ∈ document sections, withoutSurplus e = e := by
    intro e he
    obtain ⟨s, -, rfl⟩ := (Entries.mem_foldl_insert Section.name Section.value he).resolve_right
      List.not_mem_nil
    unfold withoutSurplus
    split
    case h_1 htable => contradiction
    case h_2 => rfl
  exact (List.map_congr_left hsame).trans (List.map_id _)

section Read

variable {stays : Part → Bool}
  (hstays : ∀ name key, stays (.setting name key) = true → stays (.header name) = true)

include hstays

/-- A section is read with the settings that stay. Where the section does not stay, none of its
settings does. -/
theorem readSection_thinned {α : Type} {sections : List Section}
    (hnames : (sections.map Section.name).Nodup) {s : Section} (hs : s ∈ sections)
    {read : Json → Except Mismatch α} {value : (String → Bool) → α}
    (hread : ∀ kept, read (.object (fieldsOf (s.settings.filter fun e => kept e.1))) =
      .ok (value kept)) :
    readSection (documentFields (thinned stays sections)) s.name read (value fun _ => false) =
      value fun key => stays (.setting s.name key) := by
  rw [readSection, lookup?_documentFields_thinned stays hnames hs]
  cases hheader : stays (.header s.name) with
  | true =>
    rw [if_pos rfl, Option.map_some, Section.thin, hread fun key => stays (.setting s.name key)]
  | false =>
    have hnone : (fun key => stays (.setting s.name key)) = fun _ => false := by
      funext key
      refine Bool.eq_false_iff.2 fun hkey => ?_
      rw [hstays s.name key hkey] at hheader
      contradiction
    rw [hnone]
    rfl

/-- **A document that has some of the settings of a configuration is read as what they say**, the
other settings being the defaults. -/
theorem ofJson_thinned {c : Config} (h : c.Fits) :
    ofJson (.object (documentFields (thinned stays c.sections))) =
      .ok (c.keeping fun name key => stays (.setting name key)) := by
  rw [ofJson, Record.fields?_object (by simp [rules, sectionRule]) (check_thinned stays h),
    Except.map, keeping]
  congr 2
  · exact readSection_thinned hstays c.nodup_names (s := ⟨"connection", c.connection.settings⟩)
      (by simp [sections]) c.connection.ofJson_filter
  · exact readSection_thinned hstays c.nodup_names (s := ⟨"monitor", c.monitor.settings⟩)
      (by simp [sections]) c.monitor.ofJson_filter
  · exact readSection_thinned hstays c.nodup_names (s := ⟨"log", c.log.settings⟩)
      (by simp [sections]) (LogConfig.ofJson_filter h.log)
  · exact readSection_thinned hstays c.nodup_names (s := ⟨"trace", c.trace.settings⟩)
      (by simp [sections]) (TraceConfig.ofJson_filter h.trace)
  · exact readSection_thinned hstays c.nodup_names (s := ⟨"style", c.style.settings⟩)
      (by simp [sections]) c.style.ofJson_filter

/-- **A configuration is parsed from its text with any of its settings left out.** -/
theorem parse_remaining {c : Config} (h : c.Fits) :
    parse (remaining stays c.sections) =
      .ok (c.keeping fun name key => stays (.setting name key)) := by
  have hread := read?_remaining (writable_sections h) c.nodup_names (nodup_keys h) hstays
  rw [parse, hread]
  show ofEntries (document (thinned stays c.sections)) = _
  rw [ofEntries, map_withoutSurplus_document, entriesToJson?_document]
  show (ofJson (.object (documentFields (thinned stays c.sections)))).mapError _ = _
  rw [ofJson_thinned hstays h]
  rfl

end Read

/-- A file is loaded as its text is parsed. -/
theorem load_toUTF8 (text : String) :
    load (.bytes text.toUTF8) = (parse text).map fun c => ⟨c, none⟩ := by
  have htext : FileContent.text? (.bytes text.toUTF8) = some text :=
    dif_pos text.isValidUTF8
  simp only [load, htext]

theorem keeping_all (c : Config) : (c.keeping fun _ _ => true) = c := rfl

theorem remaining_all (c : Config) : remaining (fun _ => true) c.sections = c.text := by
  rw [text, write_eq_parts, remaining, remainingTexts, List.filter_true]

/-- **A configuration is loaded as it was saved, and what was left out has its default.** The text
that is saved is made of parts, no two of them the same. Whichever of them stay, settings only where
the line that opens their section does, what they say is loaded and the rest is left at its default;
if all of them stay, the configuration is the one that was saved. -/
theorem load_remaining {c : Config} (h : c.Fits) :
    c.text = String.ofList ((parts c.sections).map Prod.snd).flatten ∧
    ((parts c.sections).map Prod.fst).Nodup ∧
    (∀ stays : Part → Bool,
      (∀ name key, stays (.setting name key) = true → stays (.header name) = true) →
      load (.bytes (remaining stays c.sections).toUTF8) =
        .ok ⟨c.keeping fun name key => stays (.setting name key), none⟩) ∧
    load (.bytes c.text.toUTF8) = .ok ⟨c, none⟩ := by
  have hload (stays : Part → Bool)
      (hstays : ∀ name key, stays (.setting name key) = true → stays (.header name) = true) :
      load (.bytes (remaining stays c.sections).toUTF8) =
        .ok ⟨c.keeping fun name key => stays (.setting name key), none⟩ := by
    rw [load_toUTF8, parse_remaining hstays h]
    rfl
  have hall := hload (fun _ => true) fun _ _ _ => rfl
  rw [remaining_all, keeping_all] at hall
  exact ⟨write_eq_parts c.sections, c.nodup_parts, hload, hall⟩

/-- Without the section of the log and without the token, a configuration whose texts hold quotes,
backslashes, line breaks and control characters is loaded as what is left of it. -/
theorem load_remaining_without_log :
    let c : Config := { default with
      connection := ⟨"'''\n\"\"\"\"\\\x01", some "\r\n'"⟩
      monitor := ⟨"\n\\\"\n", true, true⟩
      log := ⟨true, 0xffffffffffffffff⟩ }
    let stays : Part → Bool := fun
      | .gap name | .header name => name != "log"
      | .setting name key => name != "log" && key != "token"
    c.Fits ∧
    (∀ name key, stays (.setting name key) = true → stays (.header name) = true) ∧
    load (.bytes (remaining stays c.sections).toUTF8) =
      .ok ⟨{ c with connection := ⟨c.connection.host, none⟩, log := .default }, none⟩ ∧
    load (.bytes c.text.toUTF8) = .ok ⟨c, none⟩ := by
  intro c stays
  have hfits : c.Fits := ⟨⟨by decide⟩, ⟨by decide, by decide, by decide⟩⟩
  have hstays : ∀ name key, stays (.setting name key) = true → stays (.header name) = true :=
    fun name key h => (Bool.and_eq_true_iff.1 h).1
  obtain ⟨-, -, hload, hall⟩ := load_remaining hfits
  refine ⟨hfits, hstays, ?_, hall⟩
  rw [hload stays hstays]
  rfl

end Config

end LiveTrace
