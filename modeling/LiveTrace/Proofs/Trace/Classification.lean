import LiveTrace.Proofs.Json.Record
import LiveTrace.Trace.Event
/-!
# LiveTrace.Proofs.Trace.Classification

**Which pushed events are trace events.** The grammar of trace events is given apart from the
classifier: which descriptor of a payload counts (`Classification.Counts`), and which fields of it
spell out what the event is about (`TraceVariant.IsSpelledBy`). The classifier takes a payload for a
trace event if and only if it is one by this grammar (`Classification.accepts_grammar`).

Nothing but the descriptor that counts decides, and whether the events of the monitoring API are
shown only replaces them (`Classification.priority_and_filter_overlay`).
-/

namespace LiveTrace

/-! ### Descriptors -/

namespace TraceVariant

variable {fields : List (String × Json)}

/-- The fields of a descriptor spell out what it is about. Other fields do not matter. -/
def IsSpelledBy (fields : List (String × Json)) : TraceVariant → Prop
  | request api verb index action =>
    Entries.lookup? "api" fields = some (.string api) ∧
      Entries.lookup? "verb" fields = some (.string verb) ∧
      (Entries.lookup? "index" fields = some (.int index) ∧
        -0x8000000000000000 ≤ index ∧ index < 0x8000000000000000) ∧
      Entries.lookup? "action" fields = some (.string action)
  | service api action | daemon api action =>
    Entries.lookup? "api" fields = some (.string api) ∧
      Entries.lookup? "action" fields = some (.string action)
  | event name action =>
    Entries.lookup? "name" fields = some (.string name) ∧
      Entries.lookup? "action" fields = some (.string action)

/-- What is spelled out is what is read. -/
theorem IsSpelledBy.ofFields_eq {variant : TraceVariant} (h : variant.IsSpelledBy fields) :
    ofFields fields variant.kind = variant := by
  cases variant with
  | request api verb index action =>
    obtain ⟨hapi, hverb, ⟨hindex, hlow, hhigh⟩, haction⟩ := h
    simp only [kind, ofFields, Record.string_eq hapi, Record.string_eq hverb,
      Record.int_eq hindex hlow hhigh, Record.string_eq haction]
  | service api action | daemon api action =>
    obtain ⟨hapi, haction⟩ := h
    simp only [kind, ofFields, Record.string_eq hapi, Record.string_eq haction]
  | event name action =>
    obtain ⟨hname, haction⟩ := h
    simp only [kind, ofFields, Record.string_eq hname, Record.string_eq haction]

/-- The rules of a kind are met where the fields spell out a descriptor of this kind. -/
theorem forall_isMet_iff {kind : TraceKind} :
    (∀ r ∈ kind.rules, r.IsMet fields) ↔
      ∃ variant : TraceVariant, variant.kind = kind ∧ variant.IsSpelledBy fields := by
  constructor
  · intro h
    cases kind with
    | request =>
      simp only [TraceKind.rules, List.forall_mem_cons, FieldRule.isMet_requiredString,
        FieldRule.isMet_requiredInt] at h
      obtain ⟨⟨api, hapi⟩, ⟨verb, hverb⟩, ⟨index, hindex⟩, ⟨action, haction⟩, -⟩ := h
      exact ⟨.request api verb index action, rfl, hapi, hverb, hindex, haction⟩
    | service =>
      simp only [TraceKind.rules, List.forall_mem_cons, FieldRule.isMet_requiredString] at h
      obtain ⟨⟨api, hapi⟩, ⟨action, haction⟩, -⟩ := h
      exact ⟨.service api action, rfl, hapi, haction⟩
    | daemon =>
      simp only [TraceKind.rules, List.forall_mem_cons, FieldRule.isMet_requiredString] at h
      obtain ⟨⟨api, hapi⟩, ⟨action, haction⟩, -⟩ := h
      exact ⟨.daemon api action, rfl, hapi, haction⟩
    | event =>
      simp only [TraceKind.rules, List.forall_mem_cons, FieldRule.isMet_requiredString] at h
      obtain ⟨⟨name, hname⟩, ⟨action, haction⟩, -⟩ := h
      exact ⟨.event name action, rfl, hname, haction⟩
  · rintro ⟨variant, rfl, h⟩
    cases variant with
    | request api verb index action =>
      simp only [kind, TraceKind.rules, List.forall_mem_cons, FieldRule.isMet_requiredString,
        FieldRule.isMet_requiredInt]
      obtain ⟨hapi, hverb, hindex, haction⟩ := h
      exact ⟨⟨_, hapi⟩, ⟨_, hverb⟩, ⟨_, hindex⟩, ⟨_, haction⟩, by simp⟩
    | service api action | daemon api action =>
      simp only [kind, TraceKind.rules, List.forall_mem_cons, FieldRule.isMet_requiredString]
      exact ⟨⟨_, h.1⟩, ⟨_, h.2⟩, by simp⟩
    | event name action =>
      simp only [kind, TraceKind.rules, List.forall_mem_cons, FieldRule.isMet_requiredString]
      exact ⟨⟨_, h.1⟩, ⟨_, h.2⟩, by simp⟩

/-- **A descriptor is read as what its fields spell out**, and only then. -/
theorem ofJson_eq_ok_iff (hkeys : (fields.map Prod.fst).Nodup) {kind : TraceKind}
    {variant : TraceVariant} :
    ofJson kind (.object fields) = .ok variant ↔
      variant.kind = kind ∧ variant.IsSpelledBy fields := by
  have hnames : (kind.rules.map FieldRule.name).Nodup := by cases kind <;> decide
  have hform {l : List (String × Json)} :
      Record.fields? kind.key kind.rules (.object fields) = .ok l ↔ l = fields ∧
        ∃ variant : TraceVariant, variant.kind = kind ∧ variant.IsSpelledBy fields := by
    rw [Record.fields?_object_iff_isMet hkeys hnames, forall_isMet_iff]
  unfold ofJson
  constructor
  · intro h
    cases hfields : Record.fields? kind.key kind.rules (.object fields) with
    | error e =>
      rw [hfields] at h
      contradiction
    | ok l =>
      obtain ⟨rfl, variant', rfl, hspelled⟩ := hform.1 hfields
      rw [hfields] at h
      have hvariant : ofFields l variant'.kind = variant := Except.ok.inj h
      rw [hspelled.ofFields_eq] at hvariant
      exact hvariant ▸ ⟨rfl, hspelled⟩
  · rintro ⟨rfl, hspelled⟩
    rw [hform.2 ⟨rfl, variant, rfl, hspelled⟩, Except.map, hspelled.ofFields_eq]

/-- A descriptor names the monitoring API: as the API concerned, or as the API of the event
concerned. -/
def Names (monitorApi : String) : TraceVariant → Prop
  | request api .. | service api _ | daemon api _ => api = monitorApi
  | event name _ => ∃ rest, name = monitorApi ++ "/" ++ rest

theorem isSelfGenerated_iff {monitorApi : String} {variant : TraceVariant} :
    variant.isSelfGenerated monitorApi = true ↔ variant.Names monitorApi := by
  cases variant with
  | request api verb index action => exact beq_iff_eq
  | service api action | daemon api action => exact beq_iff_eq
  | event name action =>
    refine List.isPrefixOf_iff_prefix.trans ⟨?_, ?_⟩
    · rintro ⟨rest, hrest⟩
      refine ⟨String.ofList rest, String.toList_injective ?_⟩
      rw [← hrest]
      simp
    · rintro ⟨rest, rfl⟩
      exact ⟨rest.toList, by simp⟩

end TraceVariant

namespace Classification

/-! ### Payloads -/

/-- The value under the first of the keys of descriptors that is present in a payload. -/
inductive Counts (data : List (String × Json)) : TraceKind → Json → Prop
  | request {v : Json} (h : Entries.lookup? "request" data = some v) : Counts data .request v
  | service {v : Json} (hrequest : Entries.lookup? "request" data = none)
      (h : Entries.lookup? "service" data = some v) : Counts data .service v
  | daemon {v : Json} (hrequest : Entries.lookup? "request" data = none)
      (hservice : Entries.lookup? "service" data = none)
      (h : Entries.lookup? "daemon" data = some v) : Counts data .daemon v
  | event {v : Json} (hrequest : Entries.lookup? "request" data = none)
      (hservice : Entries.lookup? "service" data = none)
      (hdaemon : Entries.lookup? "daemon" data = none)
      (h : Entries.lookup? "event" data = some v) : Counts data .event v

variable {options : ClassifyOptions} {data : List (String × Json)}

/-- The classifier looks at the descriptor that counts. -/
theorem descriptor?_eq_some_iff {kind : TraceKind} {v : Json} :
    descriptor? data = some (kind, v) ↔ Counts data kind v := by
  simp only [descriptor?, TraceKind.all, TraceKind.key, List.findSome?_cons, List.findSome?_nil]
  constructor
  · intro h
    cases hrequest : Entries.lookup? "request" data with
    | some w =>
      obtain ⟨rfl, rfl⟩ : .request = kind ∧ w = v := by simpa [hrequest] using h
      exact .request hrequest
    | none =>
      cases hservice : Entries.lookup? "service" data with
      | some w =>
        obtain ⟨rfl, rfl⟩ : .service = kind ∧ w = v := by simpa [hrequest, hservice] using h
        exact .service hrequest hservice
      | none =>
        cases hdaemon : Entries.lookup? "daemon" data with
        | some w =>
          obtain ⟨rfl, rfl⟩ : .daemon = kind ∧ w = v := by
            simpa [hrequest, hservice, hdaemon] using h
          exact .daemon hrequest hservice hdaemon
        | none =>
          cases hevent : Entries.lookup? "event" data with
          | some w =>
            obtain ⟨rfl, rfl⟩ : .event = kind ∧ w = v := by
              simpa [hrequest, hservice, hdaemon, hevent] using h
            exact .event hrequest hservice hdaemon hevent
          | none => simp [hrequest, hservice, hdaemon, hevent] at h
  · rintro (h | ⟨hrequest, h⟩ | ⟨hrequest, hservice, h⟩ | ⟨hrequest, hservice, hdaemon, h⟩)
    · simp [h]
    · simp [hrequest, h]
    · simp [hrequest, hservice, h]
    · simp [hrequest, hservice, hdaemon, h]

/-- A payload carries a trace event: the descriptor that counts is an object whose fields spell out
what the event is about. -/
structure Carries (data : List (String × Json)) (variant : TraceVariant)
    (descriptor : List (String × Json)) : Prop where
  counts : Counts data variant.kind (.object descriptor)
  spelled : variant.IsSpelledBy descriptor

namespace Counts

theorem lookup? {kind : TraceKind} {v : Json} (h : Counts data kind v) :
    Entries.lookup? kind.key data = some v := by
  cases h <;> assumption

/-- One descriptor counts. -/
theorem unique {kind kind' : TraceKind} {v v' : Json} (h : Counts data kind v)
    (h' : Counts data kind' v') : kind = kind' ∧ v = v' := by
  have heq := (descriptor?_eq_some_iff.2 h).symm.trans (descriptor?_eq_some_iff.2 h')
  simpa using heq

end Counts

/-- **What becomes of a payload:** if it carries a trace event, the event or, where it is hidden,
what it is about; and a complaint if it carries none. -/
theorem ofPayload_cases (options : ClassifyOptions) (hdata : (Json.object data).Canonical) :
    (∃ variant descriptor, Carries data variant descriptor ∧
      (ofPayload options data = .suppressed variant ∨
        ofPayload options data = .trace (traceEvent data descriptor variant))) ∨
    (¬ ∃ variant descriptor, Carries data variant descriptor) ∧
      ∃ reason, ofPayload options data = .malformed reason := by
  unfold ofPayload
  split
  · rename_i hnone
    refine .inr ⟨?_, _, rfl⟩
    rintro ⟨variant, descriptor, hcarries⟩
    rw [descriptor?_eq_some_iff.2 hcarries.counts] at hnone
    contradiction
  · rename_i kind descriptor hobject
    have hcounts := descriptor?_eq_some_iff.1 hobject
    have hread {variant : TraceVariant} :
        TraceVariant.ofJson kind (.object descriptor) = .ok variant ↔
          variant.kind = kind ∧ variant.IsSpelledBy descriptor :=
      TraceVariant.ofJson_eq_ok_iff (hdata.of_lookup? hcounts.lookup?).nodup_keys
    split
    · rename_i e herror
      refine .inr ⟨?_, _, rfl⟩
      rintro ⟨variant, descriptor', hcarries⟩
      obtain ⟨hkind, hdescriptor⟩ := hcarries.counts.unique hcounts
      obtain rfl := Json.object.inj hdescriptor
      rw [hread.2 ⟨hkind, hcarries.spelled⟩] at herror
      contradiction
    · rename_i variant hvariant
      obtain ⟨rfl, hspelled⟩ := hread.1 hvariant
      refine .inl ⟨variant, descriptor, ⟨hcounts, hspelled⟩, ?_⟩
      split
      · exact .inl rfl
      · exact .inr rfl
  · rename_i kind v hother hv
    refine .inr ⟨?_, _, rfl⟩
    rintro ⟨variant, descriptor, hcarries⟩
    obtain ⟨-, hdescriptor⟩ := hcarries.counts.unique (descriptor?_eq_some_iff.1 hv)
    exact hother descriptor hdescriptor.symm

/-! ### Pushed events -/

/-- A pushed event carries a trace event if its payload is an object that does. -/
def CarriesTrace (push : PushEvent) : Prop :=
  ∃ data variant descriptor, push.data = some (.object data) ∧ Carries data variant descriptor

theorem ofPush_of_ne {push : PushEvent} (h : push.event ≠ options.monitorApi ++ "/trace") :
    ofPush options push = .unexpected push := if_neg h

theorem ofPush_of_eq {push : PushEvent} (h : push.event = options.monitorApi ++ "/trace") :
    ofPush options push =
      match push.data with
      | some (.object data) => ofPayload options data
      | _ => .malformed "trace event without object payload" := if_pos h

theorem ofPush_cases {push : PushEvent} (hname : push.event = options.monitorApi ++ "/trace")
    (hcanonical : ∀ v ∈ push.data, v.Canonical) :
    (∃ data variant descriptor, push.data = some (.object data) ∧ Carries data variant descriptor ∧
      (ofPush options push = .suppressed variant ∨
        ofPush options push = .trace (traceEvent data descriptor variant))) ∨
    ¬ CarriesTrace push ∧ ∃ reason, ofPush options push = .malformed reason := by
  rw [ofPush_of_eq hname]
  split
  · rename_i data hdata
    rcases ofPayload_cases options (hcanonical _ hdata) with
      ⟨variant, descriptor, hcarries, hshown⟩ | ⟨hnone, hmalformed⟩
    · exact .inl ⟨data, variant, descriptor, hdata, hcarries, hshown⟩
    · refine .inr ⟨?_, hmalformed⟩
      rintro ⟨data', variant, descriptor, hdata', hcarries⟩
      obtain rfl := Json.object.inj (Option.some.inj (hdata'.symm.trans hdata))
      exact hnone ⟨variant, descriptor, hcarries⟩
  · rename_i hother
    refine .inr ⟨?_, _, rfl⟩
    rintro ⟨data, variant, descriptor, hdata, -⟩
    exact hother data hdata

/-- **Trace events are those of the grammar.** Take any pushed event with a canonical payload, as
everything is that is read, or with none. It is unexpected if and only if its name is not that of
trace events, and it is then handed on as it is. If it has the name, the payload decides: it is
taken for a trace event, shown or not, if and only if it carries one, and complained about
otherwise. What is shown or hidden is what the payload carries, and what is shown has the whole
descriptor, and the data of the payload. -/
theorem accepts_grammar (options : ClassifyOptions) (push : PushEvent)
    (hcanonical : ∀ v ∈ push.data, v.Canonical) :
    let c := ofPush options push
    ((∃ other, c = .unexpected other) ↔ push.event ≠ options.monitorApi ++ "/trace") ∧
      (∀ other, c = .unexpected other → other = push) ∧
      (push.event = options.monitorApi ++ "/trace" →
        (((∃ event, c = .trace event) ∨ ∃ variant, c = .suppressed variant) ↔ CarriesTrace push) ∧
          ((∃ reason, c = .malformed reason) ↔ ¬ CarriesTrace push)) ∧
      (∀ event, c = .trace event → ∃ data, push.data = some (.object data) ∧
        Carries data event.variant event.descriptor ∧ event.data = Entries.lookup? "data" data) ∧
      ∀ variant, c = .suppressed variant → ∃ data descriptor,
        push.data = some (.object data) ∧ Carries data variant descriptor := by
  intro c
  by_cases hname : push.event = options.monitorApi ++ "/trace"
  · rcases ofPush_cases hname hcanonical with
      ⟨data, variant, descriptor, hdata, hcarries, hsuppressed | htrace⟩ |
        ⟨hnone, reason, hmalformed⟩
    · have hpush : CarriesTrace push := ⟨data, variant, descriptor, hdata, hcarries⟩
      simpa [c, hsuppressed, hname, hpush] using ⟨data, hdata, descriptor, hcarries⟩
    · have hpush : CarriesTrace push := ⟨data, variant, descriptor, hdata, hcarries⟩
      simpa [c, htrace, hname, hpush] using ⟨data, hdata, hcarries, rfl⟩
    · simp [c, hmalformed, hname, hnone]
  · simp [c, ofPush_of_ne hname, hname]

/-- A request with the least index and a field to spare, beside a service that is no object; and the
same request with an index that does not fit. -/
theorem accepts_grammar_least :
    let push (index : Int) : PushEvent := ⟨"monitor/trace", some (.object
      [("data", .null), ("request", .object [("action", .string "begin"), ("api", .string "calc"),
        ("index", .int index), ("uuid", .string "x"), ("verb", .string "add")]),
      ("service", .string "x")])⟩
    CarriesTrace (push (-0x8000000000000000)) ∧ ¬ CarriesTrace (push 0x8000000000000000) := by
  intro push
  have hcanonical (index : Int) (hlow : -0x8000000000000000 ≤ index)
      (hhigh : index < 0x10000000000000000) : ∀ v ∈ (push index).data, v.Canonical := by
    simp [push, Json.Canonical, Json.FieldsCanonical, Json.int, Json.Number.InRange,
      Entries.Ascending, hlow, hhigh]
    decide +kernel
  have hleast := accepts_grammar ⟨"monitor", false⟩ (push (-0x8000000000000000))
    (hcanonical _ (by decide) (by decide))
  have hbeyond := accepts_grammar ⟨"monitor", false⟩ (push 0x8000000000000000)
    (hcanonical _ (by decide) (by decide))
  exact ⟨(hleast.2.2.1 rfl).1.1 (.inl ⟨_, rfl⟩), (hbeyond.2.2.1 rfl).2.1 ⟨_, rfl⟩⟩

/-! ### What decides -/

/-- Hide a trace event that the monitoring API caused. -/
def hide (monitorApi : String) : Classification → Classification
  | .trace event =>
    if event.variant.isSelfGenerated monitorApi then .suppressed event.variant else .trace event
  | c => c

theorem ofPayload_hidden (monitorApi : String) (data : List (String × Json)) :
    ofPayload ⟨monitorApi, false⟩ data = (ofPayload ⟨monitorApi, true⟩ data).hide monitorApi := by
  unfold ofPayload
  split
  · rfl
  · rename_i kind descriptor _
    cases TraceVariant.ofJson kind (.object descriptor) <;> rfl
  · rfl

/-- Where the trace events of the monitoring API are not shown, they are hidden and nothing else
changes. -/
theorem ofPush_hidden (monitorApi : String) (push : PushEvent) :
    ofPush ⟨monitorApi, false⟩ push = (ofPush ⟨monitorApi, true⟩ push).hide monitorApi := by
  by_cases hname : push.event = monitorApi ++ "/trace"
  · rw [ofPush_of_eq hname, ofPush_of_eq hname]
    split
    · exact ofPayload_hidden monitorApi _
    · rfl
  · rw [ofPush_of_ne hname, ofPush_of_ne hname]
    rfl

theorem ofPayload_ne_suppressed (monitorApi : String) (data : List (String × Json))
    (variant : TraceVariant) : ofPayload ⟨monitorApi, true⟩ data ≠ .suppressed variant := by
  unfold ofPayload
  split
  · exact nofun
  · rename_i kind descriptor _
    cases TraceVariant.ofJson kind (.object descriptor) <;> exact nofun
  · exact nofun

theorem ofPush_ne_suppressed (monitorApi : String) (push : PushEvent) (variant : TraceVariant) :
    ofPush ⟨monitorApi, true⟩ push ≠ .suppressed variant := by
  by_cases hname : push.event = monitorApi ++ "/trace"
  · rw [ofPush_of_eq hname]
    split
    · exact ofPayload_ne_suppressed monitorApi _ variant
    · exact nofun
  · rw [ofPush_of_ne hname]
    exact nofun

theorem descriptor?_congr {data data' : List (String × Json)}
    (h : ∀ kind v, Counts data kind v ↔ Counts data' kind v) :
    descriptor? data = descriptor? data' := by
  refine Option.ext fun ⟨kind, v⟩ => ?_
  rw [descriptor?_eq_some_iff, descriptor?_eq_some_iff, h]

/-- **Priority and filtering are overlays.** Two payloads with the same descriptor that counts, or
with none, and the same time, tag and data are classified alike, whatever else is in them and
whether or not that descriptor is well formed. And whether the trace events that the monitoring API
caused are shown decides about those events alone: shown, none is suppressed; hidden, each event
that names the API is replaced by what it is about, and everything else is as it was. -/
theorem priority_and_filter_overlay :
    (∀ (options : ClassifyOptions) (data data' : List (String × Json)),
      (∀ kind v, Counts data kind v ↔ Counts data' kind v) →
      (∀ k ∈ ["time", "tag", "data"], Entries.lookup? k data = Entries.lookup? k data') →
        ofPush options ⟨options.monitorApi ++ "/trace", some (.object data)⟩ =
          ofPush options ⟨options.monitorApi ++ "/trace", some (.object data')⟩) ∧
      ∀ (monitorApi : String) (push : PushEvent),
        let shown := ofPush ⟨monitorApi, true⟩ push
        let hidden := ofPush ⟨monitorApi, false⟩ push
        (∀ variant, shown ≠ .suppressed variant) ∧
          (∀ event, shown = .trace event → event.variant.Names monitorApi →
            hidden = .suppressed event.variant) ∧
          ((∀ event, shown = .trace event → ¬ event.variant.Names monitorApi) →
            hidden = shown) := by
  constructor
  · intro options data data' hcounts hlookup
    simp only [List.forall_mem_cons] at hlookup
    obtain ⟨htime, htag, hdata, -⟩ := hlookup
    have hevent (descriptor : List (String × Json)) (variant : TraceVariant) :
        traceEvent data descriptor variant = traceEvent data' descriptor variant := by
      rw [traceEvent, traceEvent, htime, htag, hdata]
    rw [ofPush_of_eq rfl, ofPush_of_eq rfl]
    show ofPayload options data = ofPayload options data'
    simp only [ofPayload, descriptor?_congr hcounts, hevent]
  · intro monitorApi push shown hidden
    have hhidden : hidden = shown.hide monitorApi := ofPush_hidden monitorApi push
    refine ⟨ofPush_ne_suppressed monitorApi push, ?_, ?_⟩
    · intro event hshown hnames
      rw [hhidden, hshown]
      exact if_pos (TraceVariant.isSelfGenerated_iff.2 hnames)
    · intro hnames
      rw [hhidden]
      cases hshown : shown with
      | trace event =>
        exact if_neg fun h => hnames event hshown (TraceVariant.isSelfGenerated_iff.1 h)
      | suppressed variant => rfl
      | unexpected other => rfl
      | malformed reason => rfl

/-- A request that is no object beside services that differ; and an event of an API whose name
begins like that of the monitoring API. -/
theorem priority_and_filter_overlay_lookalike :
    let ofApi (api : String) : PushEvent := ⟨"monitor/trace", some (.object [("request", .null),
      ("service", .object [("action", .string "init"), ("api", .string api)])])⟩
    let ofEvent (name : String) : PushEvent := ⟨"monitor/trace", some (.object
      [("event", .object [("action", .string "push"), ("name", .string name)])])⟩
    let hidden : ClassifyOptions := ⟨"monitor", false⟩
    ofPush hidden (ofApi "monitor") = ofPush hidden (ofApi "calc") ∧
      ofPush hidden (ofEvent "monitor/x") = .suppressed (.event "monitor/x" "push") ∧
      ofPush hidden (ofEvent "monitoring/x") =
        ofPush ⟨"monitor", true⟩ (ofEvent "monitoring/x") := by
  intro ofApi ofEvent hidden
  refine ⟨priority_and_filter_overlay.1 hidden _ _ ?_ ?_, ?_, ?_⟩
  · intro kind v
    constructor
    · intro h
      obtain ⟨rfl, rfl⟩ := h.unique (.request rfl)
      exact .request rfl
    · intro h
      obtain ⟨rfl, rfl⟩ := h.unique (.request rfl)
      exact .request rfl
  · simp [Entries.lookup?]
  · exact (priority_and_filter_overlay.2 "monitor" (ofEvent "monitor/x")).2.1 _ rfl ⟨"x", by decide⟩
  · refine (priority_and_filter_overlay.2 "monitor" (ofEvent "monitoring/x")).2.2 ?_
    intro event hevent hnames
    obtain rfl := Classification.trace.inj hevent
    have hself := TraceVariant.isSelfGenerated_iff.2 hnames
    contradiction

end Classification

end LiveTrace
