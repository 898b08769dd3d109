import LiveTrace.Console.View
import LiveTrace.Proofs.Trace.Texts
import LiveTrace.Text.Basic
/-!
# LiveTrace.Proofs.Console.Colors

**Colors change nothing but colors.** Deleting the escape sequences of colors from what a console
writes (`Color.erase`) gives what it writes without colors, as long as no text that it is given has
an escape character of its own (`Console.erase_writeChars_append`). That is a fact about spans, so
it holds of every output that is made of spans without columns. What is left is to see which texts
get into an output as they are: JSON text does not count, because there the character is escaped.

A span in a column is another matter, because its width counts what is written, escape sequences
included. Trace events, registries, log entries and errors have no columns.
-/

namespace LiveTrace

namespace Color

/-! ### Deleting escape sequences -/

/-- What follows an escape sequence of colors at the front of a text. Colors are turned on by
`ESC[38;5;Nm`, where `N` is a number, and off by `ESC[39m`. -/
def afterSequence? : List Char → Option (List Char)
  | '\x1b' :: '[' :: '3' :: '9' :: 'm' :: rest => some rest
  | '\x1b' :: '[' :: '3' :: '8' :: ';' :: '5' :: ';' :: cs =>
    match cs.takeWhile Char.isDigit, cs.dropWhile Char.isDigit with
    | _ :: _, 'm' :: rest => some rest
    | _, _ => none
  | _ => none

theorem afterSequence?_length {cs rest : List Char} (h : afterSequence? cs = some rest) :
    rest.length < cs.length := by
  unfold afterSequence? at h
  split at h
  · cases h
    simp only [List.length_cons]
    omega
  · rename_i cs
    split at h
    · rename_i hdrop
      cases h
      have hlength := congrArg List.length hdrop
      have hle := (List.dropWhile_sublist Char.isDigit (l := cs)).length_le
      simp only [List.length_cons] at hlength ⊢
      omega
    · contradiction
  · contradiction

/-- A text without the escape sequences of colors. -/
def erase : List Char → List Char
  | [] => []
  | c :: cs =>
    match h : afterSequence? (c :: cs) with
    | some rest =>
      have : rest.length ≤ cs.length := Nat.le_of_lt_succ (afterSequence?_length h)
      erase rest
    | none => c :: erase cs
termination_by cs => cs.length

theorem afterSequence?_of_ne {c : Char} (h : c ≠ escape) (cs : List Char) :
    afterSequence? (c :: cs) = none := by
  unfold afterSequence?
  split
  · rename_i heq
    exact absurd (List.cons.inj heq).1 h
  · rename_i heq
    exact absurd (List.cons.inj heq).1 h
  · rfl

theorem erase_of_afterSequence? {cs rest : List Char} (h : afterSequence? cs = some rest) :
    erase cs = erase rest := by
  cases cs with
  | nil => contradiction
  | cons c cs =>
    rw [erase]
    split
    · rename_i hsome
      cases h.symm.trans hsome
      rfl
    · rename_i hnone
      rw [h] at hnone
      contradiction

/-- Text without escape characters stays as it is. -/
theorem erase_append {text : List Char} (h : escape ∉ text) (cs : List Char) :
    erase (text ++ cs) = text ++ erase cs := by
  induction text with
  | nil => rfl
  | cons c text ih =>
    rw [List.mem_cons, not_or] at h
    rw [List.cons_append, erase]
    split
    · rename_i hsome
      rw [afterSequence?_of_ne (Ne.symm h.1)] at hsome
      contradiction
    · rw [ih h.2]
      rfl

theorem afterSequence?_start (c : Color) (cs : List Char) :
    afterSequence? (c.start ++ cs) = some cs := by
  cases c <;> rfl

theorem afterSequence?_stop (cs : List Char) : afterSequence? (stop ++ cs) = some cs := rfl

/-- **Painting is undone.** -/
theorem erase_paint {text : List Char} (h : escape ∉ text) (c : Color) (cs : List Char) :
    erase (c.paint text ++ cs) = text ++ erase cs := by
  rw [paint, List.append_assoc, List.append_assoc,
    erase_of_afterSequence? (c.afterSequence?_start _), erase_append h,
    erase_of_afterSequence? (afterSequence?_stop cs)]

/-- A text without the escape sequences of colors. -/
def eraseText (s : String) : String := String.ofList (erase s.toList)

theorem eraseText_empty : eraseText "" = "" := by
  rw [eraseText, String.toList_empty, erase]

theorem eraseText_append {s : String} (h : escape ∉ s.toList) (more : String) :
    eraseText (s ++ more) = s ++ eraseText more := by
  rw [eraseText, eraseText, String.toList_append, erase_append h, String.ofList_append,
    String.ofList_toList]

end Color

/-! ### Spans -/

/-- Whether a span stands in no column and has no escape character. -/
def Span.IsPlainText : Span → Prop
  | .plain text | .painted _ text => Color.escape ∉ text
  | .column .. => False

theorem Span.isPlainText_text {s : String} : (Span.text s).IsPlainText ↔ Color.escape ∉ s.toList :=
  Iff.rfl

theorem Span.isPlainText_inRole {role : Role} {s : String} :
    (Span.inRole role s).IsPlainText ↔ Color.escape ∉ s.toList := Iff.rfl

namespace Console

/-- The same console without colors. -/
def uncolored (c : Console) : Console := { c with colored := false }

theorem erase_consolePaint (c : Console) (role : Role) {text : List Char}
    (h : Color.escape ∉ text) (cs : List Char) :
    Color.erase (c.paint role text ++ cs) = text ++ Color.erase cs := by
  unfold paint
  split
  · exact Color.erase_paint h ..
  · exact Color.erase_append h cs

/-- **Spans are written alike but for colors**, whatever is written after them. -/
theorem erase_writeChars_append (c : Console) {spans : List Span}
    (h : ∀ s ∈ spans, s.IsPlainText) (cs : List Char) :
    Color.erase (c.writeChars spans ++ cs) = c.uncolored.writeChars spans ++ Color.erase cs := by
  induction spans with
  | nil => rfl
  | cons s spans ih =>
    rw [List.forall_mem_cons] at h
    rw [writeChars_cons, writeChars_cons, List.append_assoc, List.append_assoc, ← ih h.2]
    cases s with
    | plain text => exact Color.erase_append h.1 _
    | painted role text => exact c.erase_consolePaint role h.1 _
    | column width role text => exact h.1.elim

/-- Erasing goes through a text that is made of what was written and of more. -/
theorem eraseText_write_append (c : Console) {spans : List Span}
    (h : ∀ s ∈ spans, s.IsPlainText) (more : String) :
    Color.eraseText (c.write spans ++ more) = c.uncolored.write spans ++ Color.eraseText more := by
  rw [Color.eraseText, String.toList_append, write, String.toList_ofList,
    c.erase_writeChars_append h, String.ofList_append]
  rfl

theorem eraseText_write (c : Console) {spans : List Span} (h : ∀ s ∈ spans, s.IsPlainText) :
    Color.eraseText (c.write spans) = c.uncolored.write spans := by
  have herase := c.eraseText_write_append h ""
  rwa [Color.eraseText_empty, String.append_empty, String.append_empty] at herase

end Console

theorem Text.NoControls.escape_notMem {cs : List Char} (h : Text.NoControls cs) :
    Color.escape ∉ cs := h.notMem (by decide)

/-! ### Trees -/

namespace Tree

theorem escape_notMem_indentation (n : Nat) : Color.escape ∉ indentation n :=
  (Text.noControls_replicate (by decide) n).escape_notMem

mutual

theorem isPlainText_restSpans : ∀ (n : Nat) (t : Tree),
    (∀ key ∈ t.keys, Color.escape ∉ key.toList) → (∀ text ∈ t.leaves, Color.escape ∉ text) →
    ∀ s ∈ restSpans n t, s.IsPlainText
  | _, leaf kind text, _, hleaves => by
    have htext := hleaves text (by simp [leaves])
    simpa [restSpans, Span.IsPlainText, Color.escape] using htext
  | n, object rows, hkeys, hleaves => by
    have hrows := isPlainText_rowSpans n rows hkeys hleaves
    simpa [restSpans, Span.IsPlainText, Color.escape] using hrows
  | n, array items, hkeys, hleaves => by
    have hitems := isPlainText_itemSpans n items hkeys hleaves
    simpa [restSpans, Span.IsPlainText, Color.escape] using hitems

theorem isPlainText_rowSpans : ∀ (n : Nat) (rows : List (String × Tree)),
    (∀ key ∈ rowsKeys rows, Color.escape ∉ key.toList) →
    (∀ text ∈ rowsLeaves rows, Color.escape ∉ text) → ∀ s ∈ rowSpans n rows, s.IsPlainText
  | _, [], _, _ => nofun
  | n, (key, t) :: rows, hkeys, hleaves => by
    simp only [rowsKeys, List.forall_mem_cons, List.forall_mem_append] at hkeys
    simp only [rowsLeaves, List.forall_mem_append] at hleaves
    simp only [rowSpans, List.forall_mem_cons, List.forall_mem_append]
    exact ⟨escape_notMem_indentation n, hkeys.1, by simp [Span.IsPlainText, Color.escape],
      isPlainText_restSpans (n + 2) t hkeys.2.1 hleaves.1,
      isPlainText_rowSpans n rows hkeys.2.2 hleaves.2⟩

theorem isPlainText_itemSpans : ∀ (n : Nat) (items : List Tree),
    (∀ key ∈ itemsKeys items, Color.escape ∉ key.toList) →
    (∀ text ∈ itemsLeaves items, Color.escape ∉ text) → ∀ s ∈ itemSpans n items, s.IsPlainText
  | _, [], _, _ => nofun
  | n, t :: items, hkeys, hleaves => by
    simp only [itemsKeys, List.forall_mem_append] at hkeys
    simp only [itemsLeaves, List.forall_mem_append] at hleaves
    simp only [itemSpans, List.forall_mem_cons, List.forall_mem_append]
    exact ⟨escape_notMem_indentation n, by simp [Span.IsPlainText, Color.escape],
      isPlainText_restSpans (n + 2) t hkeys.1 hleaves.1,
      isPlainText_itemSpans n items hkeys.2 hleaves.2⟩

end

end Tree

/-! ### Texts that are printed as they are -/

/-- The texts of a trace event that are printed as they are. -/
def TraceEvent.texts (e : TraceEvent) (depths : RenderDepths) : List String :=
  e.time :: e.variant.text :: (e.tree depths).keys

/-- The texts of a registry. -/
def Registry.texts (r : Registry) : List String :=
  r.apis.values.flatMap fun api => api.name :: api.description ::
    api.operations.values.flatMap fun op => [op.name, op.description]

theorem TraceEvent.isPlainText_spans {e : TraceEvent} {depths : RenderDepths}
    (h : ∀ text ∈ e.texts depths, Color.escape ∉ text.toList) :
    ∀ s ∈ e.spans depths, s.IsPlainText := by
  simp only [texts, List.forall_mem_cons] at h
  obtain ⟨htime, hvariant, hkeys⟩ := h
  have hkind : Color.escape ∉ (Text.padRight 8 e.variant.kind.key).toList := by
    cases e.variant.kind <;> decide +kernel
  have hleaves : ∀ text ∈ (e.tree depths).leaves, Color.escape ∉ text :=
    fun text htext => (e.noControls_leaves_tree depths text htext).escape_notMem
  rw [spans, header, List.forall_mem_append]
  refine ⟨?_, Tree.isPlainText_rowSpans bodyIndent _ hkeys hleaves⟩
  simp only [List.forall_mem_cons, Span.isPlainText_text, Span.isPlainText_inRole,
    String.toList_append, List.mem_append, not_or]
  exact ⟨⟨⟨⟨htime, by decide⟩, hkind⟩, by decide⟩, hvariant, by decide, nofun⟩

theorem VerbosityLevel.escape_notMem_text (l : VerbosityLevel) : Color.escape ∉ l.text.toList := by
  cases l with
  | raw n => exact (Text.noControls_toString_int n).escape_notMem
  | _ => decide +kernel

theorem Operation.isPlainText_spans {op : Operation} (hname : Color.escape ∉ op.name.toList)
    (hdescription : Color.escape ∉ op.description.toList) (showPermissions : Bool) :
    ∀ s ∈ op.spans showPermissions, s.IsPlainText := by
  simp only [spans, List.forall_mem_cons, Span.isPlainText_text, String.toList_append,
    List.mem_append, not_or]
  refine ⟨⟨⟨⟨⟨by decide, hname⟩, by decide⟩, hdescription⟩, by decide⟩, ?_⟩
  cases op.permissions with
  | none => nofun
  | some p =>
    have hpermissions : Color.escape ∉ p.compact.toList := by
      rw [Json.compact, String.toList_ofList]
      exact p.noControls_text.escape_notMem
    cases showPermissions with
    | false => nofun
    | true =>
      simp only [if_true, List.forall_mem_singleton, Span.isPlainText_text, String.toList_append,
        List.mem_append, not_or]
      exact ⟨⟨by decide, hpermissions⟩, by decide⟩

theorem Registry.isPlainText_spans {r : Registry}
    (h : ∀ text ∈ r.texts, Color.escape ∉ text.toList) (levels : Levels) (showPermissions : Bool) :
    ∀ s ∈ r.spans levels showPermissions, s.IsPlainText := by
  unfold spans
  split
  · simp only [List.forall_mem_singleton, Span.isPlainText_text]
    decide
  · intro s hs
    obtain ⟨api, hapi, hs⟩ := List.mem_flatMap.1 hs
    have htexts : ∀ text ∈ api.name :: api.description ::
        api.operations.values.flatMap fun op => [op.name, op.description],
        Color.escape ∉ text.toList :=
      fun text htext => h text (List.mem_flatMap.2 ⟨api, hapi, htext⟩)
    simp only [List.forall_mem_cons] at htexts
    obtain ⟨hname, hdescription, hoperations⟩ := htexts
    have hlevel : Color.escape ∉
        (((levels.get? (.api api.name)).map VerbosityLevel.text).getD "-").toList := by
      cases levels.get? (.api api.name) with
      | none => decide
      | some l => exact l.escape_notMem_text
    rw [Api.spans, List.mem_cons, List.mem_cons] at hs
    rcases hs with rfl | rfl | hs
    · exact hname
    · rw [Span.isPlainText_text]
      simp only [String.toList_append, List.mem_append, not_or]
      exact ⟨⟨⟨⟨by decide, hdescription⟩, by decide⟩, hlevel⟩, by decide⟩
    · obtain ⟨op, hop, hs⟩ := List.mem_flatMap.1 hs
      have hop' (text : String) (htext : text ∈ [op.name, op.description]) :
          Color.escape ∉ text.toList := hoperations text (List.mem_flatMap.2 ⟨op, hop, htext⟩)
      exact Operation.isPlainText_spans (hop' _ (by simp)) (hop' _ (by simp)) showPermissions s hs

theorem LogEntry.isPlainText_spans {e : LogEntry} {time : String}
    (htime : Color.escape ∉ time.toList) (htag : Color.escape ∉ e.tag.toList)
    (hcontent : Color.escape ∉ e.content.toList) : ∀ s ∈ e.spans time, s.IsPlainText := by
  have hkind : Color.escape ∉ e.kind.name.toList := by cases e.kind <;> decide +kernel
  simp only [spans, List.forall_mem_cons, Span.isPlainText_text, Span.isPlainText_inRole,
    String.toList_append, List.mem_append, not_or]
  exact ⟨⟨⟨⟨htime, by decide⟩, hkind⟩, by decide⟩, htag, ⟨⟨by decide, hcontent⟩, by decide⟩, nofun⟩

namespace Text

theorem noControls_zeroPadded (digits n : Nat) : NoControls (zeroPadded digits n).toList := by
  simp only [zeroPadded, String.toList_append, String.toList_ofList, noControls_append]
  exact ⟨noControls_replicate (by decide) _, noControls_repr n⟩

theorem noControls_timeOfDay (milliseconds : Int) : NoControls (timeOfDay milliseconds).toList := by
  simp [timeOfDay, noControls_zeroPadded]

end Text

/-! ### Output with colors -/

namespace Console

/-- **Colors change nothing but colors.** Take any style and a console that has its colors. If no
text of a trace event, of a registry, of a log entry or of an error has an escape character, then
deleting the escape sequences of colors from what the console prints of it gives what the same
console prints without colors. A console whose style is disabled is the one without colors. -/
theorem colors_add_nothing_else (style : StyleConfig) (showPermissions : Bool) :
    let colored := Console.new style true showPermissions
    let plain := Console.new style false showPermissions
    (∀ (e : TraceEvent) (depths : RenderDepths),
        (∀ text ∈ e.texts depths, Color.escape ∉ text.toList) →
        Color.eraseText (colored.traceEvent e depths) = plain.traceEvent e depths) ∧
      (∀ (r : Registry) (s : VerbosityState), (∀ text ∈ r.texts, Color.escape ∉ text.toList) →
        Color.eraseText (colored.registry r s) = plain.registry r s) ∧
      (∀ (e : LogEntry) (milliseconds : Int), Color.escape ∉ e.tag.toList →
        Color.escape ∉ e.content.toList →
        Color.eraseText (colored.logEntry e (Text.timeOfDay milliseconds)) =
          plain.logEntry e (Text.timeOfDay milliseconds)) ∧
      (∀ text : String, Color.escape ∉ text.toList →
        Color.eraseText (colored.error text) = plain.error text) ∧
      (style.enabled = false → colored = plain) := by
  intro colored plain
  refine ⟨fun e depths h => ?_, fun r s h => ?_, fun e milliseconds htag hcontent => ?_,
    fun text h => ?_, fun h => ?_⟩
  · exact colored.eraseText_write (TraceEvent.isPlainText_spans h)
  · exact colored.eraseText_write (Registry.isPlainText_spans h s.displayed showPermissions)
  · have htime := (Text.noControls_timeOfDay milliseconds).escape_notMem
    exact colored.eraseText_write (LogEntry.isPlainText_spans htime htag hcontent)
  · exact colored.eraseText_write (List.forall_mem_singleton.2 h)
  · simp only [colored, plain, Console.new, h, Bool.and_false]

/-- Brackets and digits next to what is painted, a nested descriptor, a payload whose text has the
escape character inside a string, and texts that look like the rest of an escape sequence. -/
theorem colors_add_nothing_else_nested :
    let colored := Console.new .default true true
    let e : TraceEvent := ⟨"42m", none, .service "[39m" "start",
      [("8;5;", .array [.int 38, .object [("m", .null)]])], some (.string "\x1b[39m")⟩
    let r : Registry := ⟨(Table.empty : Table String Api).insert "calc" ⟨"calc", "1 + 1",
      (Table.empty : Table String Operation).insert "add" ⟨"add", "adds", some (.bool true)⟩⟩⟩
    let s : VerbosityState := ⟨.empty, .empty, .empty, 0⟩
    let entry : LogEntry := ⟨.reterr, "calc/add", "5;7m"⟩
    (∀ text ∈ e.texts .default, Color.escape ∉ text.toList) ∧
      (∀ text ∈ r.texts, Color.escape ∉ text.toList) ∧ Color.escape ∉ entry.tag.toList ∧
      Color.escape ∉ entry.content.toList ∧ Color.escape ∉ "boom".toList ∧
      Color.eraseText (colored.traceEvent e .default) = "42m service  [39m@start\n    8;5;:\n" ++
        "      - 38\n      -\n        m: null\n    data: \"\\u001b[39m\"\n" ∧
      Color.eraseText (colored.registry r s) =
        "calc  1 + 1  [-]\n    add  adds\n        permissions: true\n" ∧
      Color.eraseText (colored.logEntry entry (Text.timeOfDay 1500)) =
        "00:00:01.500 [reterr] calc/add\n5;7m\n" ∧
      Color.eraseText (colored.error "boom") = "boom" ∧
      { StyleConfig.default with enabled := false }.enabled = false ∧
      Console.new { StyleConfig.default with enabled := false } true true =
        Console.new { StyleConfig.default with enabled := false } false true := by
  intro colored e r s entry
  have he : ∀ text ∈ e.texts .default, Color.escape ∉ text.toList := by decide +kernel
  have hr : ∀ text ∈ r.texts, Color.escape ∉ text.toList := by decide +kernel
  have htag : Color.escape ∉ entry.tag.toList := by decide +kernel
  have hcontent : Color.escape ∉ entry.content.toList := by decide +kernel
  have hboom : Color.escape ∉ "boom".toList := by decide +kernel
  obtain ⟨htrace, hregistry, hlog, herror, -⟩ := colors_add_nothing_else .default true
  obtain ⟨-, -, -, -, hdisabled⟩ :=
    colors_add_nothing_else { StyleConfig.default with enabled := false } true
  refine ⟨he, hr, htag, hcontent, hboom, (htrace e .default he).trans ?_,
    (hregistry r s hr).trans ?_, (hlog entry 1500 htag hcontent).trans ?_,
    (herror "boom" hboom).trans ?_, rfl, hdisabled rfl⟩
  all_goals decide +kernel

end Console

end LiveTrace
