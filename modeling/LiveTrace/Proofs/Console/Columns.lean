import Mathlib.Algebra.GroupWithZero.Nat
import Mathlib.Algebra.Order.BigOperators.Group.List
import Mathlib.Algebra.Order.Group.Nat
import LiveTrace.Proofs.Console.Colors
/-!
# LiveTrace.Proofs.Console.Columns

**Colors narrow columns.** The width of a column counts all that is written in it, escape sequences
included, so a text in color has fewer blanks after it than the same text without. Deleting the
escape sequences of colors from what a console writes gives what it writes without colors in columns
that are narrower by the length of these sequences (`Console.erase_writeChars_narrow`). Nothing is
lost by that exactly where every text fills its column (`Console.erase_writeChars_eq_iff`). The keys
of a client session never do, and the names in a list of levels do only if they are long
(`Console.colors_narrow_columns`).
-/

namespace LiveTrace

namespace Color

/-- How many characters a color adds to a text. -/
def overhead (c : Color) : Nat := c.start.length + stop.length

theorem length_paint (c : Color) (text : List Char) :
    (c.paint text).length = text.length + c.overhead := by
  simp only [paint, overhead, List.length_append]
  omega

/-- Numbers of colors have one digit or two. -/
theorem overhead_bounds (c : Color) : 14 ≤ c.overhead ∧ c.overhead ≤ 15 := by
  cases c <;> decide

end Color

/-! ### Spans -/

namespace Span

/-- The text of a span. -/
def content : Span → List Char
  | plain text | painted _ text | column _ _ text => text

/-- Whether a text leaves no room in its column. -/
def IsFilling : Span → Prop
  | column width _ text => width ≤ text.length
  | _ => True

end Span

namespace Console

/-- How many characters a console adds to a text in the color of a role. -/
def overhead (c : Console) (role : Role) : Nat := if c.colored then (c.palette role).overhead else 0

/-- The span that is left of one whose escape sequences are deleted. -/
def narrow (c : Console) : Span → Span
  | .column width role text => .column (width - c.overhead role) role text
  | s => s

theorem length_consolePaint (c : Console) (role : Role) (text : List Char) :
    (c.paint role text).length = text.length + c.overhead role := by
  unfold paint overhead
  split
  · exact Color.length_paint ..
  · rfl

/-- **A span without its escape sequences is the narrow one, written without colors.** -/
theorem erase_writeSpan (c : Console) {s : Span} (h : Color.escape ∉ s.content) (cs : List Char) :
    Color.erase (c.writeSpan s ++ cs) =
      c.uncolored.writeSpan (c.narrow s) ++ Color.erase cs := by
  cases s with
  | plain text => exact Color.erase_append h cs
  | painted role text => exact c.erase_consolePaint role h cs
  | column width role text =>
    have htext : Color.escape ∉ text := h
    have hblanks (n : Nat) : Color.escape ∉ List.replicate n ' ' :=
      (Text.noControls_replicate (by decide) n).escape_notMem
    calc Color.erase (pad width (c.paint role text) ++ cs)
      _ = text ++ Color.erase (List.replicate (width - (c.paint role text).length) ' ' ++ cs) := by
          rw [pad, List.append_assoc, c.erase_consolePaint role htext]
      _ = text ++ (List.replicate (width - c.overhead role - text.length) ' ' ++
            Color.erase cs) := by
          rw [Color.erase_append (hblanks _), length_consolePaint, Nat.sub_sub, Nat.add_comm]
      _ = pad (width - c.overhead role) text ++ Color.erase cs := by
          rw [pad, List.append_assoc]

theorem erase_writeChars_narrow (c : Console) {spans : List Span}
    (h : ∀ s ∈ spans, Color.escape ∉ s.content) :
    Color.erase (c.writeChars spans) = c.uncolored.writeChars (spans.map c.narrow) := by
  induction spans with
  | nil => rw [List.map_nil, writeChars_nil, writeChars_nil, Color.erase]
  | cons s spans ih =>
    rw [List.forall_mem_cons] at h
    rw [List.map_cons, writeChars_cons, writeChars_cons, c.erase_writeSpan h.1, ih h.2]

theorem length_writeChars (c : Console) (spans : List Span) :
    (c.writeChars spans).length = (spans.map fun s => (c.writeSpan s).length).sum :=
  List.length_flatMap

/-- A narrow column is written as shortly as the full one only if its text fills it. -/
theorem length_writeSpan_narrow (c : Console) (s : Span) :
    (c.uncolored.writeSpan (c.narrow s)).length ≤ (c.uncolored.writeSpan s).length ∧
      (c.colored = true → ¬s.IsFilling →
        (c.uncolored.writeSpan (c.narrow s)).length < (c.uncolored.writeSpan s).length) := by
  cases s with
  | plain text | painted role text => exact ⟨Nat.le_refl _, fun _ h => absurd trivial h⟩
  | column width role text =>
    have hlength (n : Nat) : (c.uncolored.writeSpan (.column n role text)).length =
        text.length + (n - text.length) := by
      show (pad n text).length = _
      rw [pad, List.length_append, List.length_replicate]
    rw [narrow, hlength, hlength, Span.IsFilling]
    refine ⟨by omega, fun hcolored hroom => ?_⟩
    have hoverhead : c.overhead role = (c.palette role).overhead := if_pos hcolored
    have hbounds := (c.palette role).overhead_bounds
    omega

theorem writeSpan_narrow_of_isFilling (c : Console) {s : Span} (h : s.IsFilling) :
    c.uncolored.writeSpan (c.narrow s) = c.uncolored.writeSpan s := by
  cases s with
  | plain text | painted role text => rfl
  | column width role text =>
    have hwidth : width - text.length = 0 := Nat.sub_eq_zero_of_le h
    have hnarrow : width - c.overhead role - text.length = 0 := by omega
    show pad _ text = pad _ text
    rw [pad, pad, hwidth, hnarrow]

/-- **Colors change nothing but colors exactly where every text fills its column.** -/
theorem erase_writeChars_eq_iff (c : Console) {spans : List Span}
    (h : ∀ s ∈ spans, Color.escape ∉ s.content) :
    Color.erase (c.writeChars spans) = c.uncolored.writeChars spans ↔
      c.colored = false ∨ ∀ s ∈ spans, s.IsFilling := by
  rw [c.erase_writeChars_narrow h]
  constructor
  · intro heq
    -- no span gets longer, so if the whole is as long as before then so is every span
    by_contra hroom
    rw [not_or, Bool.not_eq_false] at hroom
    obtain ⟨s, hs, hroom'⟩ : ∃ s ∈ spans, ¬s.IsFilling := by simpa using hroom.2
    have hlt := List.sum_lt_sum (l := spans)
      (fun s => (c.uncolored.writeSpan (c.narrow s)).length)
      (fun s => (c.uncolored.writeSpan s).length)
      (fun s _ => (c.length_writeSpan_narrow s).1)
      ⟨s, hs, (c.length_writeSpan_narrow s).2 hroom.1 hroom'⟩
    have hlength := congrArg List.length heq
    rw [length_writeChars, length_writeChars, List.map_map] at hlength
    exact absurd hlength hlt.ne
  · rintro (hplain | hfilling)
    · have hnarrow (s : Span) : c.narrow s = s := by
        cases s with
        | plain text | painted role text => rfl
        | column width role text =>
          have hoverhead : c.overhead role = 0 := if_neg (by rw [hplain]; decide)
          rw [narrow, hoverhead, Nat.sub_zero]
      rw [List.map_congr_left fun s _ => hnarrow s, List.map_id']
    · rw [writeChars, writeChars, List.flatMap_map]
      exact List.flatMap_congr fun s hs => c.writeSpan_narrow_of_isFilling (hfilling s hs)

theorem eraseText_write_narrow (c : Console) {spans : List Span}
    (h : ∀ s ∈ spans, Color.escape ∉ s.content) :
    Color.eraseText (c.write spans) = c.uncolored.write (spans.map c.narrow) := by
  rw [Color.eraseText, write, write, String.toList_ofList, c.erase_writeChars_narrow h]

theorem eraseText_write_eq_iff (c : Console) {spans : List Span}
    (h : ∀ s ∈ spans, Color.escape ∉ s.content) :
    Color.eraseText (c.write spans) = c.uncolored.write spans ↔
      c.colored = false ∨ ∀ s ∈ spans, s.IsFilling := by
  rw [← c.erase_writeChars_eq_iff h, Color.eraseText, write, write, String.toList_ofList,
    String.ofList_inj]

end Console

/-! ### Lists of levels and client sessions -/

/-- A row of both: a name in a column, and what belongs to it. -/
theorem Span.escape_notMem_row (width : Nat) {name value : String}
    (hname : Color.escape ∉ name.toList) (hvalue : Color.escape ∉ value.toList) :
    ∀ s ∈ [column width .key name.toList, text (" " ++ value ++ "\n")],
      Color.escape ∉ s.content := by
  simp only [List.forall_mem_cons, text, content, String.toList_append, List.mem_append, not_or]
  exact ⟨hname, ⟨⟨by decide, hvalue⟩, by decide⟩, List.forall_mem_nil _⟩

theorem VerbosityState.escape_notMem_content {s : VerbosityState}
    (h : ∀ e ∈ s.confirmed.entries, Color.escape ∉ e.1.label.toList) :
    ∀ span ∈ s.spans, Color.escape ∉ span.content :=
  List.forall_mem_flatMap.2 fun e he => Span.escape_notMem_row 20 (h e he) e.2.escape_notMem_text

/-- Names fill their column if they have twenty characters. -/
theorem VerbosityState.isFilling_spans_iff (s : VerbosityState) :
    (∀ span ∈ s.spans, span.IsFilling) ↔ ∀ e ∈ s.confirmed.entries, 20 ≤ e.1.label.length := by
  have hrow (e : VerbosityTarget × VerbosityLevel) :
      (∀ span ∈ [Span.column 20 .key e.1.label.toList, .text (" " ++ e.2.text ++ "\n")],
        span.IsFilling) ↔ 20 ≤ e.1.label.length := by
    simp only [List.forall_mem_cons, Span.IsFilling, Span.text, String.length_toList]
    exact and_iff_left ⟨trivial, List.forall_mem_nil _⟩
  rw [spans, List.forall_mem_flatMap]
  exact forall₂_congr fun e _ => hrow e

theorem SessionInfo.escape_notMem_content {i : SessionInfo} (huuid : Color.escape ∉ i.uuid.toList)
    (htoken : Color.escape ∉ i.token.toList) :
    ∀ span ∈ i.spans, Color.escape ∉ span.content := by
  have hint (n : Int) : Color.escape ∉ (toString n).toList :=
    (Text.noControls_toString_int n).escape_notMem
  have hrows : ∀ e ∈ [("uuid", i.uuid), ("token", i.token), ("timeout", toString i.timeout),
      ("remain", toString i.remain)], Color.escape ∉ e.1.toList ∧ Color.escape ∉ e.2.toList := by
    simp only [List.forall_mem_cons]
    exact ⟨⟨by decide, huuid⟩, ⟨by decide, htoken⟩, ⟨by decide, hint _⟩, ⟨by decide, hint _⟩,
      List.forall_mem_nil _⟩
  exact List.forall_mem_flatMap.2 fun e he =>
    Span.escape_notMem_row 8 (hrows e he).1 (hrows e he).2

/-- No key of a client session fills its column. -/
theorem SessionInfo.not_isFilling_spans (i : SessionInfo) :
    ¬∀ span ∈ i.spans, span.IsFilling := by
  intro h
  have huuid : 8 ≤ "uuid".toList.length := h _ List.mem_cons_self
  exact absurd huuid (by decide)

namespace Console

/-- **Colors narrow columns.** Take any style and a console that has its colors, and a list of levels
or a client session whose texts have no escape character. Deleting the escape sequences of colors
from what the console prints of it gives what the same console prints without colors in columns that
are narrower by the length of the sequences. So the second column starts where it does without
colors only if the style is disabled or, in a list of levels, if every name is twenty characters
long; in a client session it never does under a style that is enabled. -/
theorem colors_narrow_columns (style : StyleConfig) (showPermissions : Bool) :
    let colored := Console.new style true showPermissions
    let plain := Console.new style false showPermissions
    (∀ s : VerbosityState, (∀ e ∈ s.confirmed.entries, Color.escape ∉ e.1.label.toList) →
        Color.eraseText (colored.verbosity s) = plain.write (s.spans.map colored.narrow) ∧
          (Color.eraseText (colored.verbosity s) = plain.verbosity s ↔
            style.enabled = false ∨ ∀ e ∈ s.confirmed.entries, 20 ≤ e.1.label.length)) ∧
      (∀ i : SessionInfo, Color.escape ∉ i.uuid.toList → Color.escape ∉ i.token.toList →
        Color.eraseText (colored.sessionInfo i) = plain.write (i.spans.map colored.narrow) ∧
          (Color.eraseText (colored.sessionInfo i) = plain.sessionInfo i ↔
            style.enabled = false)) := by
  intro colored plain
  have hcolored : colored.colored = style.enabled := Bool.true_and _
  refine ⟨fun s h => ?_, fun i huuid htoken => ?_⟩
  · have hcontent := VerbosityState.escape_notMem_content h
    rw [← hcolored, ← s.isFilling_spans_iff]
    exact ⟨colored.eraseText_write_narrow hcontent, colored.eraseText_write_eq_iff hcontent⟩
  · have hcontent := SessionInfo.escape_notMem_content huuid htoken
    refine ⟨colored.eraseText_write_narrow hcontent, ?_⟩
    rw [← hcolored]
    exact (colored.eraseText_write_eq_iff hcontent).trans (or_iff_left i.not_isFilling_spans)

/-- Names of one character, of eight and of twenty, of which only the last is long enough to be read
alike with colors, and a client session. -/
theorem colors_narrow_columns_cyan :
    let colored := Console.new .default true false
    let plain := Console.new .default false false
    let levels (l : List (VerbosityTarget × VerbosityLevel)) : VerbosityState :=
      { VerbosityState.empty with confirmed := .ofList l }
    let short := levels [(.global, .info), (.all, .debug), (.api "calculator-of-levels", .raw 9)]
    let long := levels [(.api "calculator-of-levels", .raw 9)]
    let i : SessionInfo := ⟨"5c3f", "HELLO", 3600, 3599⟩
    (∀ e ∈ short.confirmed.entries, Color.escape ∉ e.1.label.toList) ∧
      (∀ e ∈ long.confirmed.entries, Color.escape ∉ e.1.label.toList) ∧
      Color.escape ∉ i.uuid.toList ∧ Color.escape ∉ i.token.toList ∧
      Color.eraseText (colored.verbosity short) =
        "(daemon) info\n*     debug\ncalculator-of-levels 9\n" ∧
      Color.eraseText (colored.verbosity short) ≠ plain.verbosity short ∧
      Color.eraseText (colored.verbosity long) = plain.verbosity long ∧
      Color.eraseText (colored.sessionInfo i) =
        "uuid 5c3f\ntoken HELLO\ntimeout 3600\nremain 3599\n" := by
  intro colored plain levels short long i
  have hshort : ∀ e ∈ short.confirmed.entries, Color.escape ∉ e.1.label.toList := by
    decide +kernel
  have hlong : ∀ e ∈ long.confirmed.entries, Color.escape ∉ e.1.label.toList := by decide +kernel
  have huuid : Color.escape ∉ i.uuid.toList := by decide
  have htoken : Color.escape ∉ i.token.toList := by decide
  obtain ⟨hlevels, hsession⟩ := colors_narrow_columns .default false
  refine ⟨hshort, hlong, huuid, htoken, (hlevels short hshort).1.trans ?_, fun h => ?_,
    (hlevels long hlong).2.2 (.inr ?_), (hsession i huuid htoken).1.trans ?_⟩
  · decide +kernel
  · exact absurd ((hlevels short hshort).2.1 h) (by decide +kernel)
  · decide +kernel
  · decide +kernel

/-- With colors the second column of a client session starts right after the keys, which is not
where it starts without. -/
theorem sessionInfo_columns_collapse :
    let colored := Console.new .default true false
    let plain := Console.new .default false false
    let i : SessionInfo := ⟨"5c3f", "HELLO", 3600, 3599⟩
    Color.escape ∉ i.uuid.toList ∧ Color.escape ∉ i.token.toList ∧
      Color.eraseText (colored.sessionInfo i) =
        "uuid 5c3f\ntoken HELLO\ntimeout 3600\nremain 3599\n" ∧
      plain.sessionInfo i =
        "uuid     5c3f\ntoken    HELLO\ntimeout  3600\nremain   3599\n" ∧
      Color.eraseText (colored.sessionInfo i) ≠ plain.sessionInfo i := by
  intro colored plain i
  have huuid : Color.escape ∉ i.uuid.toList := by decide
  have htoken : Color.escape ∉ i.token.toList := by decide
  have hcontent := SessionInfo.escape_notMem_content huuid htoken
  have herased : Color.eraseText (colored.sessionInfo i) =
      "uuid 5c3f\ntoken HELLO\ntimeout 3600\nremain 3599\n" :=
    (colored.eraseText_write_narrow hcontent).trans (by decide +kernel)
  refine ⟨huuid, htoken, herased, by decide +kernel, ?_⟩
  rw [herased]
  decide +kernel

end Console

end LiveTrace
