import LiveTrace.Console.View
import LiveTrace.Proofs.Trace.Texts
/-!
# LiveTrace.Proofs.Console.Indentation

**A console without colors prints a tree as its text, indented.** A tree has two writers: its own
text, whose rows begin at the margin, and the spans of a console, whose rows begin at a column. They
are brought together in two steps. Written without colors, spans indented by a number of blanks are
the text indented by as many (`Console.writeChars_rowSpans`). And a text that is indented by more is
the one that is indented by less with blanks inserted at the start of every line
(`Tree.indentFrom_rowsText`), unless a key or a leaf breaks a line.

What is written after a row's key or dash begins inside a line and ends at the start of one, so
inserting blanks is described with a flag that tells where a text begins (`Text.indentFrom`), and
with the text that follows.
-/

namespace LiveTrace

namespace Text

/-! ### Inserting blanks -/

/-- A text with `front` inserted at the start of every line; a text may begin inside a line. -/
def indentFrom (front : List Char) : (inside : Bool) → List Char → List Char
  | _, [] => []
  | inside, c :: cs => (if inside then [] else front) ++ c :: indentFrom front (c != '\n') cs

/-- A text with `front` inserted at the start of every line. -/
def indentLines (front cs : List Char) : List Char := indentFrom front false cs

variable {front line cs : List Char}

/-- What is on the line that a text begins in stays as it is. -/
theorem indentFrom_append (h : '\n' ∉ line) :
    indentFrom front true (line ++ cs) = line ++ indentFrom front true cs := by
  induction line with
  | nil => rfl
  | cons c line ih =>
    rw [List.mem_cons, not_or] at h
    have hinside : (c != '\n') = true := by simpa using Ne.symm h.1
    simp [indentFrom, hinside, ih h.2]

theorem indentFrom_newline :
    indentFrom front true ('\n' :: cs) = '\n' :: indentFrom front false cs := rfl

/-- A line begins with what is inserted, if there is one. -/
theorem indentFrom_start (h : cs ≠ []) :
    indentFrom front false cs = front ++ indentFrom front true cs := by
  cases cs with
  | nil => contradiction
  | cons c cs => simp [indentFrom]

end Text

namespace Tree

open Text

theorem indentation_add (k n : Nat) : indentation k ++ indentation n = indentation (k + n) :=
  List.replicate_append_replicate

theorem newline_notMem_indentation (n : Nat) : '\n' ∉ indentation n := by
  simp [indentation, List.mem_replicate]

/-- The start of a row is indented like any other line. -/
theorem indentFrom_row {k n : Nat} {label : List Char} (h : '\n' ∉ label) (mark : Char)
    (hmark : mark ≠ '\n') (more : List Char) :
    indentFrom (indentation k) false (indentation n ++ label ++ mark :: more) =
      indentation (k + n) ++ label ++ mark :: indentFrom (indentation k) true more := by
  have hline : '\n' ∉ indentation n ++ label ++ [mark] := by
    simp [newline_notMem_indentation, h, hmark.symm]
  have hsplit : indentation n ++ label ++ mark :: more =
      indentation n ++ label ++ [mark] ++ more := by simp
  rw [hsplit, indentFrom_start (by simp), indentFrom_append hline, ← indentation_add]
  simp

mutual

/-- What follows a key or dash, where nothing that the tree shows breaks a line. -/
theorem indentFrom_rest (k : Nat) : ∀ (n : Nat) (t : Tree), (∀ key ∈ t.keys, '\n' ∉ key.toList) →
    (∀ text ∈ t.leaves, '\n' ∉ text) → ∀ more : List Char,
    indentFrom (indentation k) true (rest n t ++ more) =
      rest (k + n) t ++ indentFrom (indentation k) false more
  | n, leaf kind text, _, hleaves, more => by
    have hline : '\n' ∉ ' ' :: text := by
      simpa using hleaves text (by simp [leaves])
    have hsplit : rest n (leaf kind text) ++ more = ' ' :: text ++ '\n' :: more := by simp [rest]
    rw [hsplit, indentFrom_append hline, indentFrom_newline]
    simp [rest]
  | n, object rows, hkeys, hleaves, more => by
    rw [rest, List.cons_append, indentFrom_newline,
      indentFrom_rowsText k n rows hkeys hleaves more]
    rfl
  | n, array items, hkeys, hleaves, more => by
    rw [rest, List.cons_append, indentFrom_newline,
      indentFrom_itemsText k n items hkeys hleaves more]
    rfl

theorem indentFrom_rowsText (k : Nat) : ∀ (n : Nat) (rows : List (String × Tree)),
    (∀ key ∈ rowsKeys rows, '\n' ∉ key.toList) → (∀ text ∈ rowsLeaves rows, '\n' ∉ text) →
    ∀ more : List Char, indentFrom (indentation k) false (rowsText n rows ++ more) =
      rowsText (k + n) rows ++ indentFrom (indentation k) false more
  | _, [], _, _, _ => rfl
  | n, (key, t) :: rows, hkeys, hleaves, more => by
    simp only [rowsKeys, List.forall_mem_cons, List.forall_mem_append] at hkeys
    simp only [rowsLeaves, List.forall_mem_append] at hleaves
    have hrow := indentFrom_row (k := k) (n := n) hkeys.1 ':' (by decide)
      (rest (n + 2) t ++ (rowsText n rows ++ more))
    rw [indentFrom_rest k (n + 2) t hkeys.2.1 hleaves.1,
      indentFrom_rowsText k n rows hkeys.2.2 hleaves.2] at hrow
    simpa [rowsText, Nat.add_assoc] using hrow

theorem indentFrom_itemsText (k : Nat) : ∀ (n : Nat) (items : List Tree),
    (∀ key ∈ itemsKeys items, '\n' ∉ key.toList) → (∀ text ∈ itemsLeaves items, '\n' ∉ text) →
    ∀ more : List Char, indentFrom (indentation k) false (itemsText n items ++ more) =
      itemsText (k + n) items ++ indentFrom (indentation k) false more
  | _, [], _, _, _ => rfl
  | n, t :: items, hkeys, hleaves, more => by
    simp only [itemsKeys, List.forall_mem_append] at hkeys
    simp only [itemsLeaves, List.forall_mem_append] at hleaves
    have hrow := indentFrom_row (k := k) (n := n) List.not_mem_nil '-' (by decide)
      (rest (n + 2) t ++ (itemsText n items ++ more))
    rw [indentFrom_rest k (n + 2) t hkeys.1 hleaves.1,
      indentFrom_itemsText k n items hkeys.2 hleaves.2] at hrow
    simpa [itemsText, Nat.add_assoc] using hrow

end

end Tree

/-! ### Writing without colors -/

namespace Console

variable {c : Console}

mutual

theorem writeChars_restSpans (h : c.colored = false) : ∀ (n : Nat) (t : Tree),
    c.writeChars (Tree.restSpans n t) = Tree.rest n t
  | _, .leaf kind text => by simp [Tree.restSpans, Tree.rest, writeSpan_painted h]
  | n, .object rows => by simp [Tree.restSpans, Tree.rest, writeChars_rowSpans h n rows]
  | n, .array items => by simp [Tree.restSpans, Tree.rest, writeChars_itemSpans h n items]

/-- Without colors, the spans of rows are the rows as the tree itself writes them. -/
theorem writeChars_rowSpans (h : c.colored = false) : ∀ (n : Nat) (rows : List (String × Tree)),
    c.writeChars (Tree.rowSpans n rows) = Tree.rowsText n rows
  | _, [] => rfl
  | n, (key, t) :: rows => by
    simp [Tree.rowSpans, Tree.rowsText, writeSpan_painted h, writeChars_restSpans h (n + 2) t,
      writeChars_rowSpans h n rows]

theorem writeChars_itemSpans (h : c.colored = false) : ∀ (n : Nat) (items : List Tree),
    c.writeChars (Tree.itemSpans n items) = Tree.itemsText n items
  | _, [] => rfl
  | n, t :: items => by
    simp [Tree.itemSpans, Tree.itemsText, writeChars_restSpans h (n + 2) t,
      writeChars_itemSpans h n items]

end

end Console

/-- A trace event as it reads: a line that tells when it was, of what kind it is and what it is
about, and its rows, four blanks in. -/
def TraceEvent.block (e : TraceEvent) (depths : RenderDepths) : String :=
  e.time ++ " " ++ Text.padRight 8 e.variant.kind.key ++ " " ++ e.variant.text ++ "\n" ++
    String.ofList (Tree.rowsText 4 (e.rows depths))

namespace Console

variable {c : Console}

/-- Without colors, the spans of a trace event are what it reads. -/
theorem traceEvent_eq_block (h : c.colored = false) (e : TraceEvent) (depths : RenderDepths) :
    c.traceEvent e depths = e.block depths := by
  have hheader : c.write e.header =
      e.time ++ " " ++ Text.padRight 8 e.variant.kind.key ++ " " ++ e.variant.text ++ "\n" := by
    simp [write, TraceEvent.header, Span.text, Span.inRole, writeSpan_painted h,
      String.append_assoc]
  rw [TraceEvent.block, ← hheader, ← writeChars_rowSpans h 4]
  show String.ofList (c.writeChars (e.header ++ Tree.rowSpans 4 (e.rows depths))) = _
  rw [writeChars_append, String.ofList_append, write]

/-- **A trace event is printed as a header and its tree, indented.** A console without colors writes
the header line, and after it the text of the tree of the event with four blanks inserted at the
start of every line, if no key that the tree shows breaks a line. -/
theorem traceEvent_eq_indented (h : c.colored = false) (e : TraceEvent) (depths : RenderDepths)
    (hkeys : ∀ key ∈ (e.tree depths).keys, '\n' ∉ key.toList) :
    c.traceEvent e depths =
      e.time ++ " " ++ Text.padRight 8 e.variant.kind.key ++ " " ++ e.variant.text ++ "\n" ++
        String.ofList (Text.indentLines "    ".toList (e.tree depths).text) := by
  have hleaves : ∀ text ∈ (e.tree depths).leaves, '\n' ∉ text :=
    fun text htext => (e.noControls_leaves_tree depths text htext).notMem (by decide)
  have hindent : Text.indentLines "    ".toList (e.tree depths).text =
      Tree.rowsText 4 (e.rows depths) := by
    have hrows := Tree.indentFrom_rowsText 4 0 (e.rows depths) hkeys hleaves []
    rw [List.append_nil, Text.indentFrom, List.append_nil] at hrows
    exact hrows
  rw [traceEvent_eq_block h, TraceEvent.block, hindent]

/-- A descriptor with an array of an empty object and of another one, and a payload that is left
closed. -/
theorem traceEvent_eq_indented_nested :
    let c : Console := ⟨fun _ => .red, false, true⟩
    let e : TraceEvent := ⟨"42.1", none, .service "calc" "start",
      [("api", .string "calc"), ("list", .array [.object [], .object [("k", .null)]])],
      some (.object [("x", .array [.int 1])])⟩
    let text := "api: \"calc\"\nlist:\n  -\n  -\n    k: null\ndata:\n  x: [1]\n"
    let indented :=
      "    api: \"calc\"\n    list:\n      -\n      -\n        k: null\n    data:\n      x: [1]\n"
    c.colored = false ∧ (∀ key ∈ (e.tree .default).keys, '\n' ∉ key.toList) ∧
      (e.tree .default).text = text.toList ∧
      c.traceEvent e .default = "42.1 service  calc@start\n" ++ indented := by
  intro c e text indented
  have hkeys : ∀ key ∈ (e.tree .default).keys, '\n' ∉ key.toList := by decide +kernel
  have htext : (e.tree .default).text = text.toList := by decide +kernel
  refine ⟨rfl, hkeys, htext, ?_⟩
  rw [traceEvent_eq_indented rfl e .default hkeys, htext]
  decide +kernel

end Console

end LiveTrace
