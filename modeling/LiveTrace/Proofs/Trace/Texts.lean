import LiveTrace.Proofs.Json.Controls
import LiveTrace.Trace.Tree
/-!
# LiveTrace.Proofs.Trace.Texts

**The texts in a tree.** A tree shows two kinds of texts: the keys of its rows, which are written as
they are and can hold anything, and the texts of its leaves. Where a tree opens a JSON value, its
leaves are JSON text and so hold no control characters (`Tree.noControls_leaves_ofJson`), and only
the keys can break a line or tamper with a terminal.
-/

namespace LiveTrace

namespace Tree

mutual

/-- The keys of all rows. -/
def keys : Tree → List String
  | leaf .. => []
  | object rows => rowsKeys rows
  | array items => itemsKeys items

/-- The keys of some rows and of what they hold. -/
def rowsKeys : List (String × Tree) → List String
  | [] => []
  | (key, t) :: rows => key :: (t.keys ++ rowsKeys rows)

/-- The keys in some items. -/
def itemsKeys : List Tree → List String
  | [] => []
  | t :: items => t.keys ++ itemsKeys items

end

mutual

/-- The texts of all leaves. -/
def leaves : Tree → List (List Char)
  | leaf _ text => [text]
  | object rows => rowsLeaves rows
  | array items => itemsLeaves items

/-- The texts of the leaves in some rows. -/
def rowsLeaves : List (String × Tree) → List (List Char)
  | [] => []
  | (_, t) :: rows => t.leaves ++ rowsLeaves rows

/-- The texts of the leaves in some items. -/
def itemsLeaves : List Tree → List (List Char)
  | [] => []
  | t :: items => t.leaves ++ itemsLeaves items

end

theorem mem_itemsLeaves {items : List Tree} {text : List Char} :
    text ∈ itemsLeaves items ↔ ∃ t ∈ items, text ∈ t.leaves := by
  induction items with
  | nil => simp [itemsLeaves]
  | cons t items ih => simp [itemsLeaves, ih]

theorem mem_rowsLeaves {rows : List (String × Tree)} {text : List Char} :
    text ∈ rowsLeaves rows ↔ ∃ r ∈ rows, text ∈ r.2.leaves := by
  induction rows with
  | nil => simp [rowsLeaves]
  | cons r rows ih => simp [rowsLeaves, ih]

theorem noControls_leaves_leaf (kind : LeafClass) (v : Json) :
    ∀ text ∈ (leaf kind v.text).leaves, Text.NoControls text := by
  simpa [leaves] using v.noControls_text

/-- **The leaves of an opened value hold no control characters.** -/
theorem noControls_leaves_ofJson (d : Nat) (v : Json) :
    ∀ text ∈ (ofJson d v).leaves, Text.NoControls text := by
  induction v using Json.induction generalizing d with
  | null | bool | number | string =>
    rw [ofJson]
    · exact noControls_leaves_leaf _ _
    all_goals nofun
  | array items ih =>
    cases d with
    | zero => exact noControls_leaves_leaf _ _
    | succ d =>
      intro text htext
      rw [ofJson, leaves, mem_itemsLeaves] at htext
      obtain ⟨t, ht, htext⟩ := htext
      obtain ⟨v, hv, rfl⟩ := List.mem_map.1 ht
      exact ih v hv d text htext
  | object fields ih =>
    cases d with
    | zero => exact noControls_leaves_leaf _ _
    | succ d =>
      intro text htext
      rw [ofJson, leaves, mem_rowsLeaves] at htext
      obtain ⟨r, hr, htext⟩ := htext
      obtain ⟨e, he, rfl⟩ := List.mem_map.1 hr
      exact ih e he d text htext

end Tree

/-- The leaves of a trace event hold no control characters. -/
theorem TraceEvent.noControls_leaves_tree (e : TraceEvent) (depths : RenderDepths) :
    ∀ text ∈ (e.tree depths).leaves, Text.NoControls text := by
  intro text htext
  rw [tree, Tree.leaves, Tree.mem_rowsLeaves] at htext
  obtain ⟨r, hr, htext⟩ := htext
  -- every row is a value that was opened
  have hopened : ∃ d v, r.2 = Tree.ofJson d v := by
    rcases List.mem_append.1 hr with hr | hr
    · obtain ⟨f, -, rfl⟩ := List.mem_map.1 hr
      exact ⟨_, f.2, rfl⟩
    · obtain ⟨v, -, rfl⟩ := Option.map_eq_some_iff.1 (Option.mem_toList.1 hr)
      exact ⟨_, v, rfl⟩
  obtain ⟨d, v, ht⟩ := hopened
  exact Tree.noControls_leaves_ofJson d v text (ht ▸ htext)

end LiveTrace
