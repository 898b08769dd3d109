import LiveTrace.Json.Printer
import LiveTrace.Proofs.Json.Structure
/-!
# LiveTrace.Proofs.Json.Controls

**JSON text holds no control characters** (`Json.noControls_text`). Inside strings they are escaped,
and compact text has no white space between its parts. So compact text stays on one line and can
hold no escape sequence of a terminal, whatever the strings and keys of the value hold.
-/

namespace LiveTrace

/-- Whether a text has no control characters. -/
def Text.NoControls (cs : List Char) : Prop := ∀ c ∈ cs, 0x20 ≤ c.toNat

namespace Text

@[simp] theorem noControls_nil : NoControls [] := nofun

@[simp] theorem noControls_cons {c : Char} {cs : List Char} :
    NoControls (c :: cs) ↔ 0x20 ≤ c.toNat ∧ NoControls cs := List.forall_mem_cons

@[simp] theorem noControls_append {cs ds : List Char} :
    NoControls (cs ++ ds) ↔ NoControls cs ∧ NoControls ds := List.forall_mem_append

theorem NoControls.take {cs : List Char} (h : NoControls cs) (n : Nat) : NoControls (cs.take n) :=
  fun c hc => h c (List.mem_of_mem_take hc)

theorem NoControls.drop {cs : List Char} (h : NoControls cs) (n : Nat) : NoControls (cs.drop n) :=
  fun c hc => h c (List.mem_of_mem_drop hc)

theorem NoControls.notMem {cs : List Char} (h : NoControls cs) {c : Char} (hc : c.toNat < 0x20) :
    c ∉ cs := fun hmem => Nat.not_lt.2 (h c hmem) hc

theorem noControls_replicate {c : Char} (hc : 0x20 ≤ c.toNat) (n : Nat) :
    NoControls (List.replicate n c) := fun _ hd => (List.mem_replicate.1 hd).2 ▸ hc

theorem noControls_repr (n : Nat) : NoControls (Nat.repr n).toList := by
  rw [Nat.repr_eq_ofList_toDigits, String.toList_ofList]
  intro c hc
  have hdigit : c.isDigit = true := Nat.isDigit_of_mem_toDigits (by decide) (by decide) hc
  simp only [Char.isDigit, Bool.and_eq_true, decide_eq_true_eq, ge_iff_le, UInt32.le_iff_toNat_le]
    at hdigit
  exact Nat.le_trans (by decide) hdigit.1

theorem noControls_toString_int (n : Int) : NoControls (toString n).toList := by
  cases n with
  | ofNat n => exact noControls_repr n
  | negSucc n =>
    show NoControls ("-" ++ Nat.repr (n + 1)).toList
    rw [String.toList_append, noControls_append]
    exact ⟨by simp, noControls_repr (n + 1)⟩

end Text

open Text

/-! ### Numbers -/

namespace Decimal

theorem noControls_plain {digits : List Char} (h : NoControls digits) (leading : Int) :
    NoControls (plain digits leading) := by
  have hzeros (n : Nat) : NoControls (zeros n) := noControls_replicate (by decide) n
  have hrest (n : Nat) : NoControls (if (digits.drop n).isEmpty then ['0'] else digits.drop n) := by
    split
    · simp
    · exact h.drop n
  unfold plain
  split
  · simp [h, hzeros]
  · simp only [noControls_append, noControls_cons]
    exact ⟨⟨h.take _, hzeros _⟩, by decide, hrest _⟩

theorem noControls_scientific {digits : List Char} (h : NoControls digits) (leading : Int) :
    NoControls (scientific digits leading) := by
  have hrest : NoControls (if (digits.drop 1).isEmpty then [] else '.' :: digits.drop 1) := by
    split
    · simp
    · simp only [noControls_cons]
      exact ⟨by decide, h.drop 1⟩
  have hsign : 0x20 ≤ (if leading < 0 then '-' else '+').toNat := by split <;> decide
  simp only [scientific, noControls_append, noControls_cons]
  exact ⟨⟨h.take 1, hrest⟩, by decide, hsign, noControls_repr _⟩

theorem Layout.noControls_writeDouble (l : Layout) (d : Double) : NoControls (l.writeDouble d) := by
  rw [writeDouble, noControls_append]
  constructor
  · split <;> simp
  · rw [write]
    split
    · exact noControls_plain (noControls_repr _) _
    · exact noControls_scientific (noControls_repr _) _

end Decimal

namespace Json

theorem Number.noControls_text (n : Number) : NoControls n.text := by
  cases n with
  | integer n => exact noControls_toString_int n
  | double d => exact doubleLayout.noControls_writeDouble d

/-! ### Strings -/

theorem le_hexDigit : ∀ n < 16, 0x20 ≤ (hexDigit n).toNat := by decide

theorem noControls_escape (c : Char) : NoControls (escape c) := by
  unfold escape
  by_cases hcontrol : c.toNat < 0x20
  · -- a short escape is a closed text, and any other is made of two hexadecimal digits
    have hhigh := le_hexDigit (c.toNat / 16) (by omega)
    have hlow := le_hexDigit (c.toNat % 16) (by omega)
    repeat' split
    all_goals simp [hhigh, hlow]
  · repeat' split
    all_goals simp [Nat.not_lt.1 hcontrol]

theorem noControls_quoted (s : String) : NoControls (quoted s) := by
  have hescapes : NoControls (s.toList.flatMap escape) := by
    intro c hc
    obtain ⟨d, -, hc⟩ := List.mem_flatMap.1 hc
    exact noControls_escape d c hc
  simp [quoted, hescapes]

/-! ### Values -/

theorem noControls_itemsText {items : List Json} (h : ∀ v ∈ items, NoControls v.text) :
    NoControls (itemsText items) := by
  induction items with
  | nil => simp [itemsText]
  | cons v rest ih =>
    have hrest := ih fun w hw => h w (List.mem_cons_of_mem v hw)
    simp [itemsText, h v List.mem_cons_self, hrest]

theorem noControls_fieldsText {fields : List (String × Json)}
    (h : ∀ e ∈ fields, NoControls e.2.text) : NoControls (fieldsText fields) := by
  induction fields with
  | nil => simp [fieldsText]
  | cons e rest ih =>
    have hrest := ih fun f hf => h f (List.mem_cons_of_mem e hf)
    simp [fieldsText, noControls_quoted, h e List.mem_cons_self, hrest]

/-- **JSON text holds no control characters.** -/
theorem noControls_text (v : Json) : NoControls v.text := by
  induction v using Json.induction with
  | null => simp [text]
  | bool b => cases b <;> simp [text, boolText]
  | number n => exact n.noControls_text
  | string s => exact noControls_quoted s
  | array items ih =>
    cases items with
    | nil => simp [text]
    | cons v rest =>
      have hrest := noControls_itemsText fun w hw => ih w (List.mem_cons_of_mem v hw)
      simp [text, ih v List.mem_cons_self, hrest]
  | object fields ih =>
    cases fields with
    | nil => simp [text]
    | cons e rest =>
      have hrest := noControls_fieldsText fun f hf => ih f (List.mem_cons_of_mem e hf)
      simp [text, noControls_quoted, ih e List.mem_cons_self, hrest]

end Json

end LiveTrace
