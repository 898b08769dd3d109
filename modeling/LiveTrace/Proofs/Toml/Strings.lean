import LiveTrace.Toml.Text
import LiveTrace.Toml.Writer
/-!
# LiveTrace.Proofs.Toml.Strings

**A string is read back in whichever form it is written.** The writer takes the first of four forms
that can hold a string and falls back on escapes, so there is a statement for each reader: what
stands between double quotes is read back by the escapes (`basic?_flatMap_escapeInLine`), what
stands between single quotes as it is (`literal?_append`), and the two forms on several lines
likewise (`basicLines?_escapeLines`, `literalLines?_append`). The statement for all forms is
`string?_quoted`.

Between three quotes the end is the difficulty. Up to two quotes may stand right in front of the
closing ones and belong to the string, so a reader has to look five characters ahead. It finds the
end where the string has only quotes left and nowhere before (`closing?_append`), because no run of
three quotes is written inside.
-/

namespace LiveTrace.Toml

/-! ### Characters -/

/-- A character that needs no escape may stand in a string, or is a line break. -/
theorem isTextChar_of_not_needsEscape {c : Char} (h : needsEscape c = false) (hline : c ≠ '\n') :
    isTextChar c = true := by
  have hcode : c.toNat ≠ 0x7F := by
    intro hcode
    simp [needsEscape, hcode] at h
  by_cases htab : c = '\t'
  · simp [isTextChar, htab]
  · have hlow : ¬ c.toNat < 0x20 := by
      intro hlow
      simp [needsEscape, hlow, htab, hline] at h
    simp [isTextChar, hcode, Nat.not_lt.1 hlow]

theorem hexValue?_upperHexDigit : ∀ n < 16, Json.hexValue? (upperHexDigit n) = some n := by decide

theorem escaped?_code {c : Char} (h : c.toNat < 0x80) (rest : List Char) :
    escaped? ('u' :: '0' :: '0' :: upperHexDigit (c.toNat / 16) :: upperHexDigit (c.toNat % 16) ::
      rest) = some (c, rest) := by
  have hzero : Json.hexValue? '0' = some 0 := rfl
  have hhigh := hexValue?_upperHexDigit (c.toNat / 16) (by omega)
  have hlow := hexValue?_upperHexDigit (c.toNat % 16) (by omega)
  have hvalue : c.toNat / 16 * 16 + c.toNat % 16 = c.toNat := by omega
  have hvalid : c.toNat.isValidChar := c.valid
  simp [escaped?, codePoint?, hexDigits?, hzero, hhigh, hlow, hvalue, charOf?, hvalid,
    Char.ofNat_toNat]

/-- A backslash and what a reader takes for a character, and what does not join two lines. -/
def Escapes (c : Char) (text : List Char) : Prop :=
  ∃ e, text = '\\' :: e ∧ (∀ rest, escaped? (e ++ rest) = some (c, rest)) ∧
    ∀ rest, joined? (e ++ rest) = none

/-- A character is written as itself, unless a reader would stumble over it, or as an escape. -/
theorem escape_eq (c : Char) :
    (escape c = [c] ∧ c ≠ '\\' ∧ needsEscape c = false) ∨ Escapes c (escape c) := by
  by_cases hshort : c ∈ ['\x08', '\t', '\x0c', '\r', '\\']
  · right
    simp only [List.mem_cons, List.not_mem_nil, or_false] at hshort
    rcases hshort with rfl | rfl | rfl | rfl | rfl <;>
      exact ⟨_, rfl, fun _ => rfl, fun _ => rfl⟩
  · simp only [List.mem_cons, List.not_mem_nil, or_false, not_or] at hshort
    obtain ⟨hb, ht, hf, hr, hbackslash⟩ := hshort
    cases hescape : needsEscape c with
    | false => exact .inl ⟨by simp [escape, *], hbackslash, rfl⟩
    | true =>
      right
      have hcode : c.toNat < 0x80 := by
        simp only [needsEscape, Bool.or_eq_true, Bool.and_eq_true, decide_eq_true_eq,
          beq_iff_eq] at hescape
        omega
      exact ⟨['u', '0', '0', upperHexDigit (c.toNat / 16), upperHexDigit (c.toNat % 16)],
        by simp [escape, *], escaped?_code hcode, fun _ => rfl⟩

/-! ### Strings on one line -/

theorem basic?_escapes {c : Char} {text : List Char} (h : Escapes c text) (cs : List Char) :
    basic? (text ++ cs) = (basic? cs).map fun (s, rest) => (c :: s, rest) := by
  obtain ⟨e, rfl, hread, -⟩ := h
  rw [List.cons_append, basic?]
  split
  · rename_i hsome
    rw [hread] at hsome
    cases hsome
    rfl
  · rename_i hnone
    rw [hread] at hnone
    contradiction

/-- On one line quotes and line breaks are escaped too. -/
theorem escapeInLine_eq (c : Char) :
    (escapeInLine c = [c] ∧ c ≠ '"' ∧ c ≠ '\\' ∧ isTextChar c = true) ∨
      Escapes c (escapeInLine c) := by
  unfold escapeInLine
  split
  · rename_i hquote
    exact .inr ⟨['"'], rfl, fun _ => by rw [hquote]; rfl, fun _ => rfl⟩
  · rename_i hquote
    split
    · rename_i hline
      exact .inr ⟨['n'], rfl, fun _ => by rw [hline]; rfl, fun _ => rfl⟩
    · rename_i hline
      rcases escape_eq c with ⟨hplain, hbackslash, hescape⟩ | hescapes
      · exact .inl ⟨hplain, hquote, hbackslash, isTextChar_of_not_needsEscape hescape hline⟩
      · exact .inr hescapes

theorem basic?_escapeInLine (c : Char) (cs : List Char) :
    basic? (escapeInLine c ++ cs) = (basic? cs).map fun (s, rest) => (c :: s, rest) := by
  rcases escapeInLine_eq c with ⟨hplain, hquote, hbackslash, htext⟩ | hescapes
  · rw [hplain, List.singleton_append, basic?, if_pos htext]
    · exact hquote
    · exact hbackslash
  · exact basic?_escapes hescapes cs

theorem basic?_flatMap_escapeInLine (s rest : List Char) :
    basic? (s.flatMap escapeInLine ++ '"' :: rest) = some (s, rest) := by
  induction s with
  | nil => rw [List.flatMap_nil, List.nil_append, basic?]
  | cons c s ih =>
    rw [List.flatMap_cons, List.append_assoc, basic?_escapeInLine, ih, Option.map_some]

theorem literal?_append {s : List Char} (h : ∀ c ∈ s, c ≠ '\'' ∧ isTextChar c = true)
    (rest : List Char) : literal? (s ++ '\'' :: rest) = some (s, rest) := by
  induction s with
  | nil => rw [List.nil_append, literal?, if_pos rfl]
  | cons c s ih =>
    obtain ⟨⟨hquote, htext⟩, hrest⟩ := List.forall_mem_cons.1 h
    rw [List.cons_append, literal?, if_neg hquote, if_pos htext, ih hrest, Option.map_some]

/-! ### The end of a string on several lines -/

theorem closing?_of_head?_ne {quote : Char} {cs : List Char} (h : cs.head? ≠ some quote) :
    closing? quote cs = none := by
  match cs with
  | [] | [_] | [_, _] => rfl
  | a :: b :: c :: cs =>
    have ha : a ≠ quote := fun ha => h (congrArg some ha)
    exact if_neg fun hall => ha hall.1

/-- **A string ends where it has quotes left and nothing else**, if it does not begin with three. -/
theorem closing?_append {quote : Char} (hline : quote ≠ '\n') {u : List Char}
    (h : ¬ [quote, quote, quote] <+: u) (rest : List Char) :
    closing? quote (u ++ quote :: quote :: quote :: '\n' :: rest) =
      if u.all (· == quote) then some (u, '\n' :: rest) else none := by
  -- the closing quotes lie among the five characters that are looked at if `u` has at most two
  match u with
  | [] => cases rest <;> simp [closing?, hline.symm]
  | [a] =>
    by_cases ha : a = quote <;> simp [closing?, ha, hline.symm]
  | [a, b] =>
    by_cases ha : a = quote <;> by_cases hb : b = quote <;> simp [closing?, ha, hb]
  | a :: b :: c :: u =>
    have hthree : ¬ (a = quote ∧ b = quote ∧ c = quote) := by
      rintro ⟨ha, hb, hc⟩
      exact h ⟨u, by rw [ha, hb, hc]; rfl⟩
    have hall : ¬ (a :: b :: c :: u).all (· == quote) = true := by
      simp only [List.all_cons, Bool.and_eq_true, beq_iff_eq]
      exact fun hall => hthree ⟨hall.1, hall.2.1, hall.2.2.1⟩
    rw [if_neg hall]
    exact if_neg hthree

/-! ### Strings between three double quotes -/

theorem basicLines?_cons {c : Char} {cs : List Char} (hclosing : closing? '"' (c :: cs) = none)
    (hbackslash : c ≠ '\\') (htext : isTextChar c = true ∨ c = '\n') :
    basicLines? (c :: cs) = (basicLines? cs).map fun (s, rest) => (c :: s, rest) := by
  rcases htext with htext | rfl
  · have hne {x : Char} (hx : isTextChar x = false) : c ≠ x := by
      rintro rfl
      rw [hx] at htext
      contradiction
    rw [basicLines?, hclosing]
    · exact if_pos htext
    · exact hbackslash
    · exact hne (by rfl)
    · exact fun cs hc => absurd hc (hne (by rfl))
  · rw [basicLines?, hclosing]

/-- How a character, quotes apart, stands between three double quotes: as itself or as an escape. -/
inductive InLines (c : Char) : List Char → Prop
  | plain (hquote : c ≠ '"') (hbackslash : c ≠ '\\') (htext : isTextChar c = true ∨ c = '\n') :
    InLines c [c]
  | escape {text : List Char} (h : Escapes c text) : InLines c text

theorem InLines.exists_eq_cons {c : Char} {text : List Char} (h : InLines c text) :
    ∃ a l, text = a :: l ∧ a ≠ '"' := by
  cases h with
  | plain hquote => exact ⟨c, [], rfl, hquote⟩
  | escape h =>
    obtain ⟨e, rfl, -⟩ := h
    exact ⟨'\\', e, rfl, by decide⟩

theorem basicLines?_inLines {c : Char} {text : List Char} (h : InLines c text) (cs : List Char) :
    basicLines? (text ++ cs) = (basicLines? cs).map fun (s, rest) => (c :: s, rest) := by
  have hclosing : closing? '"' (text ++ cs) = none := by
    obtain ⟨a, l, rfl, ha⟩ := h.exists_eq_cons
    exact closing?_of_head?_ne fun hhead => ha (Option.some.inj hhead)
  cases h with
  | plain hquote hbackslash htext => exact basicLines?_cons hclosing hbackslash htext
  | escape h =>
    obtain ⟨e, rfl, hread, hjoined⟩ := h
    rw [List.cons_append] at hclosing ⊢
    rw [basicLines?, hclosing]
    dsimp only
    split
    · rename_i hsome
      rw [hjoined] at hsome
      contradiction
    · split
      · rename_i hsome
        rw [hread] at hsome
        cases hsome
        rfl
      · rename_i hnone
        rw [hread] at hnone
        contradiction

/-- A quote stands for itself or, after two others, as an escape, and the count begins anew. -/
theorem escapeLines_cons (quotes : Nat) (c : Char) (s : List Char) :
    (c = '"' ∧ quotes ≠ 2 ∧ escapeLines quotes (c :: s) = '"' :: escapeLines (quotes + 1) s) ∨
      ∃ text, escapeLines quotes (c :: s) = text ++ escapeLines 0 s ∧ InLines c text := by
  rw [escapeLines]
  split
  · rename_i hquote
    split
    · right
      refine ⟨['\\', '"'], rfl, .escape ⟨['"'], rfl, fun _ => ?_, fun _ => rfl⟩⟩
      rw [hquote]
      rfl
    · rename_i hquotes
      exact .inl ⟨hquote, hquotes, rfl⟩
  · rename_i hquote
    right
    split
    · rename_i hline
      exact ⟨['\n'], rfl, by rw [hline]; exact .plain (by decide) (by decide) (.inr rfl)⟩
    · rename_i hline
      refine ⟨escape c, rfl, ?_⟩
      rcases escape_eq c with ⟨hplain, hbackslash, hescape⟩ | hescapes
      · rw [hplain]
        exact .plain hquote hbackslash (.inl (isTextChar_of_not_needsEscape hescape hline))
      · exact .escape hescapes

/-- No run of three quotes is written, those counted that came before. -/
theorem not_replicate_prefix_escapeLines {quotes : Nat} (h : quotes ≤ 2) (s : List Char) :
    ¬ List.replicate (3 - quotes) '"' <+: escapeLines quotes s := by
  -- a quote that is written as it is adds to the count and needs a quote less
  have hsucc : 3 - quotes = 2 - quotes + 1 := by omega
  induction s generalizing quotes with
  | nil =>
    rw [hsucc]
    exact fun hprefix => by simpa [escapeLines] using hprefix.length_le
  | cons c s ih =>
    rw [hsucc, List.replicate_succ]
    rcases escapeLines_cons quotes c s with ⟨-, hquotes, htext⟩ | ⟨text, htext, hin⟩
    · have hnext : 2 - quotes = 3 - (quotes + 1) := by omega
      rw [htext, List.cons_prefix_cons, hnext]
      exact fun hprefix => ih (by omega) (by omega) hprefix.2
    · obtain ⟨a, l, rfl, ha⟩ := hin.exists_eq_cons
      rw [htext, List.cons_append, List.cons_prefix_cons]
      exact fun hprefix => ha hprefix.1.symm

theorem not_three_prefix_escapeLines {quotes : Nat} (h : quotes ≤ 2) (s : List Char) :
    ¬ ['"', '"', '"'] <+: escapeLines quotes s := by
  have hfewer : List.replicate (3 - quotes) '"' <+: ['"', '"', '"'] :=
    match quotes, h with
    | 0, _ | 1, _ | 2, _ => by decide
  exact fun hprefix => not_replicate_prefix_escapeLines h s (hfewer.trans hprefix)

/-- Quotes are all written as they are if nothing else is written. -/
theorem eq_escapeLines_of_all {quotes : Nat} {s : List Char}
    (h : (escapeLines quotes s).all (· == '"') = true) : escapeLines quotes s = s := by
  induction s generalizing quotes with
  | nil => rfl
  | cons c s ih =>
    rcases escapeLines_cons quotes c s with ⟨rfl, -, htext⟩ | ⟨text, htext, hin⟩
    · rw [htext, List.all_cons, Bool.and_eq_true] at h
      rw [htext, ih h.2]
    · obtain ⟨a, l, rfl, ha⟩ := hin.exists_eq_cons
      rw [htext, List.cons_append, List.all_cons, Bool.and_eq_true, beq_iff_eq] at h
      exact absurd h.1 ha

theorem basicLines?_of_closing? {cs : List Char} {p : List Char × List Char}
    (h : closing? '"' cs = some p) : basicLines? cs = some p := by rw [basicLines?.eq_def, h]

theorem basicLines?_escapeLines {quotes : Nat} (h : quotes ≤ 2) (s rest : List Char) :
    basicLines? (escapeLines quotes s ++ '"' :: '"' :: '"' :: '\n' :: rest) =
      some (s, '\n' :: rest) := by
  induction s generalizing quotes with
  | nil => exact basicLines?_of_closing? (closing?_append (by decide) (by simp [escapeLines]) rest)
  | cons c s ih =>
    rcases escapeLines_cons quotes c s with ⟨rfl, hquotes, htext⟩ | ⟨text, htext, hin⟩
    · -- a quote ends the string only if quotes are left and nothing else, which are written as they
      -- are
      have hclosing :=
        closing?_append (by decide) (not_three_prefix_escapeLines h ('"' :: s)) rest
      by_cases hall : (escapeLines quotes ('"' :: s)).all (· == '"') = true
      · rw [if_pos hall] at hclosing
        rw [basicLines?_of_closing? hclosing, eq_escapeLines_of_all hall]
      · rw [if_neg hall, htext, List.cons_append] at hclosing
        rw [htext, List.cons_append, basicLines?_cons hclosing (by decide) (.inl rfl),
          ih (by omega), Option.map_some]
    · rw [htext, List.append_assoc, basicLines?_inLines hin, ih (by omega), Option.map_some]

/-! ### Strings between three single quotes -/

theorem le_longestRun (quote : Char) (current : Nat) (s : List Char) :
    current ≤ longestRun quote current s := by
  induction s generalizing current with
  | nil => exact Nat.le_refl current
  | cons c s ih =>
    rw [longestRun]
    split
    · exact Nat.le_trans (Nat.le_succ current) (ih (current + 1))
    · exact Nat.le_max_left ..

theorem longestRun_mono (quote : Char) {m n : Nat} (h : m ≤ n) (s : List Char) :
    longestRun quote m s ≤ longestRun quote n s := by
  induction s generalizing m n with
  | nil => exact h
  | cons c s ih =>
    rw [longestRun, longestRun]
    split
    · exact ih (Nat.succ_le_succ h)
    · omega

/-- What follows a character has no longer runs. -/
theorem longestRun_le_cons (quote c : Char) (s : List Char) :
    longestRun quote 0 s ≤ longestRun quote 0 (c :: s) := by
  rw [longestRun]
  split
  · exact longestRun_mono quote (Nat.zero_le 1) s
  · exact Nat.le_max_right ..

theorem ne_of_longestRun_eq_zero {quote : Char} {s : List Char} (h : longestRun quote 0 s = 0) :
    ∀ c ∈ s, c ≠ quote := by
  induction s with
  | nil => nofun
  | cons c s ih =>
    have hle := longestRun_le_cons quote c s
    have hrest : longestRun quote 0 s = 0 := by omega
    refine List.forall_mem_cons.2 ⟨fun hc => ?_, ih hrest⟩
    rw [longestRun, if_pos hc] at h
    have hone := le_longestRun quote (0 + 1) s
    omega

theorem not_three_prefix_of_longestRun {quote : Char} {s : List Char}
    (h : longestRun quote 0 s ≤ 2) : ¬ [quote, quote, quote] <+: s := by
  rintro ⟨rest, rfl⟩
  have hthree : longestRun quote 0 ([quote, quote, quote] ++ rest) = longestRun quote 3 rest := by
    simp [longestRun]
  have hle := le_longestRun quote 3 rest
  omega

theorem literalLines?_of_closing? {cs : List Char} {p : List Char × List Char}
    (h : closing? '\'' cs = some p) : literalLines? cs = some p := by rw [literalLines?.eq_def, h]

theorem literalLines?_cons {c : Char} {cs : List Char} (hclosing : closing? '\'' (c :: cs) = none)
    (htext : isTextChar c = true ∨ c = '\n') :
    literalLines? (c :: cs) = (literalLines? cs).map fun (s, rest) => (c :: s, rest) := by
  rcases htext with htext | rfl
  · have hne {x : Char} (hx : isTextChar x = false) : c ≠ x := by
      rintro rfl
      rw [hx] at htext
      contradiction
    rw [literalLines?, hclosing]
    · exact if_pos htext
    · exact hne (by rfl)
    · exact fun cs hc => absurd hc (hne (by rfl))
  · rw [literalLines?, hclosing]

theorem literalLines?_append {s : List Char} (htext : ∀ c ∈ s, isTextChar c = true ∨ c = '\n')
    (hruns : longestRun '\'' 0 s ≤ 2) (rest : List Char) :
    literalLines? (s ++ '\'' :: '\'' :: '\'' :: '\n' :: rest) = some (s, '\n' :: rest) := by
  induction s with
  | nil => exact literalLines?_of_closing? (closing?_append (by decide) (by simp) rest)
  | cons c s ih =>
    obtain ⟨hc, hrest⟩ := List.forall_mem_cons.1 htext
    have hclosing := closing?_append (by decide) (not_three_prefix_of_longestRun hruns) rest
    by_cases hall : (c :: s).all (· == '\'') = true
    · rw [if_pos hall] at hclosing
      exact literalLines?_of_closing? hclosing
    · rw [if_neg hall, List.cons_append] at hclosing
      rw [List.cons_append, literalLines?_cons hclosing hc,
        ih hrest (Nat.le_trans (longestRun_le_cons '\'' c s) hruns), Option.map_some]

/-! ### Strings in any form -/

/-- Single quotes hold a string on one line only if it has none, no line break and no character that
needs an escape. -/
theorem Quoting.of_eq_literal {s : List Char} (h : Quoting.of s = .literal) :
    ∀ c ∈ s, c ≠ '\'' ∧ isTextChar c = true := by
  have hall : s.any needsEscape = false ∧ longestRun '\'' 0 s = 0 ∧ s.contains '\n' = false := by
    unfold Quoting.of at h
    grind
  obtain ⟨hescape, hruns, hline⟩ := hall
  intro c hc
  refine ⟨ne_of_longestRun_eq_zero hruns c hc, isTextChar_of_not_needsEscape ?_ ?_⟩
  · simpa using List.any_eq_false.1 hescape c hc
  · rintro rfl
    simp [hc] at hline

theorem Quoting.of_eq_literalLines {s : List Char} (h : Quoting.of s = .literalLines) :
    (∀ c ∈ s, isTextChar c = true ∨ c = '\n') ∧ longestRun '\'' 0 s ≤ 2 := by
  have hall : s.any needsEscape = false ∧ longestRun '\'' 0 s ≤ 2 := by
    unfold Quoting.of at h
    grind
  refine ⟨fun c hc => ?_, hall.2⟩
  by_cases hline : c = '\n'
  · exact .inr hline
  · have hescape : needsEscape c = false := by simpa using List.any_eq_false.1 hall.1 c hc
    exact .inl (isTextChar_of_not_needsEscape hescape hline)

theorem string?_basic {cs : List Char} (h : ∀ rest, cs ≠ '"' :: '"' :: rest) :
    string? ('"' :: cs) = some (basic? cs) := by
  rw [string?]
  exact h

theorem string?_literal {cs : List Char} (h : ∀ rest, cs ≠ '\'' :: '\'' :: rest) :
    string? ('\'' :: cs) = some (literal? cs) := by
  rw [string?]
  exact h

/-- The line break after the opening quotes is dropped, and none of the string is. -/
theorem skipFirstLine_opening {s text : List Char}
    (h : '\n' ∉ s → newline? text = none) : skipFirstLine (opening s ++ text) = text := by
  unfold opening
  split
  · rfl
  · rename_i hline
    rw [List.nil_append, skipFirstLine, h (by simpa using hline)]
    rfl

theorem newline?_of_isTextChar {c : Char} (h : isTextChar c = true) (cs : List Char) :
    newline? (c :: cs) = none := by
  unfold newline?
  split
  · rename_i heq
    rw [(List.cons.inj heq).1] at h
    contradiction
  · rename_i heq
    rw [(List.cons.inj heq).1] at h
    contradiction
  · rfl

theorem string?_write_basic (s rest : List Char) :
    string? (Quoting.basic.write s ++ '\n' :: rest) = some (some (s, '\n' :: rest)) := by
  have htext : Quoting.basic.write s ++ '\n' :: rest =
      '"' :: (s.flatMap escapeInLine ++ '"' :: '\n' :: rest) := by simp [Quoting.write]
  rw [htext, string?_basic, basic?_flatMap_escapeInLine]
  -- two quotes more would open a string on several lines
  intro cs hcs
  cases s with
  | nil => simp at hcs
  | cons c s =>
    rw [List.flatMap_cons, List.append_assoc] at hcs
    rcases escapeInLine_eq c with ⟨hplain, hquote, -⟩ | ⟨e, hescape, -⟩
    · rw [hplain] at hcs
      exact hquote (List.cons.inj hcs).1
    · rw [hescape] at hcs
      exact absurd (List.cons.inj hcs).1 (by decide)

theorem string?_write_literal {s : List Char} (h : ∀ c ∈ s, c ≠ '\'' ∧ isTextChar c = true)
    (rest : List Char) :
    string? (Quoting.literal.write s ++ '\n' :: rest) = some (some (s, '\n' :: rest)) := by
  have htext : Quoting.literal.write s ++ '\n' :: rest =
      '\'' :: (s ++ '\'' :: '\n' :: rest) := by simp [Quoting.write]
  rw [htext, string?_literal, literal?_append h]
  intro cs hcs
  cases s with
  | nil => simp at hcs
  | cons c s => exact (h c List.mem_cons_self).1 (List.cons.inj hcs).1

theorem string?_write_basicLines (s rest : List Char) :
    string? (Quoting.basicLines.write s ++ '\n' :: rest) = some (some (s, '\n' :: rest)) := by
  have htext : Quoting.basicLines.write s ++ '\n' :: rest = '"' :: '"' :: '"' ::
      (opening s ++ (escapeLines 0 s ++ '"' :: '"' :: '"' :: '\n' :: rest)) := by
    simp [Quoting.write]
  rw [htext, string?, skipFirstLine_opening, basicLines?_escapeLines (Nat.zero_le 2)]
  intro hline
  cases s with
  | nil => rfl
  | cons c s =>
    rcases escapeLines_cons 0 c s with ⟨-, -, hc⟩ | ⟨text, hc, hin⟩
    · rw [hc]
      rfl
    · rw [hc, List.append_assoc]
      cases hin with
      | plain _ _ hplain =>
        have hne : c ≠ '\n' := fun hne => hline (hne ▸ List.mem_cons_self)
        exact newline?_of_isTextChar (hplain.resolve_right hne) _
      | escape hescape =>
        obtain ⟨e, rfl, -⟩ := hescape
        rfl

theorem string?_write_literalLines {s : List Char}
    (htext : ∀ c ∈ s, isTextChar c = true ∨ c = '\n') (hruns : longestRun '\'' 0 s ≤ 2)
    (rest : List Char) :
    string? (Quoting.literalLines.write s ++ '\n' :: rest) = some (some (s, '\n' :: rest)) := by
  have hwrite : Quoting.literalLines.write s ++ '\n' :: rest = '\'' :: '\'' :: '\'' ::
      (opening s ++ (s ++ '\'' :: '\'' :: '\'' :: '\n' :: rest)) := by
    simp [Quoting.write]
  rw [hwrite, string?, skipFirstLine_opening, literalLines?_append htext hruns]
  intro hline
  cases s with
  | nil => rfl
  | cons c s =>
    have hne : c ≠ '\n' := fun hne => hline (hne ▸ List.mem_cons_self)
    exact newline?_of_isTextChar ((htext c List.mem_cons_self).resolve_right hne) _

/-- **A string is read back**, whatever it holds, if the line ends after it. -/
theorem string?_quoted (s rest : List Char) :
    string? (quoted s ++ '\n' :: rest) = some (some (s, '\n' :: rest)) := by
  unfold quoted
  cases hform : Quoting.of s with
  | basic => exact string?_write_basic s rest
  | literal => exact string?_write_literal (Quoting.of_eq_literal hform) rest
  | basicLines => exact string?_write_basicLines s rest
  | literalLines =>
    obtain ⟨htext, hruns⟩ := Quoting.of_eq_literalLines hform
    exact string?_write_literalLines htext hruns rest

end LiveTrace.Toml
