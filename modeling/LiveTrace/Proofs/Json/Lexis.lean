import LiveTrace.Proofs.Json.Grammar
import LiveTrace.Proofs.Json.RoundTrip
import LiveTrace.Proofs.Text.Trim
/-!
# LiveTrace.Proofs.Json.Lexis

**Strings and numbers of JSON as the reader takes them.** What is read of a string or of a number is
a text of the grammar with the characters or the number that it stands for
(`Json.exists_of_stringTail?`, `Json.exists_of_number?`), and every such text is read
(`Json.stringTail?_of_symbols`, `Json.number?_of_numeral`). For a number it has to be followed by
something with which a value can end (`Json.Ended`), since the reader takes as many digits as there
are.
-/

namespace LiveTrace

namespace Json

open Grammar

variable {cs rest text : List Char}

/-! ### White space -/

theorem exists_blank_append (cs : List Char) :
    ∃ before, Blank before ∧ cs = before ++ skipSpace cs :=
  Text.exists_append_dropWhile isSpace cs

theorem skipSpace_append {before : List Char} (h : Blank before) (cs : List Char) :
    skipSpace (before ++ cs) = skipSpace cs :=
  List.dropWhile_append_of_pos h

theorem skipSpace_skipSpace (cs : List Char) : skipSpace (skipSpace cs) = skipSpace cs :=
  List.dropWhile_idempotent isSpace cs

/-! ### Strings -/

theorem hex4?_append {digits : List Char} {n : Nat} (h : hex4? digits = some (n, []))
    (rest : List Char) : hex4? (digits ++ rest) = some (n, rest) := by
  unfold hex4? at h
  split at h
  · simp only [Option.bind_eq_bind, Option.bind_eq_some_iff, Option.some.injEq,
      Prod.mk.injEq] at h
    obtain ⟨_, ha, _, hb, _, hc, _, hd, hn, rfl⟩ := h
    simp [hex4?, ha, hb, hc, hd, hn]
  · contradiction

theorem exists_of_hex4? {n : Nat} (h : hex4? cs = some (n, rest)) :
    ∃ digits, cs = digits ++ rest ∧ hex4? digits = some (n, []) := by
  unfold hex4? at h
  split at h
  · rename_i a b c d _
    simp only [Option.bind_eq_bind, Option.bind_eq_some_iff, Option.some.injEq,
      Prod.mk.injEq] at h
    obtain ⟨_, ha, _, hb, _, hc, _, hd, hn, rfl⟩ := h
    exact ⟨[a, b, c, d], rfl, by simp [hex4?, ha, hb, hc, hd, hn]⟩
  · contradiction

/-- Symbols that stand for a character, whatever symbols follow. -/
structure StandsFor (text : List Char) (l : List Symbol) (c : Char) : Prop where
  symbols : ∀ {text' l'}, Symbols text' l' → Symbols (text ++ text') (l ++ l')
  characters : ∀ l', characters? (l ++ l') = (characters? l').map (c :: ·)

theorem StandsFor.letter {e c : Char} (he : (e, c) ∈ letters) :
    StandsFor ['\\', e] [.char c] c :=
  ⟨fun h => .letter he h, fun _ => rfl⟩

theorem StandsFor.unit {digits : List Char} {n : Nat} (hn : hex4? digits = some (n, []))
    (hhigh : ¬ IsHigh n) (hlow : ¬ IsLow n) :
    StandsFor ('\\' :: 'u' :: digits) [.unit n] (Char.ofNat n) := by
  refine ⟨fun h => by simpa using Symbols.unit hn h, ?_⟩
  intro l'
  rw [List.singleton_append, characters?.eq_def]
  simp only [if_neg hhigh, if_neg hlow]

theorem StandsFor.pair {digits digits' : List Char} {n m : Nat}
    (hn : hex4? digits = some (n, [])) (hm : hex4? digits' = some (m, [])) (hhigh : IsHigh n)
    (hlow : IsLow m) :
    StandsFor ('\\' :: 'u' :: (digits ++ '\\' :: 'u' :: digits')) [.unit n, .unit m]
      (Char.ofNat (0x10000 + (n - 0xD800) * 0x400 + (m - 0xDC00))) := by
  refine ⟨fun h => by simpa using Symbols.unit hn (Symbols.unit hm h), ?_⟩
  intro l'
  simp [characters?, hhigh, hlow]

theorem exists_of_unicodeEscape? {c : Char} (h : unicodeEscape? cs = some (c, rest)) :
    ∃ text l, '\\' :: 'u' :: cs = text ++ rest ∧ StandsFor text l c := by
  unfold unicodeEscape? at h
  simp only [Option.bind_eq_bind, Option.bind_eq_some_iff] at h
  obtain ⟨⟨n, mid⟩, hn, h⟩ := h
  obtain ⟨digits, rfl, hdigits⟩ := exists_of_hex4? hn
  simp only at h
  split at h
  · rename_i hhigh
    split at h
    · rename_i heq
      simp only [Option.bind_eq_some_iff] at h
      obtain ⟨⟨m, rest'⟩, hm, h⟩ := h
      obtain ⟨digits', rfl, hdigits'⟩ := exists_of_hex4? hm
      simp only at h
      split at h
      · rename_i hlow
        simp only [Option.some.injEq, Prod.mk.injEq] at h
        obtain ⟨rfl, rfl⟩ := h
        exact ⟨_, _, by simp, .pair hdigits hdigits' hhigh hlow⟩
      · contradiction
    · contradiction
  · rename_i hhigh
    split at h
    · contradiction
    · rename_i hlow
      cases h
      exact ⟨_, _, rfl, .unit hdigits hhigh hlow⟩

/-- What the reader takes for one character after a backslash. -/
theorem exists_of_escaped? {c : Char} (h : escaped? cs = some (c, rest)) :
    ∃ text l, '\\' :: cs = text ++ rest ∧ StandsFor text l c := by
  unfold escaped? at h
  split at h
  case h_9 => exact exists_of_unicodeEscape? h
  case h_10 => contradiction
  all_goals
    cases h
    exact ⟨_, _, rfl, .letter (by decide)⟩

/-- **What is read of a string** is the characters of its symbols. -/
theorem exists_of_stringTail? {s : List Char} (h : stringTail? cs = some (s, rest)) :
    ∃ text l, cs = text ++ '"' :: rest ∧ Symbols text l ∧ characters? l = some s := by
  fun_induction stringTail? cs generalizing s rest with
  | case1 => contradiction
  | case2 cs =>
    cases h
    exact ⟨[], [], rfl, .nil, rfl⟩
  | case3 cs c tail hescaped _ _ ih =>
    obtain ⟨⟨s', rest'⟩, hs, heq⟩ := Option.map_eq_some_iff.1 h
    cases heq
    obtain ⟨text', l', htail, hsymbols, hs'⟩ := ih hs
    obtain ⟨text, l, hcs, hstands⟩ := exists_of_escaped? hescaped
    refine ⟨text ++ text', l ++ l', ?_, hstands.symbols hsymbols, ?_⟩
    · rw [hcs, htail, List.append_assoc]
    · rw [hstands.characters, hs', Option.map_some]
  | case4 => contradiction
  | case5 => contradiction
  | case6 c cs hquote hbackslash hcontrol ih =>
    obtain ⟨⟨s', rest'⟩, hs, heq⟩ := Option.map_eq_some_iff.1 h
    cases heq
    obtain ⟨text', l', htail, hsymbols, hs'⟩ := ih hs
    refine ⟨c :: text', .char c :: l', by rw [htail, List.cons_append],
      .plain hquote hbackslash hcontrol hsymbols, ?_⟩
    rw [characters?, hs', Option.map_some]

theorem escaped?_letter {e c : Char} (h : (e, c) ∈ letters) (rest : List Char) :
    escaped? (e :: rest) = some (c, rest) := by
  simp only [letters, List.mem_cons, Prod.mk.injEq, List.not_mem_nil, or_false] at h
  rcases h with ⟨rfl, rfl⟩ | ⟨rfl, rfl⟩ | ⟨rfl, rfl⟩ | ⟨rfl, rfl⟩ | ⟨rfl, rfl⟩ | ⟨rfl, rfl⟩ |
    ⟨rfl, rfl⟩ | ⟨rfl, rfl⟩ <;> rfl

theorem escaped?_unit {digits : List Char} {n : Nat} (hn : hex4? digits = some (n, []))
    (hhigh : ¬ IsHigh n) (hlow : ¬ IsLow n) (rest : List Char) :
    escaped? ('u' :: (digits ++ rest)) = some (Char.ofNat n, rest) := by
  rw [IsHigh] at hhigh
  rw [IsLow] at hlow
  simp only [escaped?, unicodeEscape?, hex4?_append hn, Option.bind_eq_bind, Option.bind_some,
    if_neg hhigh, if_neg hlow]

theorem escaped?_pair {digits digits' : List Char} {n m : Nat}
    (hn : hex4? digits = some (n, [])) (hm : hex4? digits' = some (m, [])) (hhigh : IsHigh n)
    (hlow : IsLow m) (rest : List Char) :
    escaped? ('u' :: (digits ++ '\\' :: 'u' :: (digits' ++ rest))) =
      some (Char.ofNat (0x10000 + (n - 0xD800) * 0x400 + (m - 0xDC00)), rest) := by
  rw [IsHigh] at hhigh
  rw [IsLow] at hlow
  simp only [escaped?, unicodeEscape?, hex4?_append hn, hex4?_append hm, Option.bind_eq_bind,
    Option.bind_some, if_pos hhigh, if_pos hlow]

/-- **A string is read** if its symbols stand for characters. -/
theorem stringTail?_of_symbols {l : List Symbol} {s : List Char} (h : Symbols text l)
    (hs : characters? l = some s) (rest : List Char) :
    stringTail? (text ++ '"' :: rest) = some (s, rest) := by
  fun_induction characters? l generalizing text s with
  | case1 =>
    cases h
    cases hs
    rw [List.nil_append, stringTail?, if_pos rfl]
  | case2 c l ih =>
    obtain ⟨s', hs', rfl⟩ := Option.map_eq_some_iff.1 hs
    cases h with
    | plain hquote hbackslash hcontrol h =>
      rw [List.cons_append, stringTail?, if_neg hquote, if_neg hbackslash, if_neg hcontrol,
        ih h hs', Option.map_some]
    | letter he h =>
      rw [List.cons_append, List.cons_append, stringTail?_backslash (escaped?_letter he _),
        ih h hs', Option.map_some]
  | case3 n hhigh m l hlow ih =>
    obtain ⟨s', hs', rfl⟩ := Option.map_eq_some_iff.1 hs
    cases h with
    | unit hn h =>
      cases h with
      | unit hm h =>
        have hescaped := escaped?_pair hn hm hhigh hlow
        simp only [List.cons_append, List.append_assoc, stringTail?_backslash (hescaped _),
          ih h hs', Option.map_some]
  | case4 => contradiction
  | case5 => contradiction
  | case6 => contradiction
  | case7 n l hhigh hlow ih =>
    obtain ⟨s', hs', rfl⟩ := Option.map_eq_some_iff.1 hs
    cases h with
    | unit hn h =>
      simp only [List.cons_append, List.append_assoc,
        stringTail?_backslash (escaped?_unit hn hhigh hlow _), ih h hs', Option.map_some]

/-! ### Numbers -/

/-- What may follow a value: white space, the next element, or the end of a container or of the
text. -/
def Ended (rest : List Char) : Prop :=
  ∀ c, rest.head? = some c → isSpace c = true ∨ c = ',' ∨ c = ']' ∨ c = '\x7d'

theorem exists_of_digits? {ds : List Char} (h : digits? cs = some (ds, rest)) :
    cs = ds ++ rest ∧ Digits ds := by
  have hcs : cs.takeWhile Char.isDigit ++ cs.dropWhile Char.isDigit = cs :=
    List.takeWhile_append_dropWhile
  have hall : ∀ c ∈ cs.takeWhile Char.isDigit, c.isDigit = true :=
    fun _ hc => List.mem_takeWhile_imp hc
  rw [digits?] at h
  cases htake : cs.takeWhile Char.isDigit with
  | nil => simp [htake] at h
  | cons d ds' =>
    simp only [htake, Option.some.injEq, Prod.mk.injEq] at h
    obtain ⟨rfl, rfl⟩ := h
    rw [htake] at hcs hall
    exact ⟨hcs.symm, List.cons_ne_nil _ _, hall⟩

theorem exists_of_whole? {ds : List Char} (h : whole? cs = some (ds, rest)) :
    cs = ds ++ rest ∧ Whole ds := by
  simp only [whole?, Option.bind_eq_bind, Option.bind_eq_some_iff, Prod.exists] at h
  obtain ⟨ds', rest', hdigits, h⟩ := h
  split at h
  · contradiction
  · rename_i hzero
    cases h
    obtain ⟨hcs, hds⟩ := exists_of_digits? hdigits
    refine ⟨hcs, hds, ?_⟩
    intro hhead
    cases ds with
    | nil => contradiction
    | cons c ds =>
      cases ds with
      | nil => simpa using hhead
      | cons d ds => exact absurd ⟨hhead, by simp⟩ hzero

theorem exists_of_fraction? {digits : Option (List Char)} (h : fraction? cs = some (digits, rest)) :
    ∃ fraction, cs = fraction ++ rest ∧ Fraction fraction digits := by
  unfold fraction? at h
  split at h
  · obtain ⟨⟨ds, rest'⟩, hdigits, heq⟩ := Option.map_eq_some_iff.1 h
    cases heq
    obtain ⟨rfl, hds⟩ := exists_of_digits? hdigits
    exact ⟨_, rfl, .point hds⟩
  · cases h
    exact ⟨[], rfl, .none⟩

theorem exists_of_exponentTail? {mark : Char} {power : Option Int} (hmark : IsMark mark)
    (h : exponentTail? cs = some (power, rest)) :
    ∃ exponent, mark :: cs = exponent ++ rest ∧ Exponent exponent power := by
  unfold exponentTail? at h
  split at h
  all_goals
    obtain ⟨⟨ds, rest'⟩, hdigits, heq⟩ := Option.map_eq_some_iff.1 h
    cases heq
    obtain ⟨rfl, hds⟩ := exists_of_digits? hdigits
  · exact ⟨_, rfl, .plus hmark hds⟩
  · exact ⟨_, rfl, .minus hmark hds⟩
  · exact ⟨_, rfl, .unsigned hmark hds⟩

theorem exists_of_exponent? {power : Option Int} (h : exponent? cs = some (power, rest)) :
    ∃ exponent, cs = exponent ++ rest ∧ Exponent exponent power := by
  unfold exponent? at h
  split at h
  · exact exists_of_exponentTail? (.inl rfl) h
  · exact exists_of_exponentTail? (.inr rfl) h
  · cases h
    exact ⟨[], rfl, .none⟩

theorem exists_of_unsigned? {negative : Bool} {sign : List Char} {n : Number}
    (hsign : Sign sign negative) (h : unsigned? negative cs = some (n, rest)) :
    ∃ text, sign ++ cs = text ++ rest ∧ Numeral text (some n) := by
  simp only [unsigned?, Option.bind_eq_bind, Option.bind_eq_some_iff, Prod.exists] at h
  obtain ⟨whole, cs₁, hwhole, digits, cs₂, hfraction, power, cs₃, hexponent, n', hn, h⟩ := h
  cases h
  obtain ⟨rfl, hwhole'⟩ := exists_of_whole? hwhole
  obtain ⟨fraction, rfl, hfraction'⟩ := exists_of_fraction? hfraction
  obtain ⟨exponent, rfl, hexponent'⟩ := exists_of_exponent? hexponent
  refine ⟨sign ++ (whole ++ (fraction ++ exponent)), by simp, ?_⟩
  rw [← hn]
  exact .mk hsign hwhole' hfraction' hexponent'

/-- **What is read of a number** is the number of a numeral. -/
theorem exists_of_number? {n : Number} (h : number? cs = some (n, rest)) :
    ∃ text, cs = text ++ rest ∧ Numeral text (some n) := by
  unfold number? at h
  split at h
  · exact exists_of_unsigned? .minus h
  · exact exists_of_unsigned? .none h

/-- Whether no digit comes next. -/
def NoDigit (rest : List Char) : Prop := ∀ c, rest.head? = some c → c.isDigit = false

theorem Ended.ne_of_head {c : Char} (h : Ended rest) (hc : rest.head? = some c) :
    c.isDigit = false ∧ c ≠ '.' ∧ ¬ IsMark c := by
  have hend := h c hc
  simp only [isSpace, Bool.or_eq_true, beq_iff_eq] at hend
  rcases hend with (((rfl | rfl) | rfl) | rfl) | rfl | rfl | rfl <;>
    exact ⟨rfl, by decide, by unfold IsMark; decide⟩

theorem digits?_append {ds : List Char} (hds : Digits ds) (hrest : NoDigit rest) :
    digits? (ds ++ rest) = some (ds, rest) := by
  have hstop : rest.takeWhile Char.isDigit = [] ∧ rest.dropWhile Char.isDigit = rest := by
    cases rest with
    | nil => exact ⟨rfl, rfl⟩
    | cons c rest => simp [hrest c rfl]
  rw [digits?, List.takeWhile_append_of_pos hds.2, List.dropWhile_append_of_pos hds.2, hstop.1,
    hstop.2, List.append_nil]
  split
  · exact absurd rfl hds.1
  · rfl

theorem whole?_append {ds : List Char} (hds : Whole ds) (hrest : NoDigit rest) :
    whole? (ds ++ rest) = some (ds, rest) := by
  have hzero : ¬ (ds.head? = some '0' ∧ 1 < ds.length) := by
    rintro ⟨hhead, hlength⟩
    rw [hds.2 hhead] at hlength
    contradiction
  simp [whole?, digits?_append hds.1 hrest, hzero]

theorem exponentTail?_append {ds : List Char} (hds : Digits ds) (hrest : NoDigit rest) :
    exponentTail? (ds ++ rest) = some (some (digitsValue ds : Int), rest) := by
  have hread := digits?_append hds hrest
  obtain ⟨hne, hall⟩ := hds
  cases ds with
  | nil => exact absurd rfl hne
  | cons d ds =>
    -- the first of the digits is no sign
    have hd := hall d List.mem_cons_self
    rw [List.cons_append] at hread ⊢
    unfold exponentTail?
    split
    · simp_all
    · simp_all
    · rw [hread, Option.map_some]

theorem exponent?_append {exponent : List Char} {power : Option Int} (h : Exponent exponent power)
    (hrest : Ended rest) : exponent? (exponent ++ rest) = some (power, rest) := by
  have hstop : NoDigit rest := fun c hc => (hrest.ne_of_head hc).1
  have htail {mark : Char} {cs : List Char} (hmark : IsMark mark) :
      exponent? (mark :: cs) = exponentTail? cs := by
    rcases hmark with rfl | rfl <;> rfl
  cases h with
  | none =>
    rw [List.nil_append]
    unfold exponent?
    split
    · exact absurd (.inl rfl) (hrest.ne_of_head rfl).2.2
    · exact absurd (.inr rfl) (hrest.ne_of_head rfl).2.2
    · rfl
  | unsigned hmark h => rw [List.cons_append, htail hmark, exponentTail?_append h hstop]
  | plus hmark h =>
    rw [List.cons_append, htail hmark, List.cons_append]
    simp only [exponentTail?, digits?_append h hstop, Option.map_some]
  | minus hmark h =>
    rw [List.cons_append, htail hmark, List.cons_append]
    simp only [exponentTail?, digits?_append h hstop, Option.map_some]

/-- Neither an exponent nor what ends a number goes on with digits or with a point. -/
theorem head_exponent_append {exponent : List Char} {power : Option Int}
    (h : Exponent exponent power) (hrest : Ended rest) {c : Char}
    (hc : (exponent ++ rest).head? = some c) : c.isDigit = false ∧ c ≠ '.' := by
  have hmark {c : Char} (h : IsMark c) : c.isDigit = false ∧ c ≠ '.' := by
    rcases h with rfl | rfl <;> exact ⟨rfl, by decide⟩
  cases h with
  | none => exact ⟨(hrest.ne_of_head hc).1, (hrest.ne_of_head hc).2.1⟩
  | unsigned h | plus h | minus h =>
    cases hc
    exact hmark h

theorem fraction?_append {fraction : List Char} {digits : Option (List Char)}
    (h : Fraction fraction digits)
    (hrest : ∀ c, rest.head? = some c → c.isDigit = false ∧ c ≠ '.') :
    fraction? (fraction ++ rest) = some (digits, rest) := by
  cases h with
  | none =>
    rw [List.nil_append]
    unfold fraction?
    split
    · exact absurd rfl (hrest '.' rfl).2
    · rfl
  | point h =>
    have hstop : NoDigit rest := fun c hc => (hrest c hc).1
    rw [List.cons_append, fraction?, digits?_append h hstop, Option.map_some]

theorem unsigned?_append {whole fraction exponent : List Char} {negative : Bool}
    {digits : Option (List Char)} {power : Option Int} {n : Number} (hwhole : Whole whole)
    (hfraction : Fraction fraction digits) (hexponent : Exponent exponent power)
    (hn : Number.ofParts? negative whole digits power = some n) (hrest : Ended rest) :
    unsigned? negative (whole ++ (fraction ++ (exponent ++ rest))) = some (n, rest) := by
  have hpoint : ∀ c, (exponent ++ rest).head? = some c → c.isDigit = false ∧ c ≠ '.' :=
    fun c hc => head_exponent_append hexponent hrest hc
  have hstop : NoDigit (fraction ++ (exponent ++ rest)) := by
    intro c hc
    cases hfraction with
    | none => exact (hpoint c hc).1
    | point h =>
      cases hc
      rfl
  simp only [unsigned?, whole?_append hwhole hstop, fraction?_append hfraction hpoint,
    exponent?_append hexponent hrest, hn, Option.bind_eq_bind, Option.bind_some]

/-- A numeral begins with its sign or with a digit. -/
theorem exists_cons_of_numeral {n : Option Number} (h : Numeral text n) :
    ∃ c cs, text = c :: cs ∧ (c = '-' ∨ c.isDigit = true) := by
  cases h with
  | @mk _ whole _ _ _ _ _ hsign hwhole hfraction hexponent =>
    cases hsign with
    | minus => exact ⟨'-', _, rfl, .inl rfl⟩
    | none =>
      obtain ⟨⟨hne, hall⟩, -⟩ := hwhole
      cases whole with
      | nil => exact absurd rfl hne
      | cons d ds => exact ⟨d, _, rfl, .inr (hall d List.mem_cons_self)⟩

/-- **A number is read** if it is in the range of a double. -/
theorem number?_of_numeral {n : Number} (h : Numeral text (some n)) (hrest : Ended rest) :
    number? (text ++ rest) = some (n, rest) := by
  generalize hm : some n = m at h
  cases h with
  | @mk sign whole _ _ _ _ _ hsign hwhole hfraction hexponent =>
    have hread := unsigned?_append hwhole hfraction hexponent hm.symm hrest
    cases hsign with
    | minus => simpa [number?] using hread
    | none =>
      obtain ⟨⟨hne, hall⟩, -⟩ := hwhole
      cases whole with
      | nil => exact absurd rfl hne
      | cons d ds =>
        -- what begins with a digit has no sign
        have hd := hall d List.mem_cons_self
        simp only [List.nil_append, List.cons_append, List.append_assoc] at hread ⊢
        unfold number?
        split
        · simp_all
        · exact hread

end Json

end LiveTrace
