import LiveTrace.Proofs.Json.Lexis
/-!
# LiveTrace.Proofs.Json.Acceptance

**The reader of JSON accepts the texts of the grammar that stand for a value**, and reads that
value. The reader of the parts of a container is any that reads the phrases of a kind
(`Json.Reads`); a reader of values of some depth is one (`Json.reads_value`), by induction on the
depth. For a whole text that is an array it comes to `Json.readWithin?_eq_array_iff`.
-/

namespace LiveTrace

namespace Json

open Grammar

variable {cs rest text : List Char}

/-! ### Elements -/

theorem skipSpace_stop {after : List Char} {stop : Char} (h : Blank after)
    (hstop : isSpace stop = false) (rest : List Char) :
    skipSpace (after ++ stop :: rest) = stop :: rest := by
  rw [skipSpace_append h, skipSpace_cons hstop]

theorem ended_append {after : List Char} {stop : Char} (h : Blank after)
    (hstop : stop = ',' ∨ stop = ']' ∨ stop = '\x7d') (rest : List Char) :
    Ended (after ++ stop :: rest) := by
  intro c hc
  cases after with
  | nil =>
    cases hc
    exact .inr hstop
  | cons d after =>
    cases hc
    exact .inl (h _ List.mem_cons_self)

/-- White space before a field does not count. -/
theorem isField_skipSpace {value : List Char → Option (Json × List Char)} {field : String × Json}
    {tail : List Char} :
    IsField value cs field tail ↔ IsField value (skipSpace cs) field tail := by
  constructor
  · rintro ⟨hquote, hkey, hcolon, hv⟩
    exact ⟨by rw [skipSpace_skipSpace, hquote], hkey, hcolon, hv⟩
  · rintro ⟨hquote, hkey, hcolon, hv⟩
    rw [skipSpace_skipSpace] at hquote
    exact ⟨hquote, hkey, hcolon, hv⟩

section Series

variable {α : Type} {phrase : List Char → Option α → Prop}
  {reads : List Char → α → List Char → Prop} {close : Char}

/-- A series is read if each of its elements is read up to what ends it. -/
theorem series_of_separated {l : List (Option α)} {items : List α}
    (hread : ∀ {text a stop} rest, phrase text (some a) → stop = ',' ∨ stop = close →
      ∃ tail, reads (text ++ stop :: rest) a tail ∧ skipSpace tail = stop :: rest)
    (h : Separated phrase text l) (hl : l = items.map some) (rest : List Char) :
    Series reads close (text ++ close :: rest) items rest := by
  induction h generalizing items with
  | last ha =>
    obtain ⟨b, bs, rfl, rfl, hbs⟩ := List.map_eq_cons_iff.1 hl.symm
    obtain ⟨tail, hreads, hclose⟩ := hread rest ha (.inr rfl)
    rw [List.map_eq_nil_iff.1 hbs]
    exact .last hreads hclose
  | @next text others _ _ ha _ ih =>
    obtain ⟨b, bs, rfl, rfl, hbs⟩ := List.map_eq_cons_iff.1 hl.symm
    obtain ⟨tail, hreads, hcomma⟩ := hread (others ++ close :: rest) ha (.inl rfl)
    rw [List.append_assoc, List.cons_append]
    exact .next hreads hcomma (ih hbs.symm)

/-- What is read of a series are phrases with commas between them. -/
theorem separated_of_series {items : List α}
    (hread : ∀ {cs a tail}, reads cs a tail →
      ∃ text, cs = text ++ tail ∧ ∀ after, Blank after → phrase (text ++ after) (some a))
    (h : Series reads close cs items rest) :
    ∃ text, cs = text ++ close :: rest ∧ Separated phrase text (items.map some) := by
  induction h with
  | @last cs tail rest a ha hclose =>
    obtain ⟨text, rfl, hphrase⟩ := hread ha
    obtain ⟨after, hafter, htail⟩ := exists_blank_append tail
    refine ⟨text ++ after, ?_, .last (hphrase after hafter)⟩
    rw [List.append_assoc, ← hclose, ← htail]
  | @next cs tail next rest a l ha hcomma hl ih =>
    obtain ⟨text, rfl, hphrase⟩ := hread ha
    obtain ⟨after, hafter, htail⟩ := exists_blank_append tail
    obtain ⟨others, hnext, hothers⟩ := ih
    refine ⟨text ++ after ++ ',' :: others, ?_, .next (hphrase after hafter) hothers⟩
    rw [List.append_assoc, List.cons_append, ← hnext, List.append_assoc, ← hcomma, ← htail]

/-- White space before a series does not count if it does not count before an element. -/
theorem Series.of_skipSpace {l : List α}
    (hread : ∀ {a tail}, reads cs a tail ↔ reads (skipSpace cs) a tail) :
    Series reads close cs l rest ↔ Series reads close (skipSpace cs) l rest := by
  constructor
  · intro h
    cases h with
    | last ha hclose => exact .last (hread.1 ha) hclose
    | next ha hcomma hl => exact .next (hread.1 ha) hcomma hl
  · intro h
    cases h with
    | last ha hclose => exact .last (hread.2 ha) hclose
    | next ha hcomma hl => exact .next (hread.2 ha) hcomma hl

theorem length_skipSpace_le (cs : List Char) : (skipSpace cs).length ≤ cs.length :=
  List.length_dropWhile_le isSpace cs

/-- A series has no more elements than characters. -/
theorem Series.length_le {l : List α}
    (hread : ∀ {cs a tail}, reads cs a tail → tail.length ≤ cs.length)
    (h : Series reads close cs l rest) : l.length ≤ cs.length := by
  induction h with
  | @last cs tail rest a ha hclose =>
    have hle := hread ha
    have htail := length_skipSpace_le tail
    rw [hclose, List.length_cons] at htail
    simp only [List.length_singleton]
    omega
  | @next cs tail next rest a l ha hcomma hl ih =>
    have hle := hread ha
    have htail := length_skipSpace_le tail
    rw [hcomma, List.length_cons] at htail
    simp only [List.length_cons]
    omega

end Series

/-! ### Readers of parts -/

/-- Whether a reader reads the phrases of a kind: whatever it reads is one, after white space, and
any that stands for a value and ends is read. -/
structure Reads (value : List Char → Option (Json × List Char))
    (phrase : List Char → Option Json → Prop) : Prop where
  skip : ∀ cs, value (skipSpace cs) = value cs
  sound : ∀ {cs v rest}, value cs = some (v, rest) →
    ∃ text, skipSpace cs = text ++ rest ∧ phrase text (some v)
  complete : ∀ {text v rest}, phrase text (some v) → Ended rest →
    value (text ++ rest) = some (v, rest)
  begins : ∀ {text v}, phrase text v → ∃ c cs, text = c :: cs ∧ isSpace c = false ∧ c ≠ ']'

namespace Reads

variable {value : List Char → Option (Json × List Char)} {phrase : List Char → Option Json → Prop}
  (hvalue : Reads value phrase)

include hvalue

theorem blank_append {before : List Char} (h : Blank before) (cs : List Char) :
    value (before ++ cs) = value cs := by
  rw [← hvalue.skip (before ++ cs), skipSpace_append h, hvalue.skip]

/-- White space before an item does not count. -/
theorem isItem_skipSpace {v : Json} {tail : List Char} :
    IsItem value cs v tail ↔ IsItem value (skipSpace cs) v tail := by
  rw [IsItem, IsItem, hvalue.skip]

/-- An element is read with the white space before it. -/
theorem element {v : Json} {stop : Char} (h : Element phrase text (some v))
    (hstop : stop = ',' ∨ stop = ']' ∨ stop = '\x7d') (rest : List Char) :
    ∃ tail, value (text ++ stop :: rest) = some (v, tail) ∧ skipSpace tail = stop :: rest := by
  cases h with
  | @mk before text after _ hbefore h hafter =>
    refine ⟨after ++ stop :: rest, ?_, ?_⟩
    · rw [List.append_assoc, List.append_assoc, hvalue.blank_append hbefore]
      exact hvalue.complete h (ended_append hafter hstop rest)
    · have hspace : isSpace stop = false := by rcases hstop with rfl | rfl | rfl <;> rfl
      exact skipSpace_stop hafter hspace rest

/-- What is read is an element but for the white space after it. -/
theorem exists_element {v : Json} (h : value cs = some (v, rest)) :
    ∃ text, cs = text ++ rest ∧ ∀ after, Blank after → Element phrase (text ++ after) (some v) := by
  obtain ⟨text, hcs, hphrase⟩ := hvalue.sound h
  obtain ⟨before, hbefore, hskip⟩ := exists_blank_append cs
  refine ⟨before ++ text, ?_, ?_⟩
  · rw [hskip, hcs, List.append_assoc]
  · intro after hafter
    rw [List.append_assoc]
    exact .mk hbefore hphrase hafter

/-- A field is read with the white space before it. -/
theorem member {field : String × Json} {stop : Char} (h : Member phrase text (some field))
    (hstop : stop = ',' ∨ stop = ']' ∨ stop = '\x7d') (rest : List Char) :
    ∃ tail, IsField value (text ++ stop :: rest) field tail ∧ skipSpace tail = stop :: rest := by
  generalize hparts : some field = parts at h
  cases h with
  | @mk before key after text l v hbefore hkey hafter hv =>
    obtain ⟨k, hk, hfield⟩ := Option.bind_eq_some_iff.1 hparts.symm
    obtain ⟨w, rfl, rfl⟩ := Option.map_eq_some_iff.1 hfield
    obtain ⟨tail, hread, htail⟩ := hvalue.element hv hstop rest
    have hquote : skipSpace (before ++ '"' :: (key ++ '"' :: (after ++ ':' :: (text ++
        stop :: rest)))) = '"' :: (key ++ '"' :: (after ++ ':' :: (text ++ stop :: rest))) :=
      skipSpace_stop hbefore rfl _
    have hkey' := stringTail?_of_symbols hkey hk (after ++ ':' :: (text ++ stop :: rest))
    have hcolon : skipSpace (after ++ ':' :: (text ++ stop :: rest)) =
        ':' :: (text ++ stop :: rest) := skipSpace_stop hafter rfl _
    refine ⟨tail, ?_, htail⟩
    simpa using IsField.mk hquote hkey' hcolon hread

/-- What is read is a field but for the white space after it. -/
theorem exists_member {field : String × Json} (h : IsField value cs field rest) :
    ∃ text, cs = text ++ rest ∧
      ∀ after, Blank after → Member phrase (text ++ after) (some field) := by
  cases h with
  | @mk quoted key afterKey afterColon _ v hquote hkey hcolon hv =>
    obtain ⟨before, hbefore, hcs⟩ := exists_blank_append cs
    obtain ⟨keyText, l, hquoted, hsymbols, hl⟩ := exists_of_stringTail? hkey
    obtain ⟨after, hafter, hafterKey⟩ := exists_blank_append afterKey
    obtain ⟨text, htext, hphrase⟩ := hvalue.exists_element hv
    refine ⟨before ++ '"' :: (keyText ++ '"' :: (after ++ ':' :: text)), ?_, ?_⟩
    · rw [hcs, hquote, hquoted, hafterKey, hcolon, htext]
      simp
    · intro tail htail
      have hmember := Member.mk hbefore hsymbols hafter (hphrase tail htail)
      rw [hl, Option.bind_some, Option.map_some] at hmember
      simpa using hmember

theorem length_le {v : Json} (h : value cs = some (v, rest)) : rest.length ≤ cs.length := by
  obtain ⟨text, rfl, -⟩ := hvalue.exists_element h
  simp

theorem length_le_of_isField {field : String × Json} (h : IsField value cs field rest) :
    rest.length ≤ cs.length := by
  obtain ⟨text, rfl, -⟩ := hvalue.exists_member h
  simp

/-! ### Containers -/

theorem phrase_of_array? {v : Json} (h : array? value cs = some (v, rest)) :
    ∃ text items, '[' :: cs = text ++ rest ∧ Grammar.Array phrase text (items.map some) ∧
      v = .array items := by
  obtain ⟨before, hbefore, hcs⟩ := exists_blank_append cs
  unfold array? at h
  split at h
  · rename_i rest' hclose
    cases h
    refine ⟨'[' :: (before ++ [']']), [], ?_, .empty hbefore, rfl⟩
    rw [hcs, hclose]
    simp
  · obtain ⟨⟨items, rest'⟩, hitems, heq⟩ := Option.map_eq_some_iff.1 h
    cases heq
    have hseries := (Series.of_skipSpace hvalue.isItem_skipSpace).2 (series_of_items? hitems)
    obtain ⟨text, rfl, hseparated⟩ := separated_of_series hvalue.exists_element hseries
    exact ⟨'[' :: (text ++ [']']), items, by simp, .elements hseparated, rfl⟩

theorem phrase_of_object? {v : Json} (h : object? value cs = some (v, rest)) :
    ∃ text fields, '\x7b' :: cs = text ++ rest ∧
      Grammar.Object phrase text (fields.map some) ∧ v = ofFields fields := by
  obtain ⟨before, hbefore, hcs⟩ := exists_blank_append cs
  unfold object? at h
  split at h
  · rename_i rest' hclose
    cases h
    refine ⟨'\x7b' :: (before ++ ['\x7d']), [], ?_, .empty hbefore, rfl⟩
    rw [hcs, hclose]
    simp
  · obtain ⟨⟨fields, rest'⟩, hfields, heq⟩ := Option.map_eq_some_iff.1 h
    cases heq
    have hseries := (Series.of_skipSpace isField_skipSpace).2 (series_of_fields? hfields)
    obtain ⟨text, rfl, hseparated⟩ := separated_of_series hvalue.exists_member hseries
    exact ⟨'\x7b' :: (text ++ ['\x7d']), fields, by simp, .members hseparated, rfl⟩

/-- An element does not begin with what closes an array. -/
theorem skipSpace_ne_of_elements {l : List (Option Json)}
    (h : Separated (Element phrase) text l) (cs tail : List Char) :
    skipSpace (text ++ tail) ≠ ']' :: cs := by
  have helement {text tail : List Char} {v : Option Json} (h : Element phrase text v) :
      skipSpace (text ++ tail) ≠ ']' :: cs := by
    cases h with
    | mk hbefore h hafter =>
      obtain ⟨c, cs', rfl, hspace, hc⟩ := hvalue.begins h
      rw [List.append_assoc, List.append_assoc, List.cons_append, skipSpace_stop hbefore hspace]
      simp [hc]
  cases h with
  | last h => exact helement h
  | next h hl =>
    rw [List.append_assoc]
    exact helement h

theorem array?_of_phrase {items : List Json} (h : Grammar.Array phrase text (items.map some))
    (rest : List Char) :
    ∃ cs, text ++ rest = '[' :: cs ∧ array? value cs = some (.array items, rest) := by
  generalize hl : items.map some = l at h
  cases h with
  | @empty text h =>
    refine ⟨text ++ ']' :: rest, by simp, ?_⟩
    rw [List.map_eq_nil_iff.1 hl, array?, skipSpace_stop h rfl]
    rfl
  | @elements text _ h =>
    refine ⟨text ++ ']' :: rest, by simp, ?_⟩
    have hseries : Series (IsItem value) ']' (text ++ ']' :: rest) items rest :=
      series_of_separated (fun rest h hstop => hvalue.element h (hstop.imp_right .inl) rest) h
        hl.symm rest
    have hseries' := (Series.of_skipSpace hvalue.isItem_skipSpace).1 hseries
    have hread := items?_of_series hseries' (hseries'.length_le hvalue.length_le)
    unfold array?
    split
    · rename_i hclose
      exact absurd hclose (hvalue.skipSpace_ne_of_elements h _ _)
    · rw [hread, Option.map_some]

theorem object?_of_phrase {fields : List (String × Json)}
    (h : Grammar.Object phrase text (fields.map some)) (rest : List Char) :
    ∃ cs, text ++ rest = '\x7b' :: cs ∧ object? value cs = some (ofFields fields, rest) := by
  generalize hl : fields.map some = l at h
  cases h with
  | @empty text h =>
    refine ⟨text ++ '\x7d' :: rest, by simp, ?_⟩
    rw [List.map_eq_nil_iff.1 hl, object?, skipSpace_stop h rfl]
    rfl
  | @members text _ h =>
    refine ⟨text ++ '\x7d' :: rest, by simp, ?_⟩
    have hseries : Series (IsField value) '\x7d' (text ++ '\x7d' :: rest) fields rest :=
      series_of_separated (fun rest h hstop => hvalue.member h (hstop.imp_right .inr) rest) h
        hl.symm rest
    have hseries' := (Series.of_skipSpace isField_skipSpace).1 hseries
    have hread := fields?_of_series hseries' (hseries'.length_le hvalue.length_le_of_isField)
    unfold object?
    split
    · rename_i hclose
      -- a field begins with a quote
      cases hseries' with
      | last hfield | next hfield =>
        obtain ⟨hquote, -, -, -⟩ := hfield
        rw [skipSpace_skipSpace, hclose, List.cons.injEq] at hquote
        exact absurd hquote.1 (by decide)
    · rw [hread, Option.map_some]

end Reads

/-! ### Values of any depth -/

theorem mapM_id_eq_some_iff {α : Type} {l : List (Option α)} {l' : List α} :
    l.mapM id = some l' ↔ l = l'.map some := by
  induction l generalizing l' with
  | nil => cases l' <;> simp
  | cons a l ih =>
    simp only [List.mapM_cons, id_eq, Option.bind_eq_bind, Option.bind_eq_some_iff, ih,
      Option.pure_def, Option.some.injEq]
    constructor
    · rintro ⟨b, rfl, bs, rfl, rfl⟩
      rfl
    · intro h
      obtain ⟨b, bs, rfl, rfl, hbs⟩ := List.map_eq_cons_iff.1 h.symm
      exact ⟨b, rfl, bs, hbs.symm, rfl⟩

/-- What a value is: no container, or a container whose parts are values. -/
theorem value_some_iff {depth : Nat} {v : Json} :
    Value depth text (some v) ↔ Scalar text (some v) ∨ ∃ inner, depth = inner + 1 ∧
      ((∃ items, Grammar.Array (Value inner) text (items.map some) ∧ v = .array items) ∨
        ∃ fields, Grammar.Object (Value inner) text (fields.map some) ∧ v = ofFields fields) := by
  cases depth with
  | zero => simp [Value]
  | succ depth =>
    have hcombine {α : Type} {P : List (Option α) → Prop} {f : List α → Json} :
        (∃ l, P l ∧ some v = (l.mapM id).map f) ↔ ∃ l', P (l'.map some) ∧ v = f l' := by
      constructor
      · rintro ⟨l, hl, heq⟩
        obtain ⟨l', hl', rfl⟩ := Option.map_eq_some_iff.1 heq.symm
        rw [mapM_id_eq_some_iff.1 hl'] at hl
        exact ⟨l', hl, rfl⟩
      · rintro ⟨l', hl, rfl⟩
        refine ⟨_, hl, ?_⟩
        rw [mapM_id_eq_some_iff.2 rfl, Option.map_some]
    rw [Value, hcombine, hcombine]
    simp

theorem exists_cons_of_value {depth : Nat} {v : Option Json} (h : Value depth text v) :
    ∃ c cs, text = c :: cs ∧ isSpace c = false ∧ c ≠ ']' := by
  have hscalar (hs : Scalar text v) : ∃ c cs, text = c :: cs ∧ isSpace c = false ∧ c ≠ ']' := by
    cases hs with
    | null | true | false | string => exact ⟨_, _, rfl, rfl, by decide⟩
    | number hn =>
      obtain ⟨c, cs, rfl, hc⟩ := exists_cons_of_numeral hn
      refine ⟨c, cs, rfl, isSpace_of_signOrDigit hc, ?_⟩
      rintro rfl
      simp at hc
  cases depth with
  | zero => exact hscalar h
  | succ depth =>
    rcases h with h | ⟨items, h, -⟩ | ⟨fields, h, -⟩
    · exact hscalar h
    · cases h <;> exact ⟨_, _, rfl, rfl, by decide⟩
    · cases h <;> exact ⟨_, _, rfl, rfl, by decide⟩

theorem value?_of_scalar {depth : Nat} {v : Json} (h : Scalar text (some v)) (hrest : Ended rest) :
    value? depth (text ++ rest) = some (v, rest) := by
  generalize hw : some v = w at h
  cases h with
  | null | true | false =>
    cases hw
    rw [value?.eq_def]
    rfl
  | @string text l h =>
    obtain ⟨s, hs, rfl⟩ := Option.map_eq_some_iff.1 hw.symm
    have htext : '"' :: (text ++ ['"']) ++ rest = '"' :: (text ++ '"' :: rest) := by simp
    rw [htext, value?.eq_def]
    show (stringTail? _).map _ = _
    rw [stringTail?_of_symbols h hs, Option.map_some]
  | number h =>
    obtain ⟨n, rfl, rfl⟩ := Option.map_eq_some_iff.1 hw.symm
    have hread := number?_of_numeral h hrest
    obtain ⟨c, cs, rfl, hc⟩ := exists_cons_of_numeral h
    rw [List.cons_append] at hread ⊢
    rw [value?.eq_def, skipSpace_cons (isSpace_of_signOrDigit hc)]
    -- neither a sign nor a digit begins any other value
    split <;> simp_all

/-- What was read is no container, or it was read as a container. -/
theorem scalar_or_container_of_value? {depth : Nat} {v : Json}
    (h : value? depth cs = some (v, rest)) :
    (∃ text, skipSpace cs = text ++ rest ∧ Scalar text (some v)) ∨
      ∃ inner cs', depth = inner + 1 ∧
        ((skipSpace cs = '[' :: cs' ∧ array? (value? inner) cs' = some (v, rest)) ∨
          (skipSpace cs = '\x7b' :: cs' ∧ object? (value? inner) cs' = some (v, rest))) := by
  fun_induction value? depth cs generalizing v rest with
  | case1 depth cs cs' hcs =>
    cases h
    exact .inl ⟨_, hcs, .null⟩
  | case2 depth cs cs' hcs =>
    cases h
    exact .inl ⟨_, hcs, .true⟩
  | case3 depth cs cs' hcs =>
    cases h
    exact .inl ⟨_, hcs, .false⟩
  | case4 depth cs cs' hcs =>
    obtain ⟨⟨s, rest'⟩, hs, heq⟩ := Option.map_eq_some_iff.1 h
    cases heq
    obtain ⟨text, l, rfl, hsymbols, hl⟩ := exists_of_stringTail? hs
    have hscalar := Scalar.string hsymbols
    rw [hl, Option.map_some] at hscalar
    exact .inl ⟨_, by rw [hcs]; simp, hscalar⟩
  | case5 | case7 => contradiction
  | case6 cs cs' hcs inner => exact .inr ⟨inner, cs', rfl, .inl ⟨hcs, h⟩⟩
  | case8 cs cs' hcs inner => exact .inr ⟨inner, cs', rfl, .inr ⟨hcs, h⟩⟩
  | case9 =>
    obtain ⟨⟨n, rest'⟩, hn, heq⟩ := Option.map_eq_some_iff.1 h
    cases heq
    obtain ⟨text, hcs, hnumeral⟩ := exists_of_number? hn
    exact .inl ⟨text, hcs, .number hnumeral⟩

theorem value?_skipSpace (depth : Nat) (cs : List Char) :
    value? depth (skipSpace cs) = value? depth cs := by
  rw [value?.eq_def, skipSpace_skipSpace, ← value?.eq_def]

/-- A reader of values reads those of the grammar if the reader for one container less does. -/
theorem reads_value_of_inner {depth : Nat}
    (ih : ∀ inner, depth = inner + 1 → Reads (value? inner) (Value inner)) :
    Reads (value? depth) (Value depth) := by
  refine ⟨value?_skipSpace depth, ?_, ?_, exists_cons_of_value⟩
  · intro cs v rest h
    rcases scalar_or_container_of_value? h with
      ⟨text, hcs, hscalar⟩ | ⟨inner, cs', hdepth, ⟨hcs, h⟩ | ⟨hcs, h⟩⟩
    · exact ⟨text, hcs, value_some_iff.2 (.inl hscalar)⟩
    · obtain ⟨text, items, htext, harray, rfl⟩ := (ih inner hdepth).phrase_of_array? h
      refine ⟨text, by rw [hcs, htext], ?_⟩
      exact value_some_iff.2 (.inr ⟨inner, hdepth, .inl ⟨items, harray, rfl⟩⟩)
    · obtain ⟨text, fields, htext, hobject, rfl⟩ := (ih inner hdepth).phrase_of_object? h
      refine ⟨text, by rw [hcs, htext], ?_⟩
      exact value_some_iff.2 (.inr ⟨inner, hdepth, .inr ⟨fields, hobject, rfl⟩⟩)
  · intro text v rest h hrest
    rcases value_some_iff.1 h with
      hscalar | ⟨inner, rfl, ⟨items, harray, rfl⟩ | ⟨fields, hobject, rfl⟩⟩
    · exact value?_of_scalar hscalar hrest
    · obtain ⟨cs, hcs, hread⟩ := (ih inner rfl).array?_of_phrase harray rest
      rw [hcs, value?.eq_def]
      exact hread
    · obtain ⟨cs, hcs, hread⟩ := (ih inner rfl).object?_of_phrase hobject rest
      rw [hcs, value?.eq_def]
      exact hread

/-- **The reader of values reads the values of the grammar**, whatever depth is allowed. -/
theorem reads_value (depth : Nat) : Reads (value? depth) (Value depth) := by
  induction depth with
  | zero => exact reads_value_of_inner nofun
  | succ depth ih =>
    refine reads_value_of_inner ?_
    intro inner hdepth
    cases hdepth
    exact ih

/-! ### Whole texts -/

theorem skipSpace_eq_nil_iff : skipSpace cs = [] ↔ Blank cs :=
  List.dropWhile_eq_nil_iff

theorem not_scalar_array {items : List Json} : ¬ Scalar text (some (.array items)) := by
  generalize hv : some (Json.array items) = v
  intro h
  cases h with
  | null | true | false => cases hv
  | string h =>
    obtain ⟨s, -, hs⟩ := Option.map_eq_some_iff.1 hv.symm
    cases hs
  | number h =>
    obtain ⟨n, -, hn⟩ := Option.map_eq_some_iff.1 hv.symm
    cases hn

/-- **A text is read as an array** if it is one and each of its elements stands for a value; those
values are its items. -/
theorem readWithin?_eq_array_iff {depth : Nat} {s : String} {items : List Json} :
    readWithin? depth s = some (.array items) ↔ IsArray depth s (items.map some) := by
  have hreads := reads_value depth
  constructor
  · intro h
    simp only [readWithin?, Option.bind_eq_bind, Option.bind_eq_some_iff, Prod.exists] at h
    obtain ⟨v, rest, hread, h⟩ := h
    split at h
    · rename_i hrest
      cases h
      obtain ⟨text, hcs, hvalue⟩ := hreads.sound hread
      obtain ⟨before, hbefore, hs⟩ := exists_blank_append s.toList
      have hafter : Blank rest := skipSpace_eq_nil_iff.1 (List.isEmpty_iff.1 hrest)
      rcases value_some_iff.1 hvalue with
        hscalar | ⟨inner, rfl, ⟨items', harray, heq⟩ | ⟨fields, -, heq⟩⟩
      · exact absurd hscalar not_scalar_array
      · cases heq
        rw [IsArray, hs, hcs]
        exact .mk hbefore harray hafter
      · cases heq
    · contradiction
  · intro h
    cases depth with
    | zero => exact h.elim
    | succ inner =>
      rw [IsArray] at h
      generalize hs : s.toList = cs at h
      cases h with
      | @mk before text after _ hbefore harray hafter =>
        have hvalue : Value (inner + 1) text (some (.array items)) :=
          value_some_iff.2 (.inr ⟨inner, rfl, .inl ⟨items, harray, rfl⟩⟩)
        have hend : Ended after := fun c hc => .inl (hafter c (List.mem_of_mem_head? hc))
        have hread : value? (inner + 1) s.toList = some (.array items, after) := by
          rw [hs, hreads.blank_append hbefore, hreads.complete hvalue hend]
        simp [readWithin?, hread, skipSpace_eq_nil_iff.2 hafter]

end Json

end LiveTrace
