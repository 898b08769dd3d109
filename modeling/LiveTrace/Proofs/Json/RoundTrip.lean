import LiveTrace.Json.Printer
import LiveTrace.Proofs.Json.Reader
/-!
# LiveTrace.Proofs.Json.RoundTrip

**What is printed is read back.** A value whose numbers are integers of the wire is read back from
its compact text, whatever its strings hold, with the fields of every object in ascending order
(`Json.readWithin?_compact`).

The reader has to stop where a value ends. Strings and containers end with a character of their own;
an integer ends with its digits, so the statements are about values that are followed by something
that cannot go on with a number (`Json.Delimited`), as every item and field is.
-/

namespace LiveTrace

namespace Json

/-! ### Strings -/

theorem hexValue?_hexDigit : ∀ n < 16, hexValue? (hexDigit n) = some n := by decide

theorem hex4?_control {n : Nat} (h : n < 0x20) (rest : List Char) :
    hex4? ('0' :: '0' :: hexDigit (n / 16) :: hexDigit (n % 16) :: rest) = some (n, rest) := by
  have hzero : hexValue? '0' = some 0 := rfl
  have hvalue : n / 16 * 16 + n % 16 = n := by omega
  simp [hex4?, hzero, hexValue?_hexDigit (n / 16) (by omega), hexValue?_hexDigit (n % 16) (by omega),
    hvalue]

theorem escaped?_control {c : Char} (h : c.toNat < 0x20) (rest : List Char) :
    escaped? ('u' :: '0' :: '0' :: hexDigit (c.toNat / 16) :: hexDigit (c.toNat % 16) :: rest) =
      some (c, rest) := by
  -- a control character is no half of a surrogate pair
  have hhigh : ¬ (0xD800 ≤ c.toNat ∧ c.toNat < 0xDC00) := by omega
  have hlow : ¬ (0xDC00 ≤ c.toNat ∧ c.toNat < 0xE000) := by omega
  simp [escaped?, unicodeEscape?, hex4?_control h, hhigh, hlow, Char.ofNat_toNat]

/-- A character is written as itself, unless the reader would stumble over it, or as a backslash and
what the reader takes for the character. -/
theorem escape_eq (c : Char) :
    (escape c = [c] ∧ c ≠ '"' ∧ c ≠ '\\' ∧ ¬ c.toNat < 0x20) ∨
      ∃ e, escape c = '\\' :: e ∧ ∀ rest, escaped? (e ++ rest) = some (c, rest) := by
  by_cases hshort : c ∈ ['"', '\\', '\n', '\r', '\t', '\x08', '\x0c']
  · right
    simp only [List.mem_cons, List.not_mem_nil, or_false] at hshort
    rcases hshort with rfl | rfl | rfl | rfl | rfl | rfl | rfl <;>
      exact ⟨_, rfl, fun _ => rfl⟩
  · simp only [List.mem_cons, List.not_mem_nil, or_false, not_or] at hshort
    obtain ⟨hquote, hbackslash, hn, hr, ht, hb, hf⟩ := hshort
    by_cases hcontrol : c.toNat < 0x20
    · right
      exact ⟨['u', '0', '0', hexDigit (c.toNat / 16), hexDigit (c.toNat % 16)], by simp [escape, *],
        escaped?_control hcontrol⟩
    · left
      exact ⟨by simp [escape, *], hquote, hbackslash, hcontrol⟩

/-- After a backslash the reader goes on behind the escape. -/
theorem stringTail?_backslash {cs rest : List Char} {c : Char} (h : escaped? cs = some (c, rest)) :
    stringTail? ('\\' :: cs) = (stringTail? rest).map fun (s, rest) => (c :: s, rest) := by
  rw [stringTail?, if_neg (by decide), if_pos rfl]
  split
  · rename_i hsome
    rw [h] at hsome
    cases hsome
    rfl
  · rename_i hnone
    rw [h] at hnone
    contradiction

theorem stringTail?_escape (c : Char) (cs : List Char) :
    stringTail? (escape c ++ cs) = (stringTail? cs).map fun (s, rest) => (c :: s, rest) := by
  rcases escape_eq c with ⟨hplain, hquote, hbackslash, hcontrol⟩ | ⟨e, hescaped, hread⟩
  · rw [hplain, List.singleton_append, stringTail?, if_neg hquote, if_neg hbackslash,
      if_neg hcontrol]
  · rw [hescaped, List.cons_append, stringTail?_backslash (hread cs)]

/-- **The characters of a string are read back.** -/
theorem stringTail?_flatMap_escape (s rest : List Char) :
    stringTail? (s.flatMap escape ++ '"' :: rest) = some (s, rest) := by
  induction s with
  | nil => rw [List.flatMap_nil, List.nil_append, stringTail?, if_pos rfl]
  | cons c s ih => rw [List.flatMap_cons, List.append_assoc, stringTail?_escape, ih, Option.map_some]

/-! ### Numbers -/

/-- What may follow a value: the next item or field, or the end of a container or of the text. -/
def Delimited (rest : List Char) : Prop := ∀ c ∈ rest.head?, c = ',' ∨ c = ']' ∨ c = '\x7d'

theorem le_ofDigitChars (ds : List Char) (n : Nat) : n ≤ Nat.ofDigitChars 10 ds n := by
  induction ds generalizing n with
  | nil => exact Nat.le_refl n
  | cons d ds ih =>
    have hstep := ih (10 * n + (d.toNat - '0'.toNat))
    have hfold : Nat.ofDigitChars 10 (d :: ds) n =
      Nat.ofDigitChars 10 ds (10 * n + (d.toNat - '0'.toNat)) := rfl
    rw [hfold]
    omega

/-- All digits are kept of a number that fits. -/
theorem keptDigits_of_lt {ds : List Char} {kept : Nat}
    (h : Nat.ofDigitChars 10 ds kept < 0x10000000000000000) :
    keptDigits kept ds = (Nat.ofDigitChars 10 ds kept, 0) := by
  induction ds generalizing kept with
  | nil => rfl
  | cons d ds ih =>
    have hfold : Nat.ofDigitChars 10 (d :: ds) kept =
      Nat.ofDigitChars 10 ds (10 * kept + (d.toNat - '0'.toNat)) := rfl
    rw [hfold] at h ⊢
    have hnext := le_ofDigitChars ds (10 * kept + (d.toNat - '0'.toNat))
    rw [keptDigits, Nat.mul_comm kept 10, if_pos (by omega), ih h]

/-- Only zero begins with a zero. -/
theorem head?_toDigits {n : Nat} (h : 0 < n) : (Nat.toDigits 10 n).head? ≠ some '0' := by
  induction n using Nat.strongRecOn with
  | ind n ih =>
    rw [Nat.toDigits_eq_if (by decide)]
    split
    · rename_i hlt
      have hdigit : ∀ d < 10, 0 < d → [Nat.digitChar d].head? ≠ some '0' := by decide
      exact hdigit n hlt h
    · have hquotient : 0 < n / 10 := by omega
      have hhead := ih (n / 10) (by omega) hquotient
      cases hdigits : Nat.toDigits 10 (n / 10) with
      | nil => exact absurd hdigits Nat.toDigits_ne_nil
      | cons d ds => rwa [hdigits] at hhead

theorem takeWhile_digits {ds rest : List Char} (hds : ∀ d ∈ ds, d.isDigit = true)
    (hrest : Delimited rest) :
    (ds ++ rest).takeWhile Char.isDigit = ds ∧ (ds ++ rest).dropWhile Char.isDigit = rest := by
  have hstop : rest.takeWhile Char.isDigit = [] ∧ rest.dropWhile Char.isDigit = rest := by
    cases rest with
    | nil => exact ⟨rfl, rfl⟩
    | cons c rest =>
      have hc : c.isDigit = false := by rcases hrest c rfl with rfl | rfl | rfl <;> rfl
      simp [hc]
  rw [List.takeWhile_append_of_pos hds, List.dropWhile_append_of_pos hds, hstop.1, hstop.2,
    List.append_nil]
  exact ⟨rfl, rfl⟩

theorem whole?_toDigits (n : Nat) {rest : List Char} (hrest : Delimited rest) :
    whole? (Nat.toDigits 10 n ++ rest) = some (Nat.toDigits 10 n, rest) := by
  have hdigits : ∀ d ∈ Nat.toDigits 10 n, d.isDigit = true := fun d hd =>
    Nat.isDigit_of_mem_toDigits (by decide) (by decide) hd
  obtain ⟨htake, hdrop⟩ := takeWhile_digits hdigits hrest
  have hread : digits? (Nat.toDigits 10 n ++ rest) = some (Nat.toDigits 10 n, rest) := by
    rw [digits?, htake, hdrop]
    split
    · rename_i hnil
      exact absurd hnil Nat.toDigits_ne_nil
    · rfl
  have hzero : ¬ ((Nat.toDigits 10 n).head? = some '0' ∧ 1 < (Nat.toDigits 10 n).length) := by
    rintro ⟨hhead, hlength⟩
    rcases Nat.eq_zero_or_pos n with rfl | hpos
    · simp at hlength
    · exact head?_toDigits hpos hhead
  simp [whole?, hread, hzero]

/-- Digits that a value ends with have neither a fraction nor an exponent behind them. -/
theorem unsigned?_toDigits (negative : Bool) (n : Nat) {rest : List Char} (hrest : Delimited rest) :
    unsigned? negative (Nat.toDigits 10 n ++ rest) =
      (Number.ofParts? negative (Nat.toDigits 10 n) none none).map fun m => (m, rest) := by
  have hfraction : fraction? rest = some (none, rest) := by
    unfold fraction?
    split
    · exact absurd (hrest '.' rfl) (by decide)
    · rfl
  have hexponent : exponent? rest = some (none, rest) := by
    unfold exponent?
    split
    · exact absurd (hrest 'e' rfl) (by decide)
    · exact absurd (hrest 'E' rfl) (by decide)
    · rfl
  simp only [unsigned?, whole?_toDigits n hrest, hfraction, hexponent, Option.bind_eq_bind,
    Option.bind_some]
  cases Number.ofParts? negative (Nat.toDigits 10 n) none none <;> rfl

theorem ofParts?_toDigits (negative : Bool) {n : Nat} (h : n < 0x10000000000000000)
    (hnegative : negative = true → 0 < n ∧ n ≤ 0x8000000000000000) :
    Number.ofParts? negative (Nat.toDigits 10 n) none none =
      some (.integer (if negative then -n else n)) := by
  have hvalue : Nat.ofDigitChars 10 (Nat.toDigits 10 n) 0 = n := Nat.ofDigitChars_ten_toDigits
  have hkept : keptDigits 0 (Nat.toDigits 10 n) = (n, 0) := by
    rw [keptDigits_of_lt (by rw [hvalue]; exact h), hvalue]
  cases negative with
  | false => simp [Number.ofParts?, hkept]
  | true =>
    obtain ⟨hpos, hle⟩ := hnegative rfl
    simp [Number.ofParts?, hkept, hpos, hle]

theorem text_integer (n : Int) :
    (Number.integer n).text =
      if n < 0 then '-' :: Nat.toDigits 10 n.natAbs else Nat.toDigits 10 n.natAbs := by
  cases n with
  | ofNat n =>
    have hn : ¬ Int.ofNat n < 0 := Int.not_lt.2 (Int.natCast_nonneg n)
    rw [if_neg hn]
    show (Nat.repr n).toList = _
    rw [Nat.repr_eq_ofList_toDigits, String.toList_ofList]
    rfl
  | negSucc n =>
    rw [if_pos (Int.negSucc_lt_zero n)]
    show ("-" ++ Nat.repr (n + 1)).toList = _
    rw [Nat.repr_eq_ofList_toDigits, String.toList_append, String.toList_ofList,
      String.toList_ofList]
    rfl

theorem exists_toDigits_eq (n : Nat) :
    ∃ d ds, Nat.toDigits 10 n = d :: ds ∧ d.isDigit = true := by
  cases hdigits : Nat.toDigits 10 n with
  | nil => exact absurd hdigits Nat.toDigits_ne_nil
  | cons d ds =>
    have hmem : d ∈ Nat.toDigits 10 n := hdigits ▸ List.mem_cons_self
    exact ⟨d, ds, rfl, Nat.isDigit_of_mem_toDigits (by decide) (by decide) hmem⟩

/-- The text of an integer begins with its sign or with a digit. -/
theorem exists_text_integer_eq (n : Int) :
    ∃ c cs, (Number.integer n).text = c :: cs ∧ (c = '-' ∨ c.isDigit = true) := by
  rw [text_integer]
  split
  · exact ⟨'-', _, rfl, .inl rfl⟩
  · obtain ⟨d, ds, hdigits, hd⟩ := exists_toDigits_eq n.natAbs
    exact ⟨d, ds, hdigits, .inr hd⟩

/-- **An integer of the wire is read back.** -/
theorem number?_text {n : Int} (h : (Number.integer n).InRange) {rest : List Char}
    (hrest : Delimited rest) :
    number? ((Number.integer n).text ++ rest) = some (.integer n, rest) := by
  obtain ⟨hlow, hhigh⟩ := h
  have hfits : n.natAbs < 0x10000000000000000 := by omega
  rw [text_integer]
  by_cases hn : n < 0
  · have hnegated : -(n.natAbs : Int) = n := by omega
    have hparts := ofParts?_toDigits true hfits fun _ => by omega
    rw [if_pos hn, List.cons_append, number?, unsigned?_toDigits true n.natAbs hrest, hparts,
      if_pos rfl, hnegated]
    rfl
  · have hsame : (n.natAbs : Int) = n := by omega
    have hparts := ofParts?_toDigits false hfits nofun
    have hunsigned : ∀ cs, Nat.toDigits 10 n.natAbs ++ rest ≠ '-' :: cs := by
      obtain ⟨d, ds, hdigits, hd⟩ := exists_toDigits_eq n.natAbs
      rintro cs heq
      rw [hdigits, List.cons_append, List.cons.injEq] at heq
      rw [heq.1] at hd
      contradiction
    rw [if_neg hn, number?, unsigned?_toDigits false n.natAbs hrest, hparts, if_neg nofun, hsame]
    · rfl
    · exact hunsigned

/-! ### Values -/

theorem delimited_itemsText (items : List Json) (rest : List Char) :
    Delimited (itemsText items ++ rest) := by
  cases items <;> simp [itemsText, Delimited]

theorem delimited_fieldsText (fields : List (String × Json)) (rest : List Char) :
    Delimited (fieldsText fields ++ rest) := by
  cases fields <;> simp [fieldsText, Delimited]

theorem length_lt_itemsText (items : List Json) : items.length < (itemsText items).length := by
  induction items with
  | nil => simp [itemsText]
  | cons v rest ih =>
    simp only [itemsText, List.length_cons, List.length_append]
    omega

theorem length_lt_fieldsText (fields : List (String × Json)) :
    fields.length < (fieldsText fields).length := by
  induction fields with
  | nil => simp [fieldsText]
  | cons e rest ih =>
    simp only [fieldsText, List.length_cons, List.length_append]
    omega

/-- Items are read back if a reader reads each of them back. -/
theorem series_itemsText {value : List Char → Option (Json × List Char)} {v : Json}
    {items : List Json}
    (h : ∀ w ∈ v :: items, ∀ rest, Delimited rest → value (w.text ++ rest) = some (w.sorted, rest))
    (rest : List Char) :
    Series (IsItem value) ']' (v.text ++ (itemsText items ++ rest)) ((v :: items).map sorted)
      rest := by
  have hv : IsItem value (v.text ++ (itemsText items ++ rest)) v.sorted (itemsText items ++ rest) :=
    h v List.mem_cons_self _ (delimited_itemsText items rest)
  induction items generalizing v with
  | nil => exact .last hv rfl
  | cons w items ih =>
    have hothers : ∀ w' ∈ w :: items, _ := fun w' hw' => h w' (List.mem_cons_of_mem v hw')
    have hw := hothers w List.mem_cons_self _ (delimited_itemsText items rest)
    have htail : itemsText (w :: items) ++ rest = ',' :: (w.text ++ (itemsText items ++ rest)) := by
      simp [itemsText]
    exact .next hv (congrArg skipSpace htail) (ih hothers hw)

theorem isField_text {value : List Char → Option (Json × List Char)} {e : String × Json}
    {v : Json} {tail : List Char} (h : value (e.2.text ++ tail) = some (v, tail)) :
    IsField value (quoted e.1 ++ ':' :: (e.2.text ++ tail)) (e.1, v) tail := by
  have hquoted : quoted e.1 ++ ':' :: (e.2.text ++ tail) =
      '"' :: (e.1.toList.flatMap escape ++ '"' :: ':' :: (e.2.text ++ tail)) := by
    simp [quoted]
  have hkey := stringTail?_flatMap_escape e.1.toList (':' :: (e.2.text ++ tail))
  have hfield : IsField value (quoted e.1 ++ ':' :: (e.2.text ++ tail))
      (String.ofList e.1.toList, v) tail := ⟨congrArg skipSpace hquoted, hkey, rfl, h⟩
  rwa [String.ofList_toList] at hfield

/-- Fields are read back if a reader reads the value of each of them back. -/
theorem series_fieldsText {value : List Char → Option (Json × List Char)} {e : String × Json}
    {fields : List (String × Json)}
    (h : ∀ f ∈ e :: fields, ∀ rest, Delimited rest →
      value (f.2.text ++ rest) = some (f.2.sorted, rest))
    (rest : List Char) :
    Series (IsField value) '\x7d' (quoted e.1 ++ ':' :: (e.2.text ++ (fieldsText fields ++ rest)))
      ((e :: fields).map fun f => (f.1, f.2.sorted)) rest := by
  have he := isField_text (h e List.mem_cons_self _ (delimited_fieldsText fields rest))
  induction fields generalizing e with
  | nil => exact .last he rfl
  | cons f fields ih =>
    have hothers : ∀ f' ∈ f :: fields, _ := fun f' hf' => h f' (List.mem_cons_of_mem e hf')
    have hf := isField_text (hothers f List.mem_cons_self _ (delimited_fieldsText fields rest))
    have htail : fieldsText (f :: fields) ++ rest =
        ',' :: (quoted f.1 ++ ':' :: (f.2.text ++ (fieldsText fields ++ rest))) := by
      simp [fieldsText]
    exact .next he (congrArg skipSpace htail) (ih hothers hf)

/-- White space does not begin a number. -/
theorem isSpace_of_signOrDigit {c : Char} (h : c = '-' ∨ c.isDigit = true) :
    isSpace c = false := by
  cases hspace : isSpace c with
  | false => rfl
  | true =>
    simp only [isSpace, Bool.or_eq_true, beq_iff_eq] at hspace
    rcases hspace with ((rfl | rfl) | rfl) | rfl <;> simp_all

/-- How the text of a value begins: not with white space, and not with what closes an array. -/
theorem Integral.exists_text_eq {v : Json} (h : v.Integral) :
    ∃ c cs, v.text = c :: cs ∧ isSpace c = false ∧ c ≠ ']' := by
  cases h with
  | null => exact ⟨'n', _, rfl, rfl, by decide⟩
  | bool b => cases b <;> exact ⟨_, _, rfl, rfl, by decide⟩
  | @number n h =>
    obtain ⟨c, cs, htext, hc⟩ := exists_text_integer_eq n
    refine ⟨c, cs, htext, isSpace_of_signOrDigit hc, ?_⟩
    rintro rfl
    simp at hc
  | string s => exact ⟨'"', _, rfl, rfl, by decide⟩
  | @array items h => cases items <;> exact ⟨'[', _, rfl, rfl, by decide⟩
  | @object fields h => cases fields <;> exact ⟨'\x7b', _, rfl, rfl, by decide⟩

theorem skipSpace_cons {c : Char} (h : isSpace c = false) (cs : List Char) :
    skipSpace (c :: cs) = c :: cs := by simp [skipSpace, h]

theorem value?_number {depth : Nat} {n : Int} (h : (Number.integer n).InRange) {rest : List Char}
    (hrest : Delimited rest) :
    value? depth ((Number.integer n).text ++ rest) = some (.number (.integer n), rest) := by
  have hread := number?_text h hrest
  obtain ⟨c, cs, htext, hc⟩ := exists_text_integer_eq n
  rw [htext, List.cons_append] at hread ⊢
  rw [value?.eq_def, skipSpace_cons (isSpace_of_signOrDigit hc)]
  -- neither a sign nor a digit begins any other value
  split <;> simp_all

theorem array?_text {value : List Char → Option (Json × List Char)} {v : Json} {items : List Json}
    (hv : v.Integral)
    (h : ∀ w ∈ v :: items, ∀ rest, Delimited rest → value (w.text ++ rest) = some (w.sorted, rest))
    (rest : List Char) :
    array? value (v.text ++ (itemsText items ++ rest)) =
      some ((array (v :: items)).sorted, rest) := by
  have hseries := series_itemsText h rest
  have hfuel : ((v :: items).map sorted).length ≤
      (v.text ++ (itemsText items ++ rest)).length := by
    have hlength := length_lt_itemsText items
    simp only [List.length_map, List.length_append, List.length_cons]
    omega
  have hitems := items?_of_series hseries hfuel
  obtain ⟨c, cs, htext, hspace, hc⟩ := hv.exists_text_eq
  rw [htext, List.cons_append] at hitems ⊢
  rw [array?, skipSpace_cons hspace, sorted_array]
  split
  · simp_all
  · rw [hitems]
    rfl

theorem object?_text {value : List Char → Option (Json × List Char)} {e : String × Json}
    {fields : List (String × Json)}
    (h : ∀ f ∈ e :: fields, ∀ rest, Delimited rest →
      value (f.2.text ++ rest) = some (f.2.sorted, rest))
    (rest : List Char) :
    object? value (quoted e.1 ++ ':' :: (e.2.text ++ (fieldsText fields ++ rest))) =
      some ((object (e :: fields)).sorted, rest) := by
  have hseries := series_fieldsText h rest
  have hfuel : ((e :: fields).map fun f => (f.1, f.2.sorted)).length ≤
      (quoted e.1 ++ ':' :: (e.2.text ++ (fieldsText fields ++ rest))).length := by
    have hlength := length_lt_fieldsText fields
    simp only [List.length_map, List.length_append, List.length_cons]
    omega
  have hfields := fields?_of_series hseries hfuel
  have hquoted : quoted e.1 = '"' :: (e.1.toList.flatMap escape ++ ['"']) := rfl
  rw [hquoted, List.cons_append] at hfields ⊢
  rw [object?, skipSpace_cons rfl, sorted_object]
  split
  · simp_all
  · rw [hfields]
    rfl

/-- **The text of a value is read back**, with the fields of every object in order. -/
theorem value?_text {depth : Nat} {v : Json} (hv : v.Integral) (hdepth : v.depth ≤ depth)
    {rest : List Char} (hrest : Delimited rest) :
    value? depth (v.text ++ rest) = some (v.sorted, rest) := by
  induction hv generalizing depth rest with
  | null => rw [value?.eq_def]; rfl
  | bool b => cases b <;> (rw [value?.eq_def]; rfl)
  | number h => exact value?_number h hrest
  | string s =>
    have hread := stringTail?_flatMap_escape s.toList rest
    have htext : (string s).text ++ rest = '"' :: (s.toList.flatMap escape ++ '"' :: rest) := by
      simp [text, quoted]
    rw [htext, value?.eq_def]
    show (stringTail? _).map _ = _
    rw [hread]
    exact congrArg (fun s => some (string s, rest)) String.ofList_toList
  | @array items h ih =>
    cases depth with
    | zero => simp [Json.depth] at hdepth
    | succ depth =>
      rw [depth_array_le_iff] at hdepth
      cases items with
      | nil => rfl
      | cons v items =>
        have hread : ∀ w ∈ v :: items, ∀ rest, Delimited rest →
            value? depth (w.text ++ rest) = some (w.sorted, rest) :=
          fun w hw rest hrest => ih w hw (hdepth w hw) hrest
        have htext : (array (v :: items)).text ++ rest =
            '[' :: (v.text ++ (itemsText items ++ rest)) := by simp [text]
        rw [htext]
        exact array?_text (h v List.mem_cons_self) hread rest
  | @object fields h ih =>
    cases depth with
    | zero => simp [Json.depth] at hdepth
    | succ depth =>
      rw [depth_object_le_iff] at hdepth
      cases fields with
      | nil => rfl
      | cons e fields =>
        have hread : ∀ f ∈ e :: fields, ∀ rest, Delimited rest →
            value? depth (f.2.text ++ rest) = some (f.2.sorted, rest) :=
          fun f hf rest hrest => ih f hf (hdepth f hf) hrest
        have htext : (object (e :: fields)).text ++ rest =
            '\x7b' :: (quoted e.1 ++ ':' :: (e.2.text ++ (fieldsText fields ++ rest))) := by
          simp [text]
        rw [htext]
        exact object?_text hread rest

/-- **A value survives being printed and read**, except that its fields are sorted. -/
theorem readWithin?_compact {depth : Nat} {v : Json} (hv : v.Integral) (hdepth : v.depth ≤ depth) :
    readWithin? depth v.compact = some v.sorted := by
  have hend : Delimited [] := by
    intro c hc
    cases hc
  have hread := value?_text hv hdepth hend
  rw [List.append_nil] at hread
  rw [readWithin?, compact, String.toList_ofList, hread]
  rfl

/-- A value with its fields sorted is what its text is read as, and so it is canonical. -/
theorem Integral.canonical_sorted {v : Json} (h : v.Integral) : v.sorted.Canonical :=
  (readWithin?_canonical (readWithin?_compact h (Nat.le_refl v.depth))).1

end Json

end LiveTrace
