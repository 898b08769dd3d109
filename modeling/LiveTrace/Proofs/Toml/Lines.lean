import LiveTrace.Proofs.Json.RoundTrip
import LiveTrace.Proofs.Toml.Strings
import LiveTrace.Toml.Reader
import Mathlib.Data.List.Forall2
/-!
# LiveTrace.Proofs.Toml.Lines

**Every line that is written is read back.** The value of a setting is read back whatever it is
(`value?_write`), and so is the line of a setting, the line that opens a section and an empty line
(`reads_settingLine`, `reads_headerLine`, `reads_gap`). A document of such lines is read line by
line (`lines?_of_reads`).
-/

namespace LiveTrace.Toml

/-! ### Digits -/

section Digits

variable {c : Char} {ds : List Char}

theorem ne_of_isDigit (h : c.isDigit = true) {x : Char} (hx : x.isDigit = false) : c ≠ x := by
  rintro rfl
  rw [h] at hx
  contradiction

theorem isWordChar_of_isDigit (h : c.isDigit = true) : isWordChar c = true := by
  have hne {x : Char} (hx : x.isDigit = false) : (c == x) = false :=
    beq_eq_false_iff_ne.2 (ne_of_isDigit h hx)
  simp [isWordChar, hne (x := ' ') rfl, hne (x := '\t') rfl, hne (x := '\n') rfl,
    hne (x := '\r') rfl, hne (x := '#') rfl, hne (x := ',') rfl, hne (x := '=') rfl,
    hne (x := '[') rfl, hne (x := ']') rfl, hne (x := '\x7b') rfl, hne (x := '\x7d') rfl]

theorem hexValue?_of_isDigit (h : c.isDigit = true) :
    Json.hexValue? c = some (c.toNat - '0'.toNat) ∧ c.toNat - '0'.toNat < 10 := by
  have hrange : '0' ≤ c ∧ c ≤ '9' := by
    simpa [Char.isDigit, Char.le_def] using h
  refine ⟨if_pos hrange, ?_⟩
  have hhigh : c.toNat ≤ '9'.toNat := hrange.2
  have hnine : '9'.toNat = '0'.toNat + 9 := rfl
  omega

theorem digitIn_of_isDigit (h : c.isDigit = true) {base : Nat} (hbase : 10 ≤ base) :
    digitIn base c = true := by
  obtain ⟨hvalue, hlt⟩ := hexValue?_of_isDigit h
  rw [digitIn, hvalue]
  exact decide_eq_true (by omega)

theorem valueIn_of_isDigit (h : ∀ d ∈ ds, d.isDigit = true) :
    valueIn 10 ds = Nat.ofDigitChars 10 ds 0 := by
  have hfold (n : Nat) : ds.foldl (fun n c => n * 10 + (Json.hexValue? c).getD 0) n =
      Nat.ofDigitChars 10 ds n := by
    induction ds generalizing n with
    | nil => rfl
    | cons d ds ih =>
      obtain ⟨hd, hds⟩ := List.forall_mem_cons.1 h
      have hstep : n * 10 + (Json.hexValue? d).getD 0 = 10 * n + (d.toNat - '0'.toNat) := by
        rw [(hexValue?_of_isDigit hd).1, Option.getD_some, Nat.mul_comm]
      rw [List.foldl_cons, hstep, ih hds]
      rfl
  exact hfold 0

theorem isSpacedAfter_of_isDigit (isDigit : Char → Bool) (h : ∀ d ∈ ds, d.isDigit = true)
    (digit : Bool) : isSpacedAfter isDigit digit ds = true := by
  induction ds generalizing digit with
  | nil => rfl
  | cons d ds ih =>
    obtain ⟨hd, hds⟩ := List.forall_mem_cons.1 h
    have hne : d ≠ '_' := ne_of_isDigit hd rfl
    rw [isSpacedAfter]
    · exact ih hds _
    · exact fun hd' _ => hne hd'
    · exact fun c cs hd' _ => hne hd'

theorem sign_of_isDigit (h : c.isDigit = true) (cs : List Char) :
    sign (c :: cs) = (false, c :: cs) := by
  rw [sign]
  · exact fun cs' hc => ne_of_isDigit h rfl (List.cons.inj hc).1
  · exact fun cs' hc => ne_of_isDigit h rfl (List.cons.inj hc).1

end Digits

/-! ### Counts -/

theorem toList_toString (n : Nat) : (toString n).toList = Nat.toDigits 10 n := by
  show (Nat.repr n).toList = _
  rw [Nat.repr_eq_ofList_toDigits, String.toList_ofList]

theorem isDigit_of_mem_toDigits (n : Nat) : ∀ d ∈ Nat.toDigits 10 n, d.isDigit = true :=
  fun _ hd => Nat.isDigit_of_mem_toDigits (by decide) (by decide) hd

section Counts

variable {n : Nat}

/-- Counts that fit 64 bits are far from the largest integers of a document. -/
theorem integerValue_toDigits (h : n < 0x10000000000000000) :
    integerValue 10 false (Nat.toDigits 10 n) = some (.integer n) := by
  have hdigits := isDigit_of_mem_toDigits n
  have hempty : (Nat.toDigits 10 n).isEmpty = false := by simp
  have hall : (Nat.toDigits 10 n).all (digitIn 10) = true :=
    List.all_eq_true.2 fun d hd => digitIn_of_isDigit (hdigits d hd) (Nat.le_refl 10)
  have hvalue : valueIn 10 (Nat.toDigits 10 n) = n := by
    rw [valueIn_of_isDigit hdigits, Nat.ofDigitChars_ten_toDigits]
  have hrange : inRange n = true := by
    refine decide_eq_true ⟨?_, ?_⟩ <;> omega
  simp [integerValue, hall, hvalue, hrange]

theorem sign_toDigits (n : Nat) : sign (Nat.toDigits 10 n) = (false, Nat.toDigits 10 n) := by
  obtain ⟨d, ds, hd, hdigit⟩ := Json.exists_toDigits_eq n
  rw [hd]
  exact sign_of_isDigit hdigit ds

theorem integer?_toDigits (h : n < 0x10000000000000000) :
    integer? (Nat.toDigits 10 n) = some (.number (some (.integer n))) := by
  have hdigits := isDigit_of_mem_toDigits n
  have hzero : (Nat.toDigits 10 n).head? = some '0' → (Nat.toDigits 10 n).length = 1 := by
    intro hhead
    rcases Nat.eq_zero_or_pos n with rfl | hpos
    · rfl
    · exact absurd hhead (Json.head?_toDigits hpos)
  have hunspaced : unspaced (Nat.toDigits 10 n) = Nat.toDigits 10 n := by
    refine List.filter_eq_self.2 fun d hd => ?_
    simpa using ne_of_isDigit (hdigits d hd) (x := '_') rfl
  have hspaced : isSpaced (digitIn 16) (Nat.toDigits 10 n) = true :=
    isSpacedAfter_of_isDigit _ hdigits false
  simp [integer?, sign_toDigits, hspaced, hunspaced, integerValue_toDigits h]
  exact hzero

/-- Digits are neither a truth value nor a number with a name or in another base. -/
theorem ofWord?_toDigits (h : n < 0x10000000000000000) :
    ofWord? (Nat.toDigits 10 n) = some (.number (some (.integer n))) := by
  have hdigits := isDigit_of_mem_toDigits n
  obtain ⟨d, ds, hd, hdigit⟩ := Json.exists_toDigits_eq n
  have hne {c : Char} {cs : List Char} (hc : c.isDigit = false) : Nat.toDigits 10 n ≠ c :: cs := by
    rw [hd]
    exact fun heq => ne_of_isDigit hdigit hc (List.cons.inj heq).1
  have hspecial : special? (Nat.toDigits 10 n) = none := by
    rw [special?, sign_toDigits]
    simp [hne (c := 'i') rfl, hne (c := 'n') rfl]
  have hbased : based? (Nat.toDigits 10 n) = none := by
    unfold based?
    split
    case h_4 => rfl
    all_goals
      rename_i heq
      have hsecond := hdigits _ (heq ▸ List.mem_cons_of_mem _ List.mem_cons_self)
      contradiction
  have hwhole : (Nat.toDigits 10 n).dropWhile Char.isDigit = [] := by
    rw [← List.append_nil (Nat.toDigits 10 n), List.dropWhile_append_of_pos hdigits]
    rfl
  rw [ofWord?, if_neg (hne rfl), if_neg (hne rfl), hspecial, hbased]
  simp only [ofDigits?, sign_toDigits, hwhole, integer?_toDigits h]

end Counts

/-! ### Values -/

/-- The value of a setting. -/
def Setting.value : Setting → Value
  | text s => .text s
  | flag b => .flag b
  | count n => .number (some (.integer n))

/-- Whether a count fits 64 bits. -/
def Setting.Fits : Setting → Prop
  | text _ | flag _ => True
  | count n => n < 0x10000000000000000

theorem withTime_newline (w rest : List Char) : withTime w ('\n' :: rest) = (w, '\n' :: rest) := by
  unfold withTime
  split
  · rename_i heq
    exact absurd (List.cons.inj heq).1 (by decide)
  · rfl

theorem scalar?_of_ofWord? {w : List Char} {v : Value} (hw : ∀ c ∈ w, isWordChar c = true)
    (hv : ofWord? w = some v) (rest : List Char) :
    scalar? (w ++ '\n' :: rest) = some (v, '\n' :: rest) := by
  have hword : word (w ++ '\n' :: rest) = (w, '\n' :: rest) := by
    rw [word, List.takeWhile_append_of_pos hw, List.dropWhile_append_of_pos hw]
    exact congrArg (·, '\n' :: rest) (List.append_nil w)
  rw [scalar?, hword]
  simp only [withTime_newline, hv, Option.map_some]

theorem value?_of_string? {cs : List Char} {r : Option (List Char × List Char)}
    (h : string? cs = some r) (depth : Nat) :
    value? depth cs = r.map fun (s, rest) => (.text (String.ofList s), rest) := by
  rw [value?.eq_def, h]

theorem value?_of_isAlphanum {c : Char} (hc : c.isAlphanum = true) (depth : Nat) (cs : List Char) :
    value? depth (c :: cs) = scalar? (c :: cs) := by
  have hne {x : Char} (hx : x.isAlphanum = false) : c ≠ x := by
    rintro rfl
    rw [hc] at hx
    contradiction
  have hstring : string? (c :: cs) = none := by
    unfold string?
    split
    case h_5 => rfl
    all_goals
      rename_i heq
      exact absurd (List.cons.inj heq).1 (hne rfl)
  rw [value?.eq_def, hstring]
  split
  · contradiction
  · split
    case h_3 => rfl
    all_goals
      rename_i heq
      exact absurd (List.cons.inj heq).1 (hne rfl)

/-- **The value of a setting is read back**, if the line ends after it. -/
theorem value?_write {v : Setting} (h : v.Fits) (depth : Nat) (rest : List Char) :
    value? depth (v.write ++ '\n' :: rest) = some (v.value, '\n' :: rest) := by
  cases v with
  | text s =>
    rw [Setting.write, value?_of_string? (string?_quoted s.toList rest), Option.map_some]
    exact congrArg (fun s => some (Value.text s, '\n' :: rest)) String.ofList_toList
  | flag b =>
    cases b <;> exact (value?_of_isAlphanum (by rfl) depth _).trans rfl
  | count n =>
    have hword : ∀ d ∈ Nat.toDigits 10 n, isWordChar d = true := fun d hd =>
      isWordChar_of_isDigit (isDigit_of_mem_toDigits n d hd)
    have hread := scalar?_of_ofWord? hword (ofWord?_toDigits h) rest
    obtain ⟨d, ds, hd, hdigit⟩ := Json.exists_toDigits_eq n
    have halnum : d.isAlphanum = true := by rw [Char.isAlphanum, hdigit, Bool.or_true]
    rw [Setting.write, toList_toString]
    rw [hd, List.cons_append] at hread ⊢
    rw [value?_of_isAlphanum halnum, hread]
    rfl

/-- The value of a setting does not begin with a blank. -/
theorem Setting.exists_write_eq (v : Setting) :
    ∃ c cs, v.write = c :: cs ∧ isSpace c = false := by
  cases v with
  | text s =>
    have hwrite : (text s).write = (Quoting.of s.toList).write s.toList := rfl
    rw [hwrite]
    cases Quoting.of s.toList with
    | basic | basicLines => exact ⟨'"', _, rfl, rfl⟩
    | literal | literalLines => exact ⟨'\'', _, rfl, rfl⟩
  | flag b =>
    cases b with
    | true => exact ⟨'t', _, rfl, rfl⟩
    | false => exact ⟨'f', _, rfl, rfl⟩
  | count n =>
    obtain ⟨d, ds, hd, hdigit⟩ := Json.exists_toDigits_eq n
    have hspace : d ≠ ' ' ∧ d ≠ '\t' := ⟨ne_of_isDigit hdigit rfl, ne_of_isDigit hdigit rfl⟩
    refine ⟨d, ds, (toList_toString n).trans hd, ?_⟩
    simp [isSpace, hspace.1, hspace.2]

/-! ### Keys -/

/-- Names that need no quotes. -/
def IsBare (k : String) : Prop := k.toList ≠ [] ∧ ∀ c ∈ k.toList, isKeyChar c = true

instance : DecidablePred IsBare := fun k =>
  decidable_of_iff (k.toList.isEmpty = false ∧ k.toList.all isKeyChar = true) (by simp [IsBare])

theorem ne_of_isKeyChar {c : Char} (h : isKeyChar c = true) {x : Char}
    (hx : isKeyChar x = false) : c ≠ x := by
  rintro rfl
  rw [h] at hx
  contradiction

theorem skipSpaces_cons {c : Char} (h : isSpace c = false) (cs : List Char) :
    skipSpaces (c :: cs) = c :: cs := List.dropWhile_cons_of_neg (by simp [h])

theorem isSpace_of_isKeyChar {c : Char} (h : isKeyChar c = true) : isSpace c = false := by
  simp [isSpace, ne_of_isKeyChar h (x := ' ') rfl, ne_of_isKeyChar h (x := '\t') rfl]

theorem keyPart?_of_isKeyChar {c : Char} (h : isKeyChar c = true) (cs : List Char) :
    keyPart? (c :: cs) = some (String.ofList ((c :: cs).takeWhile isKeyChar),
      (c :: cs).dropWhile isKeyChar) := by
  unfold keyPart?
  split
  · rename_i heq
    exact absurd (List.cons.inj heq).1 (ne_of_isKeyChar h rfl)
  · rename_i heq
    exact absurd (List.cons.inj heq).1 (ne_of_isKeyChar h rfl)
  · split
    · rename_i hnil
      rw [List.takeWhile_cons_of_pos h] at hnil
      contradiction
    · rfl

/-- **A bare name is read back as a key**, up to a character that cannot go on with it. -/
theorem key?_append {k : String} (hk : IsBare k) {rest : List Char}
    (hrest : ∀ c ∈ rest.head?, isKeyChar c = false)
    (hpoint : (skipSpaces rest).head? ≠ some '.') :
    key? (k.toList ++ rest) = some ([k], skipSpaces rest) := by
  obtain ⟨hne, hchars⟩ := hk
  have hstop : rest.takeWhile isKeyChar = [] ∧ rest.dropWhile isKeyChar = rest := by
    cases rest with
    | nil => exact ⟨rfl, rfl⟩
    | cons c rest => simp [hrest c rfl]
  have hpart : keyPart? (skipSpaces (k.toList ++ rest)) = some (k, rest) := by
    cases hlist : k.toList with
    | nil => exact absurd hlist hne
    | cons c cs =>
      have hc : isKeyChar c = true := hchars c (hlist ▸ List.mem_cons_self)
      rw [List.cons_append, skipSpaces_cons (isSpace_of_isKeyChar hc), keyPart?_of_isKeyChar hc,
        ← List.cons_append, ← hlist, List.takeWhile_append_of_pos hchars,
        List.dropWhile_append_of_pos hchars, hstop.1, hstop.2, List.append_nil,
        String.ofList_toList]
  show keyParts? (79 + 1) (k.toList ++ rest) = _
  rw [keyParts?, hpart]
  simp only [Option.bind_eq_bind, Option.bind_some]
  split
  · rename_i heq
    rw [heq] at hpoint
    exact absurd rfl hpoint
  · rfl

/-! ### Lines -/

/-- A text that is read as one line, whatever follows. -/
structure Reads (text : List Char) (l : Line) : Prop where
  line (rest : List Char) : line? (text ++ rest) = some (l, rest)
  /-- It is not empty, and it does not begin with a mark of the byte order. -/
  head : ∃ c cs, text = c :: cs ∧ c ≠ '\uFEFF'

theorem reads_gap : Reads ['\n'] .blank := ⟨fun _ => rfl, '\n', [], rfl, by decide⟩

theorem statement?_of_isKeyChar {c : Char} (h : isKeyChar c = true) (cs : List Char) :
    statement? (c :: cs) = (keyValue? skipSpaces (value? maxDepth) (c :: cs)).map
      fun ((k, v), cs) => (.entry k v, cs) := by
  unfold statement?
  split
  case h_7 => rfl
  case h_1 => contradiction
  all_goals
    rename_i heq
    exact absurd (List.cons.inj heq).1 (ne_of_isKeyChar h rfl)

theorem keyValue?_write {k : String} (hk : IsBare k) {v : Setting} (hv : v.Fits)
    (rest : List Char) :
    keyValue? skipSpaces (value? maxDepth)
      (k.toList ++ ' ' :: '=' :: ' ' :: (v.write ++ '\n' :: rest)) =
        some (([k], v.value), '\n' :: rest) := by
  have hblank (cs : List Char) (c : Char) (hc : c ∈ (' ' :: cs).head?) : isKeyChar c = false := by
    rw [← Option.some.inj hc]
    rfl
  have hvalue : skipSpaces (' ' :: (v.write ++ '\n' :: rest)) = v.write ++ '\n' :: rest := by
    obtain ⟨c, cs, hwrite, hspace⟩ := v.exists_write_eq
    rw [hwrite]
    exact skipSpaces_cons hspace _
  have hkey : key? (k.toList ++ ' ' :: '=' :: ' ' :: (v.write ++ '\n' :: rest)) =
      some ([k], '=' :: ' ' :: (v.write ++ '\n' :: rest)) := key?_append hk (hblank _) nofun
  have hequals (cs : List Char) : skipSpaces ('=' :: cs) = '=' :: cs := skipSpaces_cons rfl cs
  rw [keyValue?, hkey]
  simp only [Option.bind_eq_bind, Option.bind_some, hequals, hvalue, value?_write hv]

/-- **The line of a setting is read back.** -/
theorem reads_settingLine {e : String × Setting} (hk : IsBare e.1) (hv : e.2.Fits) :
    Reads (settingLine e) (.entry [e.1] e.2.value) := by
  obtain ⟨k, v⟩ := e
  obtain ⟨c, cs, hc⟩ := List.exists_cons_of_ne_nil hk.1
  have hkey : isKeyChar c = true := hk.2 c (hc ▸ List.mem_cons_self)
  refine ⟨fun rest => ?_, c, cs ++ ([' ', '=', ' '] ++ v.write ++ ['\n']),
    by simp [settingLine, hc], ne_of_isKeyChar hkey (by decide)⟩
  have htext : settingLine (k, v) ++ rest =
      k.toList ++ ' ' :: '=' :: ' ' :: (v.write ++ '\n' :: rest) := by simp [settingLine]
  have hread := keyValue?_write hk hv rest
  rw [htext, line?]
  rw [hc, List.cons_append] at hread ⊢
  rw [skipSpaces_cons (isSpace_of_isKeyChar hkey), statement?_of_isKeyChar hkey, hread]
  rfl

/-- The line that opens a section. -/
def headerLine (name : String) : List Char := '[' :: (name.toList ++ [']', '\n'])

/-- **The line that opens a section is read back.** -/
theorem reads_headerLine {name : String} (h : IsBare name) :
    Reads (headerLine name) (.table [name]) := by
  refine ⟨fun rest => ?_, '[', name.toList ++ [']', '\n'], rfl, by decide⟩
  have htext : headerLine name ++ rest = '[' :: (name.toList ++ ']' :: '\n' :: rest) := by
    simp [headerLine]
  have hkey : key? (name.toList ++ ']' :: '\n' :: rest) = some ([name], ']' :: '\n' :: rest) :=
    key?_append h (fun c hc => by rw [← Option.some.inj hc]; rfl) nofun
  have hstatement : statement? ('[' :: (name.toList ++ ']' :: '\n' :: rest)) =
      some (.table [name], '\n' :: rest) := by
    rw [statement?]
    · rw [hkey]
      rfl
    · -- a second bracket would add a table to an array of tables
      intro cs hcs
      obtain ⟨c, l, hc⟩ := List.exists_cons_of_ne_nil h.1
      rw [hc] at hcs
      exact ne_of_isKeyChar (h.2 c (hc ▸ List.mem_cons_self)) rfl (List.cons.inj hcs).1
  rw [htext, line?, skipSpaces_cons rfl, hstatement]
  rfl

/-! ### Documents -/

/-- **A document of such texts is read line by line.** -/
theorem lines?_of_reads {texts : List (List Char)} {ls : List Line}
    (h : List.Forall₂ Reads texts ls) {fuel : Nat} (hfuel : ls.length ≤ fuel) :
    lines? fuel texts.flatten = some ls := by
  induction h generalizing fuel with
  | nil =>
    rw [List.flatten_nil]
    cases fuel <;> rfl
  | @cons text l texts ls hread _ ih =>
    obtain ⟨c, cs, rfl, -⟩ := hread.head
    cases fuel with
    | zero => contradiction
    | succ fuel =>
      have hfirst := hread.line texts.flatten
      rw [List.flatten_cons, List.cons_append] at *
      rw [lines?, hfirst]
      simp only [Option.bind_eq_bind, Option.bind_some, ih (Nat.le_of_succ_le_succ hfuel)]

theorem length_le_of_reads {texts : List (List Char)} {ls : List Line}
    (h : List.Forall₂ Reads texts ls) : ls.length ≤ texts.flatten.length := by
  induction h with
  | nil => exact Nat.le_refl 0
  | cons hread _ ih =>
    obtain ⟨c, cs, rfl, -⟩ := hread.head
    simp only [List.flatten_cons, List.length_append, List.length_cons]
    omega

end LiveTrace.Toml
