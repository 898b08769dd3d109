import LiveTrace.Json.Reader
/-!
# LiveTrace.Toml.Text

Strings of TOML documents, of four kinds: between double quotes, where a backslash begins an
escape, or between single quotes, where every character stands for itself; and each on one line, or
on several between three quotes. A reader of a string starts after the opening quotes and gives the
characters with the rest of the document.
-/

namespace LiveTrace.Toml

/-- A line break at the front is dropped. -/
def newline? : List Char → Option (List Char)
  | '\n' :: cs => some cs
  | '\r' :: '\n' :: cs => some cs
  | _ => none

/-- Whether a character may stand in a string, a line break apart. -/
def isTextChar (c : Char) : Bool := c == '\t' || (0x20 ≤ c.toNat && c.toNat != 0x7F)

/-! ## Escapes -/

/-- Hexadecimal digits, `n` of them, as a number that continues `value`. -/
def hexDigits? : (n value : Nat) → List Char → Option (Nat × List Char)
  | 0, value, cs => some (value, cs)
  | _ + 1, _, [] => none
  | n + 1, value, c :: cs =>
    match Json.hexValue? c with
    | some d => hexDigits? n (value * 16 + d) cs
    | none => none

/-- The character of a code point. -/
def charOf? (n : Nat) : Option Char := if n.isValidChar then some (Char.ofNat n) else none

/-- The character whose code point is given by `n` digits. -/
def codePoint? (n : Nat) (cs : List Char) : Option (Char × List Char) :=
  match hexDigits? n 0 cs with
  | some (value, rest) => (charOf? value).map fun c => (c, rest)
  | none => none

/-- The character that follows a backslash stands for. -/
def escaped? : List Char → Option (Char × List Char)
  | '"' :: cs => some ('"', cs)
  | '\\' :: cs => some ('\\', cs)
  | 'b' :: cs => some ('\x08', cs)
  | 'e' :: cs => some ('\x1b', cs)
  | 'f' :: cs => some ('\x0c', cs)
  | 'n' :: cs => some ('\n', cs)
  | 'r' :: cs => some ('\r', cs)
  | 't' :: cs => some ('\t', cs)
  | 'x' :: cs => codePoint? 2 cs
  | 'u' :: cs => codePoint? 4 cs
  | 'U' :: cs => codePoint? 8 cs
  | _ => none

theorem hexDigits?_length {n value : Nat} {cs : List Char} {p : Nat × List Char}
    (h : hexDigits? n value cs = some p) : p.2.length ≤ cs.length := by
  induction n generalizing value cs with
  | zero =>
    simp only [hexDigits?, Option.some.injEq] at h
    simp [← h]
  | succ n ih =>
    cases cs with
    | nil => simp [hexDigits?] at h
    | cons c cs =>
      simp only [hexDigits?] at h
      split at h
      · exact Nat.le_succ_of_le (ih h)
      · simp at h

theorem codePoint?_length {n : Nat} {cs : List Char} {p : Char × List Char}
    (h : codePoint? n cs = some p) : p.2.length ≤ cs.length := by
  unfold codePoint? at h
  split at h
  · rename_i heq
    obtain ⟨c, _, rfl⟩ := Option.map_eq_some_iff.1 h
    exact hexDigits?_length heq
  · simp at h

theorem escaped?_length {cs : List Char} {p : Char × List Char} (h : escaped? cs = some p) :
    p.2.length < cs.length := by
  unfold escaped? at h
  split at h
  case h_9 | h_10 | h_11 => exact Nat.lt_succ_of_le (codePoint?_length h)
  all_goals simp at h <;> simp [← h]

/-! ## Strings on one line -/

/-- The characters up to a double quote. -/
def basic? (cs : List Char) : Option (List Char × List Char) :=
  match cs with
  | [] => none
  | '"' :: cs => some ([], cs)
  | '\\' :: cs =>
    match h : escaped? cs with
    | some (c, rest) =>
      have : rest.length < cs.length := escaped?_length h
      (basic? rest).map fun (s, rest) => (c :: s, rest)
    | none => none
  | c :: cs => if isTextChar c then (basic? cs).map fun (s, rest) => (c :: s, rest) else none
termination_by cs.length

/-- The characters up to a single quote. -/
def literal? : List Char → Option (List Char × List Char)
  | [] => none
  | c :: cs =>
    if c = '\'' then some ([], cs)
    else if isTextChar c then (literal? cs).map fun (s, rest) => (c :: s, rest)
    else none

/-! ## Strings on several lines -/

/-- Blanks and line breaks at the front are dropped. -/
def skipBlank : List Char → List Char
  | ' ' :: cs => skipBlank cs
  | '\t' :: cs => skipBlank cs
  | '\n' :: cs => skipBlank cs
  | '\r' :: '\n' :: cs => skipBlank cs
  | cs => cs

/-- After a backslash at the end of a line: the lines are joined, without the blanks between
them. -/
def joined? (cs : List Char) : Option (List Char) :=
  (newline? (cs.dropWhile fun c => c == ' ' || c == '\t')).map skipBlank

theorem skipBlank_length (cs : List Char) : (skipBlank cs).length ≤ cs.length := by
  fun_induction skipBlank cs <;> simp_all <;> omega

theorem newline?_length {cs rest : List Char} (h : newline? cs = some rest) :
    rest.length < cs.length := by
  unfold newline? at h
  split at h <;> simp at h <;> subst h <;> simp only [List.length_cons] <;> omega

theorem joined?_length {cs rest : List Char} (h : joined? cs = some rest) :
    rest.length < cs.length := by
  obtain ⟨mid, hmid, rfl⟩ := Option.map_eq_some_iff.1 h
  have h1 := skipBlank_length mid
  have h2 := newline?_length hmid
  have h3 := (List.dropWhile_sublist (l := cs) fun c => c == ' ' || c == '\t').length_le
  omega

/-- What ends a string on several lines: three quotes, with one or two more in front that belong to
the string. -/
def closing? (quote : Char) : List Char → Option (List Char × List Char)
  | a :: b :: c :: cs =>
    if a = quote ∧ b = quote ∧ c = quote then
      match cs with
      | d :: e :: rest =>
        if d = quote ∧ e = quote then some ([quote, quote], rest)
        else if d = quote then some ([quote], e :: rest)
        else some ([], d :: e :: rest)
      | [d] => if d = quote then some ([quote], []) else some ([], [d])
      | [] => some ([], [])
    else none
  | _ => none

/-- The characters up to three double quotes. -/
def basicLines? (cs : List Char) : Option (List Char × List Char) :=
  match closing? '"' cs with
  | some p => some p
  | none =>
    match cs with
    | [] => none
    | '\\' :: cs =>
      match hj : joined? cs with
      | some rest =>
        have : rest.length < cs.length := joined?_length hj
        basicLines? rest
      | none =>
        match h : escaped? cs with
        | some (c, rest) =>
          have : rest.length < cs.length := escaped?_length h
          (basicLines? rest).map fun (s, rest) => (c :: s, rest)
        | none => none
    | '\n' :: cs => (basicLines? cs).map fun (s, rest) => ('\n' :: s, rest)
    | '\r' :: '\n' :: cs => (basicLines? cs).map fun (s, rest) => ('\r' :: '\n' :: s, rest)
    | c :: cs =>
      if isTextChar c then (basicLines? cs).map fun (s, rest) => (c :: s, rest) else none
termination_by cs.length

/-- The characters up to three single quotes. -/
def literalLines? (cs : List Char) : Option (List Char × List Char) :=
  match closing? '\'' cs with
  | some p => some p
  | none =>
    match cs with
    | [] => none
    | '\n' :: cs => (literalLines? cs).map fun (s, rest) => ('\n' :: s, rest)
    | '\r' :: '\n' :: cs => (literalLines? cs).map fun (s, rest) => ('\r' :: '\n' :: s, rest)
    | c :: cs =>
      if isTextChar c then (literalLines? cs).map fun (s, rest) => (c :: s, rest) else none
termination_by cs.length

/-! ## Strings as values -/

/-- A line break right after the opening quotes does not count. -/
def skipFirstLine (cs : List Char) : List Char := (newline? cs).getD cs

/-- A string of any kind with its quotes; `none` if none begins here. -/
def string? (cs : List Char) : Option (Option (List Char × List Char)) :=
  match cs with
  | '"' :: '"' :: '"' :: cs => some (basicLines? (skipFirstLine cs))
  | '\'' :: '\'' :: '\'' :: cs => some (literalLines? (skipFirstLine cs))
  | '"' :: cs => some (basic? cs)
  | '\'' :: cs => some (literal? cs)
  | _ => none

end LiveTrace.Toml
