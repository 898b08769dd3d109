/-!
# LiveTrace.Text.Basic

Cutting a text at a separator and taking a fixed text off its front; white space, as the characters
with the Unicode property of that name, and texts without the white space around them; texts,
numbers and times of a fixed width.
-/

namespace LiveTrace.Text

/-! ## Cutting -/

/-- The parts before and after the first occurrence of a character. -/
def splitFirst? (sep : Char) : List Char → Option (List Char × List Char)
  | [] => none
  | c :: cs =>
    if c = sep then some ([], cs)
    else (splitFirst? sep cs).map fun (before, after) => (c :: before, after)

/-- The parts before and after the last occurrence of a character. -/
def splitLast? (sep : Char) : List Char → Option (List Char × List Char)
  | [] => none
  | c :: cs =>
    match splitLast? sep cs with
    | some (before, after) => some (c :: before, after)
    | none => if c = sep then some ([], cs) else none

/-- What follows a text at the front of another. -/
def strip? (front : String) (s : String) : Option String :=
  (front.toList.isPrefixOf? s.toList).map String.ofList

theorem splitFirst?_eq_some {sep : Char} {cs before after : List Char}
    (h : splitFirst? sep cs = some (before, after)) :
    cs = before ++ sep :: after ∧ sep ∉ before := by
  induction cs generalizing before with
  | nil => simp [splitFirst?] at h
  | cons c cs ih =>
    simp only [splitFirst?] at h
    split at h
    · rename_i hc
      simp only [Option.some.injEq, Prod.mk.injEq] at h
      obtain ⟨rfl, rfl⟩ := h
      simp [hc]
    · rename_i hc
      obtain ⟨⟨b, a⟩, hs, he⟩ := Option.map_eq_some_iff.1 h
      simp only [Prod.mk.injEq] at he
      obtain ⟨rfl, rfl⟩ := he
      obtain ⟨rfl, hb⟩ := ih hs
      simp [hb, Ne.symm hc]

theorem splitFirst?_eq_none {sep : Char} {cs : List Char} :
    splitFirst? sep cs = none ↔ sep ∉ cs := by
  induction cs with
  | nil => simp [splitFirst?]
  | cons c cs ih =>
    by_cases hc : c = sep
    · simp [splitFirst?, hc]
    · simp [splitFirst?, hc, Ne.symm hc, ih]

theorem splitLast?_eq_none {sep : Char} {cs : List Char} :
    splitLast? sep cs = none ↔ sep ∉ cs := by
  induction cs with
  | nil => simp [splitLast?]
  | cons c cs ih =>
    simp only [splitLast?]
    cases hs : splitLast? sep cs with
    | some p =>
      have : ¬ sep ∉ cs := fun hn => by simp [ih.2 hn] at hs
      simp_all
    | none =>
      have hn := ih.1 hs
      by_cases hc : c = sep <;> simp [hc, hn]
      exact fun h => hc h.symm

theorem splitLast?_eq_some {sep : Char} {cs before after : List Char}
    (h : splitLast? sep cs = some (before, after)) :
    cs = before ++ sep :: after ∧ sep ∉ after := by
  induction cs generalizing before with
  | nil => simp [splitLast?] at h
  | cons c cs ih =>
    simp only [splitLast?] at h
    cases hs : splitLast? sep cs with
    | some p =>
      obtain ⟨b, a⟩ := p
      simp only [hs, Option.some.injEq, Prod.mk.injEq] at h
      obtain ⟨rfl, rfl⟩ := h
      obtain ⟨rfl, ha⟩ := ih hs
      simp [ha]
    | none =>
      simp only [hs] at h
      split at h
      · rename_i hc
        simp only [Option.some.injEq, Prod.mk.injEq] at h
        obtain ⟨rfl, rfl⟩ := h
        simp [hc, splitLast?_eq_none.1 hs]
      · simp at h

theorem splitLast?_append {sep : Char} {before after : List Char} (h : sep ∉ after) :
    splitLast? sep (before ++ sep :: after) = some (before, after) := by
  induction before with
  | nil => simp [splitLast?, splitLast?_eq_none.2 h]
  | cons c before ih => simp [splitLast?, ih]

/-- A text is cut at its last separator in one way only. -/
theorem append_cons_inj {sep : Char} {before after before' after' : List Char}
    (h : sep ∉ after) (h' : sep ∉ after')
    (heq : before ++ sep :: after = before' ++ sep :: after') :
    before = before' ∧ after = after' := by
  have hsplit : splitLast? sep (before ++ sep :: after) = some (before, after) :=
    splitLast?_append h
  rw [heq, splitLast?_append h'] at hsplit
  simpa [eq_comm] using hsplit

/-! ## White space and letters -/

/-- Whether a character is white space. -/
def isBlank (c : Char) : Bool :=
  let n := c.toNat
  (0x09 ≤ n && n ≤ 0x0D) || n == 0x20 || n == 0x85 || n == 0xA0 || n == 0x1680 ||
    (0x2000 ≤ n && n ≤ 0x200A) || n == 0x2028 || n == 0x2029 || n == 0x202F || n == 0x205F ||
    n == 0x3000

/-- Drop characters from the end while they satisfy `p`. -/
def dropWhileEnd (p : Char → Bool) (cs : List Char) : List Char :=
  (cs.reverse.dropWhile p).reverse

/-- The characters without the white space around them. -/
def trimChars (cs : List Char) : List Char := dropWhileEnd isBlank (cs.dropWhile isBlank)

/-- A text without the white space around it. -/
def trim (s : String) : String := String.ofList (trimChars s.toList)

/-- A text without upper-case letters of ASCII. -/
def lowerAscii (s : String) : String := s.map Char.toLower

/-! ## Fixed widths -/

/-- Blanks after a text, up to a width counted in characters. -/
def padRight (width : Nat) (s : String) : String :=
  s ++ String.ofList (List.replicate (width - s.length) ' ')

/-- A number with zeros in front, up to a number of digits. -/
def zeroPadded (digits n : Nat) : String :=
  let s := toString n
  String.ofList (List.replicate (digits - s.length) '0') ++ s

/-- Milliseconds of a day. -/
def dayLength : Int := 24 * 60 * 60 * 1000

/-- The time of day, to the millisecond, at a number of milliseconds since some midnight. -/
def timeOfDay (milliseconds : Int) : String :=
  let t := (milliseconds % dayLength).toNat
  zeroPadded 2 (t / 3600000) ++ ":" ++ zeroPadded 2 (t / 60000 % 60) ++ ":" ++
    zeroPadded 2 (t / 1000 % 60) ++ "." ++ zeroPadded 3 (t % 1000)

end LiveTrace.Text
