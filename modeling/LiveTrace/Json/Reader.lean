import LiveTrace.Json.Basic
/-!
# LiveTrace.Json.Reader

Reading JSON text. A step of the reader takes characters off the front of the input and gives what
it read with the rest; `none` means that the input is not of the expected form. Containers may be
nested up to a given depth (`maxDepth` unless said otherwise), and of two fields with one key the
later stays.
-/

namespace LiveTrace.Json

/-- The containers that may be open at one time. -/
def maxDepth : Nat := 127

/-- The white space of JSON. -/
def isSpace (c : Char) : Bool := c == ' ' || c == '\n' || c == '\t' || c == '\r'

/-- Skip white space. -/
def skipSpace (cs : List Char) : List Char := cs.dropWhile isSpace

/-! ## Strings -/

/-- The value of a hexadecimal digit, in either case. -/
def hexValue? (c : Char) : Option Nat :=
  if '0' ≤ c ∧ c ≤ '9' then some (c.toNat - '0'.toNat)
  else if 'a' ≤ c ∧ c ≤ 'f' then some (c.toNat - 'a'.toNat + 10)
  else if 'A' ≤ c ∧ c ≤ 'F' then some (c.toNat - 'A'.toNat + 10)
  else none

/-- Four hexadecimal digits. -/
def hex4? : List Char → Option (Nat × List Char)
  | a :: b :: c :: d :: rest => do
    let a ← hexValue? a
    let b ← hexValue? b
    let c ← hexValue? c
    let d ← hexValue? d
    some (((a * 16 + b) * 16 + c) * 16 + d, rest)
  | _ => none

/-- The character of a `\u` escape: four digits, or the eight of a surrogate pair. A surrogate
without its partner stands for no character. -/
def unicodeEscape? (cs : List Char) : Option (Char × List Char) := do
  let (unit, rest) ← hex4? cs
  if 0xD800 ≤ unit ∧ unit < 0xDC00 then
    match rest with
    | '\\' :: 'u' :: rest =>
      let (low, rest) ← hex4? rest
      if 0xDC00 ≤ low ∧ low < 0xE000 then
        some (Char.ofNat (0x10000 + (unit - 0xD800) * 0x400 + (low - 0xDC00)), rest)
      else none
    | _ => none
  else if 0xDC00 ≤ unit ∧ unit < 0xE000 then none
  else some (Char.ofNat unit, rest)

/-- The character that follows a backslash stands for. -/
def escaped? : List Char → Option (Char × List Char)
  | '"' :: rest => some ('"', rest)
  | '\\' :: rest => some ('\\', rest)
  | '/' :: rest => some ('/', rest)
  | 'b' :: rest => some ('\x08', rest)
  | 'f' :: rest => some ('\x0c', rest)
  | 'n' :: rest => some ('\n', rest)
  | 'r' :: rest => some ('\r', rest)
  | 't' :: rest => some ('\t', rest)
  | 'u' :: rest => unicodeEscape? rest
  | _ => none

theorem hex4?_length {cs rest : List Char} {n : Nat} (h : hex4? cs = some (n, rest)) :
    rest.length < cs.length := by
  unfold hex4? at h
  split at h
  · simp only [Option.bind_eq_bind, Option.bind_eq_some_iff, Option.some.injEq,
      Prod.mk.injEq] at h
    obtain ⟨_, _, _, _, _, _, _, _, _, rfl⟩ := h
    simp only [List.length_cons]
    omega
  · simp at h

theorem unicodeEscape?_length {cs rest : List Char} {c : Char}
    (h : unicodeEscape? cs = some (c, rest)) : rest.length < cs.length := by
  unfold unicodeEscape? at h
  simp only [Option.bind_eq_bind, Option.bind_eq_some_iff] at h
  obtain ⟨⟨unit, mid⟩, h4, h⟩ := h
  have hmid := hex4?_length h4
  split at h
  · split at h
    · rename_i heq
      have hpair : mid.length = _ := congrArg List.length heq
      simp only [Option.bind_eq_some_iff] at h
      obtain ⟨⟨low, rest'⟩, h4', h⟩ := h
      have hrest := hex4?_length h4'
      split at h
      · simp only [Option.some.injEq, Prod.mk.injEq] at h
        obtain ⟨-, rfl⟩ := h
        simp only [List.length_cons] at hpair
        omega
      · simp at h
    · simp at h
  · split at h
    · simp at h
    · simp only [Option.some.injEq, Prod.mk.injEq] at h
      obtain ⟨-, rfl⟩ := h
      exact hmid

theorem escaped?_length {cs rest : List Char} {c : Char} (h : escaped? cs = some (c, rest)) :
    rest.length < cs.length := by
  unfold escaped? at h
  split at h
  case h_9 =>
    exact Nat.lt_succ_of_lt (unicodeEscape?_length h)
  all_goals simp at h <;> simp [← h.2]

/-- The characters of a string up to its closing quote, after the opening one. -/
def stringTail? : List Char → Option (List Char × List Char)
  | [] => none
  | c :: cs =>
    if c = '"' then some ([], cs)
    else if c = '\\' then
      match h : escaped? cs with
      | some (e, rest) =>
        have : rest.length < cs.length := escaped?_length h
        (stringTail? rest).map fun (s, rest) => (e :: s, rest)
      | none => none
    else if c.toNat < 0x20 then none
    else (stringTail? cs).map fun (s, rest) => (c :: s, rest)
termination_by cs => cs.length

/-! ## Numbers -/

/-- The leading digits, as many as fit into 64 bits, and how many were left out. -/
def keptDigits : (kept : Nat) → List Char → Nat × Nat
  | kept, [] => (kept, 0)
  | kept, c :: cs =>
    let next := kept * 10 + (c.toNat - '0'.toNat)
    if next < 0x10000000000000000 then keptDigits next cs else (kept, (c :: cs).length)

/-- A number literal by its parts; `none` for a double that is too large. Without fraction and
exponent it is an integer if it is one of the wire, and `-0` is a double. -/
def Number.ofParts? (negative : Bool) (whole : List Char) (fraction : Option (List Char))
    (exponent : Option Int) : Option Number :=
  let (kept, dropped) := keptDigits 0 whole
  match fraction, exponent with
  | none, none =>
    if dropped = 0 ∧ !negative then some (.integer kept)
    else if dropped = 0 ∧ 0 < kept ∧ kept ≤ 0x8000000000000000 then some (.integer (-kept))
    else (Double.ofDecimal? negative kept dropped).map .double
  | _, _ =>
    let digits := fraction.getD []
    let (kept, out) := keptDigits kept digits
    let e : Int := (dropped : Int) - (digits.length - out : Nat) + exponent.getD 0
    (Double.ofDecimal? negative kept e).map .double

/-- The digits at the front, at least one. -/
def digits? (cs : List Char) : Option (List Char × List Char) :=
  match cs.takeWhile Char.isDigit with
  | [] => none
  | ds => some (ds, cs.dropWhile Char.isDigit)

/-- The value of a list of digits. -/
def digitsValue (ds : List Char) : Nat :=
  ds.foldl (fun n c => n * 10 + (c.toNat - '0'.toNat)) 0

/-- The whole part: a single `0`, or digits that do not begin with `0`. -/
def whole? (cs : List Char) : Option (List Char × List Char) := do
  let (ds, rest) ← digits? cs
  if ds.head? = some '0' ∧ 1 < ds.length then none else some (ds, rest)

/-- The fraction, if a point follows. -/
def fraction? : List Char → Option (Option (List Char) × List Char)
  | '.' :: cs => (digits? cs).map fun (ds, rest) => (some ds, rest)
  | cs => some (none, cs)

/-- The digits of an exponent, after its mark. -/
def exponentTail? (cs : List Char) : Option (Option Int × List Char) :=
  match cs with
  | '+' :: cs => (digits? cs).map fun (ds, rest) => (some (digitsValue ds : Int), rest)
  | '-' :: cs => (digits? cs).map fun (ds, rest) => (some (-(digitsValue ds : Int)), rest)
  | cs => (digits? cs).map fun (ds, rest) => (some (digitsValue ds : Int), rest)

/-- The exponent, if its mark follows. -/
def exponent? : List Char → Option (Option Int × List Char)
  | 'e' :: cs => exponentTail? cs
  | 'E' :: cs => exponentTail? cs
  | cs => some (none, cs)

/-- A number without its sign. -/
def unsigned? (negative : Bool) (cs : List Char) : Option (Number × List Char) := do
  let (whole, cs) ← whole? cs
  let (fraction, cs) ← fraction? cs
  let (exponent, cs) ← exponent? cs
  let n ← Number.ofParts? negative whole fraction exponent
  some (n, cs)

/-- A number. -/
def number? : List Char → Option (Number × List Char)
  | '-' :: cs => unsigned? true cs
  | cs => unsigned? false cs

/-! ## Values -/

/-- The items of an array up to its closing bracket, at least one, each read by `value`. -/
def items? (value : List Char → Option (Json × List Char)) :
    (fuel : Nat) → List Char → Option (List Json × List Char)
  | 0, _ => none
  | fuel + 1, cs => do
    let (v, cs) ← value cs
    match skipSpace cs with
    | ',' :: cs =>
      let (rest, cs) ← items? value fuel cs
      some (v :: rest, cs)
    | ']' :: cs => some ([v], cs)
    | _ => none

/-- The fields of an object up to its closing brace, at least one, in the order of the text. -/
def fields? (value : List Char → Option (Json × List Char)) :
    (fuel : Nat) → List Char → Option (List (String × Json) × List Char)
  | 0, _ => none
  | fuel + 1, cs => do
    match skipSpace cs with
    | '"' :: cs =>
      let (key, cs) ← stringTail? cs
      match skipSpace cs with
      | ':' :: cs =>
        let (v, cs) ← value cs
        match skipSpace cs with
        | ',' :: cs =>
          let (rest, cs) ← fields? value fuel cs
          some ((String.ofList key, v) :: rest, cs)
        | '\x7d' :: cs => some ([(String.ofList key, v)], cs)
        | _ => none
      | _ => none
    | _ => none

/-- An array after its opening bracket. -/
def array? (value : List Char → Option (Json × List Char)) (cs : List Char) :
    Option (Json × List Char) :=
  match skipSpace cs with
  | ']' :: cs => some (.array [], cs)
  | cs => (items? value cs.length cs).map fun (items, rest) => (.array items, rest)

/-- An object after its opening brace. -/
def object? (value : List Char → Option (Json × List Char)) (cs : List Char) :
    Option (Json × List Char) :=
  match skipSpace cs with
  | '\x7d' :: cs => some (.object [], cs)
  | cs => (fields? value cs.length cs).map fun (fields, rest) => (ofFields fields, rest)

/-- A value, after any white space, in which `depth` containers may be nested. -/
def value? (depth : Nat) (cs : List Char) : Option (Json × List Char) :=
  match skipSpace cs with
  | 'n' :: 'u' :: 'l' :: 'l' :: cs => some (.null, cs)
  | 't' :: 'r' :: 'u' :: 'e' :: cs => some (.bool true, cs)
  | 'f' :: 'a' :: 'l' :: 's' :: 'e' :: cs => some (.bool false, cs)
  | '"' :: cs => (stringTail? cs).map fun (s, rest) => (.string (String.ofList s), rest)
  | '[' :: cs =>
    match depth with
    | 0 => none
    | depth + 1 => array? (value? depth) cs
  | '\x7b' :: cs =>
    match depth with
    | 0 => none
    | depth + 1 => object? (value? depth) cs
  | cs => (number? cs).map fun (n, rest) => (.number n, rest)

/-- The value that a whole text stands for, with `depth` nested containers at most. -/
def readWithin? (depth : Nat) (s : String) : Option Json := do
  let (v, rest) ← value? depth s.toList
  if (skipSpace rest).isEmpty then some v else none

/-- The value that a whole text stands for. -/
def read? (s : String) : Option Json := readWithin? maxDepth s

end LiveTrace.Json
