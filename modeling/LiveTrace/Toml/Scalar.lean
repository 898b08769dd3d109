import LiveTrace.Json.Reader
import LiveTrace.Toml.Value
/-!
# LiveTrace.Toml.Scalar

Values of TOML documents that are written without quotes: truth values, integers, floats, and dates
and times. Such a value is a word, a run of characters up to a blank, a mark of punctuation or the
end of the line; a date may be followed by a time after one blank.

The beginning of a word tells what it is: digits that a dash or colon follows begin a date or time,
a point or the mark of an exponent anywhere makes it a float, and other words that begin with digits
are integers.
-/

namespace LiveTrace.Toml

/-! ## Words -/

/-- Whether a character may stand in a word. -/
def isWordChar (c : Char) : Bool :=
  !(c == ' ' || c == '\t' || c == '\n' || c == '\r' || c == '#' || c == ',' || c == '=' ||
    c == '[' || c == ']' || c == '\x7b' || c == '\x7d')

/-- The word at the front. -/
def word (cs : List Char) : List Char × List Char :=
  (cs.takeWhile isWordChar, cs.dropWhile isWordChar)

/-! ## Digits -/

/-- Whether a character is a digit of a base. -/
def digitIn (base : Nat) (c : Char) : Bool :=
  match Json.hexValue? c with
  | some d => decide (d < base)
  | none => false

/-- The number that digits stand for. -/
def valueIn (base : Nat) (ds : List Char) : Nat :=
  ds.foldl (fun n c => n * base + (Json.hexValue? c).getD 0) 0

/-- Whether every underscore has a digit before it and after it, in what follows a digit or another
character. -/
def isSpacedAfter (isDigit : Char → Bool) : (digit : Bool) → List Char → Bool
  | _, [] => true
  | _, ['_'] => false
  | digit, '_' :: c :: cs => digit && isDigit c && isSpacedAfter isDigit true cs
  | _, c :: cs => isSpacedAfter isDigit (isDigit c) cs

/-- Whether every underscore has a digit before it and after it. -/
def isSpaced (isDigit : Char → Bool) (cs : List Char) : Bool := isSpacedAfter isDigit false cs

/-- Digits without the underscores between them. -/
def unspaced (cs : List Char) : List Char := cs.filter fun c => c != '_'

/-- A sign at the front: whether the number is negative, and what follows. -/
def sign : List Char → Bool × List Char
  | '-' :: cs => (true, cs)
  | '+' :: cs => (false, cs)
  | cs => (false, cs)

/-! ## Integers -/

/-- Integers have at most 128 bits. -/
def inRange (n : Int) : Bool := decide (-0x80000000000000000000000000000000 ≤ n ∧ n < 0x100000000000000000000000000000000)

/-- The value of an integer, if it has one. -/
def integerValue (base : Nat) (negative : Bool) (ds : List Char) : Option Json.Number :=
  if ds.isEmpty || !ds.all (digitIn base) then none
  else
    let n : Int := if negative then -(valueIn base ds : Int) else valueIn base ds
    if inRange n then some (.integer n) else none

/-- The base of an integer that is not decimal, and its digits. -/
def based? : List Char → Option (Nat × List Char)
  | '0' :: 'x' :: ds => some (16, ds)
  | '0' :: 'o' :: ds => some (8, ds)
  | '0' :: 'b' :: ds => some (2, ds)
  | _ => none

/-- An integer in another base, which has no sign. -/
def basedInteger? (base : Nat) (ds : List Char) : Option Value :=
  if (unspaced ds).all (digitIn base) && isSpaced (digitIn base) ds then
    some (.number (integerValue base false (unspaced ds)))
  else none

/-- A decimal integer. It does not begin with a zero, unless it is one. After the first underscore
it may go on with other characters, as long as hexadecimal digits surround the underscores, but then
it has no value. -/
def integer? (w : List Char) : Option Value :=
  let (negative, ds) := sign w
  if ds.isEmpty || (ds.head? == some '0' && ds.length != 1) then none
  else if isSpaced (digitIn 16) ds then
    some (.number (integerValue 10 negative (unspaced ds)))
  else none

/-! ## Floats -/

/-- Whether a character is the mark of an exponent. -/
def isExponentMark (c : Char) : Bool := c == 'e' || c == 'E'

/-- The digits at the front, at least one, without the underscores among them. -/
def digitRun? (cs : List Char) : Option (List Char × List Char) :=
  match unspaced (cs.takeWhile fun c => c.isDigit || c == '_') with
  | [] => none
  | ds => some (ds, cs.dropWhile fun c => c.isDigit || c == '_')

/-- The digits of the fraction, if a point follows. -/
def fraction? : List Char → Option (List Char × List Char)
  | '.' :: cs => digitRun? cs
  | cs => some ([], cs)

/-- The exponent that ends a float. -/
def exponent? : List Char → Option Int
  | [] => some 0
  | c :: cs =>
    if isExponentMark c then
      let (negative, cs) := sign cs
      match digitRun? cs with
      | some (ds, []) =>
        some (if negative then -(valueIn 10 ds : Int) else (valueIn 10 ds : Int))
      | _ => none
    else none

/-- A float: decimal digits with a fraction, an exponent or both. -/
def float? (w : List Char) : Option Value := do
  let (negative, cs) := sign w
  let (whole, rest) ← digitRun? cs
  let (fraction, rest) ← fraction? rest
  let exponent ← exponent? rest
  if (cs.head? == some '0' && whole.length != 1) || !isSpaced Char.isDigit cs then none
  else
    let value := Double.nearest? negative (valueIn 10 (whole ++ fraction))
      (exponent - fraction.length)
    some (.number (value.map .double))

/-- The bits of positive infinity. -/
def infinity : Double := ⟨0x7FF0000000000000⟩

/-- The bits of a number that is none. -/
def notANumber : Double := ⟨0x7FF8000000000000⟩

/-- Infinity and its like, with or without a sign. -/
def special? (w : List Char) : Option Json.Number :=
  let (negative, name) := sign w
  let signBit : UInt64 := if negative then 0x8000000000000000 else 0
  if name = ['i', 'n', 'f'] then some (.double ⟨infinity.bits ||| signBit⟩)
  else if name = ['n', 'a', 'n'] then some (.double ⟨notANumber.bits ||| signBit⟩)
  else none

/-! ## Dates and times -/

/-- Exactly `n` digits at the front, as a number. -/
def digits? (n : Nat) (cs : List Char) : Option (Nat × List Char) :=
  let ds := cs.take n
  if ds.length = n ∧ ds.all Char.isDigit then some (valueIn 10 ds, cs.drop n) else none

/-- A given character at the front is dropped. -/
def expect? (c : Char) : List Char → Option (List Char)
  | d :: cs => if c = d then some cs else none
  | [] => none

/-- Whether a year has a leap day. -/
def isLeapYear (y : Nat) : Bool := y % 4 == 0 && (y % 100 != 0 || y % 400 == 0)

/-- The days of a month. -/
def daysIn (year month : Nat) : Nat :=
  if month = 2 then if isLeapYear year then 29 else 28
  else if month = 4 ∨ month = 6 ∨ month = 9 ∨ month = 11 then 30
  else 31

/-- A date: year, month and day. -/
def date? (cs : List Char) : Option (List Char) := do
  let (year, cs) ← digits? 4 cs
  let cs ← expect? '-' cs
  let (month, cs) ← digits? 2 cs
  let cs ← expect? '-' cs
  let (day, cs) ← digits? 2 cs
  if 1 ≤ month ∧ month ≤ 12 ∧ 1 ≤ day ∧ day ≤ daysIn year month then some cs else none

/-- Seconds, which may have a fraction; none need be given. -/
def seconds? (cs : List Char) : Option (List Char) :=
  match cs with
  | ':' :: cs => do
    let (second, cs) ← digits? 2 cs
    if 60 < second then none
    else
      match cs with
      | '.' :: cs =>
        if (cs.head?.map Char.isDigit).getD false then some (cs.dropWhile Char.isDigit) else none
      | cs => some cs
  | cs => some cs

/-- A time of day. -/
def time? (cs : List Char) : Option (List Char) := do
  let (hour, cs) ← digits? 2 cs
  let cs ← expect? ':' cs
  let (minute, cs) ← digits? 2 cs
  if hour ≤ 23 ∧ minute ≤ 59 then seconds? cs else none

/-- The distance of a time of day from universal time; none need be given. -/
def offset? (cs : List Char) : Option (List Char) :=
  match cs with
  | [] => some []
  | c :: cs =>
    if c = 'Z' ∨ c = 'z' then some cs
    else if c = '+' ∨ c = '-' then do
      let (hour, cs) ← digits? 2 cs
      let cs ← expect? ':' cs
      let (minute, cs) ← digits? 2 cs
      if hour ≤ 23 ∧ minute ≤ 59 then some cs else none
    else none

/-- Whether a word is a date, a time of day or both. -/
def isDateTime (w : List Char) : Bool :=
  match time? w with
  | some rest => rest.isEmpty
  | none =>
    match date? w with
    | some [] => true
    | some (c :: rest) =>
      (c == 'T' || c == 't') && ((time? rest).bind offset? == some [])
    | none => false

/-- A time of day after a date and one blank: the two as one word, and what follows. -/
def withTime (w rest : List Char) : List Char × List Char :=
  match date? w, rest with
  | some [], ' ' :: c :: rest =>
    if c.isDigit then
      let (time, rest) := word (c :: rest)
      (w ++ 'T' :: time, rest)
    else (w, ' ' :: c :: rest)
  | _, rest => (w, rest)

/-! ## Values -/

/-- The value of a word that begins with digits, a sign apart. -/
def ofDigits? (w : List Char) : Option Value :=
  let ds := (sign w).2
  match ds.dropWhile Char.isDigit with
  | [] => integer? w
  | c :: _ =>
    if c = '-' ∨ c = ':' then if isDateTime w then some .moment else none
    else if ds.any fun c => c == '.' || isExponentMark c then float? w
    else if c = '_' then integer? w
    else none

/-- The value of a word. -/
def ofWord? (w : List Char) : Option Value :=
  if w = ['t', 'r', 'u', 'e'] then some (.flag true)
  else if w = ['f', 'a', 'l', 's', 'e'] then some (.flag false)
  else
    match special? w, based? w with
    | some n, _ => some (.number (some n))
    | none, some (base, ds) => basedInteger? base ds
    | none, none => ofDigits? w

/-- A value written without quotes. -/
def scalar? (cs : List Char) : Option (Value × List Char) :=
  let (w, rest) := word cs
  let (w, rest) := withTime w rest
  (ofWord? w).map fun v => (v, rest)

end LiveTrace.Toml
