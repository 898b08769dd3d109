import LiveTrace.Json.Reader
/-!
# LiveTrace.Proofs.Json.Grammar

**JSON as a grammar.** Which texts are JSON, said apart from the reader: one rule for each rule of
the grammar by which JSON is commonly given, each with what its text stands for.

Not every text of the grammar stands for a value. A number may be too large for a double, and a
string may have one half of a surrogate pair without the other (`characters?`). Such a part stands
for `none`, and so does every array and every object that has one inside.
-/

namespace LiveTrace.Json.Grammar

/-- White space, possibly none. -/
def Blank (text : List Char) : Prop := ∀ c ∈ text, isSpace c = true

/-! ## Strings -/

/-- What is written in a string: a character, by itself or by its escape, or a unit of UTF-16 by its
number. -/
inductive Symbol
  | char (c : Char)
  | unit (n : Nat)
  deriving DecidableEq

/-- Letters that stand for a character after a backslash, with the character. -/
def letters : List (Char × Char) :=
  [('"', '"'), ('\\', '\\'), ('/', '/'), ('b', '\x08'), ('f', '\x0c'), ('n', '\n'), ('r', '\r'),
    ('t', '\t')]

/-- The text between the quotes of a string. -/
inductive Symbols : List Char → List Symbol → Prop
  | nil : Symbols [] []
  /-- Quotes, backslashes and control characters are not written as they are. -/
  | plain {c : Char} {text : List Char} {l : List Symbol} (hquote : c ≠ '"') (hbackslash : c ≠ '\\')
    (hcontrol : ¬ c.toNat < 0x20) (h : Symbols text l) : Symbols (c :: text) (.char c :: l)
  | letter {e c : Char} {text : List Char} {l : List Symbol} (he : (e, c) ∈ letters)
    (h : Symbols text l) : Symbols ('\\' :: e :: text) (.char c :: l)
  | unit {digits text : List Char} {n : Nat} {l : List Symbol} (hn : hex4? digits = some (n, []))
    (h : Symbols text l) : Symbols ('\\' :: 'u' :: (digits ++ text)) (.unit n :: l)

/-- First half of a surrogate pair. -/
def IsHigh (n : Nat) : Prop := 0xD800 ≤ n ∧ n < 0xDC00
  deriving Decidable

/-- Second half of a surrogate pair. -/
def IsLow (n : Nat) : Prop := 0xDC00 ≤ n ∧ n < 0xE000
  deriving Decidable

/-- The characters that symbols stand for. Two units make one character if they are the halves of a
surrogate pair; one half alone stands for nothing. -/
def characters? : List Symbol → Option (List Char)
  | [] => some []
  | .char c :: l => (characters? l).map (c :: ·)
  | .unit n :: l =>
    if IsHigh n then
      match l with
      | .unit m :: l =>
        if IsLow m then
          (characters? l).map (Char.ofNat (0x10000 + (n - 0xD800) * 0x400 + (m - 0xDC00)) :: ·)
        else none
      | _ => none
    else if IsLow n then none
    else (characters? l).map (Char.ofNat n :: ·)

/-! ## Numbers -/

/-- The sign of a number, and whether it is negative. -/
inductive Sign : List Char → Bool → Prop
  | none : Sign [] false
  | minus : Sign ['-'] true

/-- One digit or more. -/
def Digits (text : List Char) : Prop := text ≠ [] ∧ ∀ c ∈ text, c.isDigit = true

/-- The digits before the point, which begin with `0` only if it is the only one. -/
def Whole (text : List Char) : Prop := Digits text ∧ (text.head? = some '0' → text = ['0'])

/-- The digits after the point. -/
inductive Fraction : List Char → Option (List Char) → Prop
  | none : Fraction [] none
  | point {ds : List Char} (h : Digits ds) : Fraction ('.' :: ds) (some ds)

/-- The mark of an exponent. -/
def IsMark (c : Char) : Prop := c = 'e' ∨ c = 'E'

/-- The power of ten. -/
inductive Exponent : List Char → Option Int → Prop
  | none : Exponent [] none
  | unsigned {mark : Char} {ds : List Char} (hmark : IsMark mark) (h : Digits ds) :
    Exponent (mark :: ds) (some (digitsValue ds))
  | plus {mark : Char} {ds : List Char} (hmark : IsMark mark) (h : Digits ds) :
    Exponent (mark :: '+' :: ds) (some (digitsValue ds))
  | minus {mark : Char} {ds : List Char} (hmark : IsMark mark) (h : Digits ds) :
    Exponent (mark :: '-' :: ds) (some (-(digitsValue ds : Int)))

/-- A number by its parts; it stands for nothing if it is beyond the range of a double. -/
inductive Numeral : List Char → Option Number → Prop
  | mk {sign whole fraction exponent : List Char} {negative : Bool} {digits : Option (List Char)}
    {power : Option Int} (hsign : Sign sign negative) (hwhole : Whole whole)
    (hfraction : Fraction fraction digits) (hexponent : Exponent exponent power) :
    Numeral (sign ++ (whole ++ (fraction ++ exponent)))
      (Number.ofParts? negative whole digits power)

/-! ## Values -/

section Rules

variable {α : Type}

/-- A phrase with white space around it. -/
inductive Element (phrase : List Char → α → Prop) : List Char → α → Prop
  | mk {before text after : List Char} {a : α} (hbefore : Blank before) (h : phrase text a)
    (hafter : Blank after) : Element phrase (before ++ (text ++ after)) a

theorem Element.bare {phrase : List Char → α → Prop} {text : List Char} {a : α}
    (h : phrase text a) : Element phrase text a := by
  have hnil : Blank [] := by simp [Blank]
  simpa using Element.mk hnil h hnil

/-- Phrases with commas between them. -/
inductive Separated (phrase : List Char → α → Prop) : List Char → List α → Prop
  | last {text : List Char} {a : α} (h : phrase text a) : Separated phrase text [a]
  | next {text others : List Char} {a : α} {l : List α} (h : phrase text a)
    (hl : Separated phrase others l) : Separated phrase (text ++ ',' :: others) (a :: l)

end Rules

/-- What is no container. -/
inductive Scalar : List Char → Option Json → Prop
  | null : Scalar ['n', 'u', 'l', 'l'] (some .null)
  | true : Scalar ['t', 'r', 'u', 'e'] (some (.bool true))
  | false : Scalar ['f', 'a', 'l', 's', 'e'] (some (.bool false))
  | string {text : List Char} {l : List Symbol} (h : Symbols text l) :
    Scalar ('"' :: (text ++ ['"'])) ((characters? l).map fun s => .string (String.ofList s))
  | number {text : List Char} {n : Option Number} (h : Numeral text n) :
    Scalar text (n.map .number)

section Containers

variable (value : List Char → Option Json → Prop)

/-- An array and its elements. -/
inductive Array : List Char → List (Option Json) → Prop
  | empty {text : List Char} (h : Blank text) : Array ('[' :: (text ++ [']'])) []
  | elements {text : List Char} {items : List (Option Json)}
    (h : Separated (Element value) text items) : Array ('[' :: (text ++ [']'])) items

/-- A field of an object. -/
inductive Member : List Char → Option (String × Json) → Prop
  | mk {before key after text : List Char} {l : List Symbol} {v : Option Json}
    (hbefore : Blank before) (hkey : Symbols key l) (hafter : Blank after)
    (hv : Element value text v) :
    Member (before ++ '"' :: (key ++ '"' :: (after ++ ':' :: text)))
      ((characters? l).bind fun k => v.map fun v => (String.ofList k, v))

/-- An object and its fields. -/
inductive Object : List Char → List (Option (String × Json)) → Prop
  | empty {text : List Char} (h : Blank text) : Object ('\x7b' :: (text ++ ['\x7d'])) []
  | members {text : List Char} {fields : List (Option (String × Json))}
    (h : Separated (Member value) text fields) : Object ('\x7b' :: (text ++ ['\x7d'])) fields

end Containers

/-- A value with at most `depth` nested containers. -/
def Value : (depth : Nat) → List Char → Option Json → Prop
  | 0, text, v => Scalar text v
  | depth + 1, text, v =>
    Scalar text v ∨
      (∃ items, Array (Value depth) text items ∧ v = (items.mapM id).map .array) ∨
      ∃ fields, Object (Value depth) text fields ∧ v = (fields.mapM id).map ofFields

/-- A whole text that is an array with at most `depth` nested containers, itself one of them, and
its elements. -/
def IsArray : (depth : Nat) → String → List (Option Json) → Prop
  | 0, _, _ => False
  | depth + 1, s, items => Element (Array (Value depth)) s.toList items

end LiveTrace.Json.Grammar
