import LiveTrace.Decimal.Shortest
/-!
# LiveTrace.Decimal.Layout

Writing decimal digits: with a point and zeros where the leading digit's exponent is moderate,
otherwise with one digit before the point and the exponent after it. Where the one ends and the
other begins is a `Layout`.
-/

namespace LiveTrace.Decimal

/-- The exponents of the leading digit that are written without an exponent mark. -/
structure Layout where
  /-- The least such exponent. -/
  plainFrom : Int
  /-- The first exponent above them. -/
  plainBelow : Int

/-- `n` zeros. -/
def zeros (n : Nat) : List Char := List.replicate n '0'

/-- Digits with a point after the digit of weight one, at least one digit on either side. -/
def plain (digits : List Char) (leading : Int) : List Char :=
  if leading < 0 then '0' :: '.' :: (zeros (-leading - 1).toNat ++ digits)
  else
    let whole := leading.toNat + 1
    let rest := digits.drop whole
    digits.take whole ++ zeros (whole - digits.length) ++
      '.' :: (if rest.isEmpty then ['0'] else rest)

/-- One digit, the others after a point, and the signed exponent. -/
def scientific (digits : List Char) (leading : Int) : List Char :=
  let rest := digits.drop 1
  digits.take 1 ++ (if rest.isEmpty then [] else '.' :: rest) ++
    'e' :: (if leading < 0 then '-' else '+') :: (Nat.repr leading.natAbs).toList

/-- The text of decimal digits. -/
def Layout.write (l : Layout) (d : Digits) : List Char :=
  let digits := (Nat.repr d.value).toList
  let leading := d.exponent + digits.length - 1
  if l.plainFrom ≤ leading ∧ leading < l.plainBelow then plain digits leading
  else scientific digits leading

/-- The text of a double: its sign and its shortest digits. -/
def Layout.writeDouble (l : Layout) (d : Double) : List Char :=
  (if d.isNegative then ['-'] else []) ++ l.write (shortest d)

end LiveTrace.Decimal
