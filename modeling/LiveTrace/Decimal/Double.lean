/-!
# LiveTrace.Decimal.Double

Double precision numbers, held as their 64 bits so that they can be compared and stored like any
other datum, and the exact value `m · 2 ^ q` that such bits stand for.

`Double.ofDecimal?` is how a decimal literal becomes a double: its leading digits, as many as fit
into 64 bits, are rounded to a double and then scaled by powers of ten of at most `10 ^ 308`, each
step rounding to the nearest double. A value beyond the largest double has none. `Double.nearest?`
rounds once instead.
-/

namespace LiveTrace

/-- A double precision number by its bits: sign, eleven bits of exponent, 52 bits of fraction. -/
structure Double where
  bits : UInt64
  deriving DecidableEq, Inhabited

namespace Double

/-- The bits of a machine number. -/
def ofFloat (f : Float) : Double := ⟨f.toBits⟩

/-- Whether the sign bit is set. -/
def isNegative (d : Double) : Bool := d.bits >>> 63 == 1

/-- The eleven exponent bits. -/
def biasedExponent (d : Double) : Nat := ((d.bits >>> 52) &&& 0x7FF).toNat

/-- The 52 fraction bits. -/
def fraction (d : Double) : Nat := (d.bits &&& 0xFFFFFFFFFFFFF).toNat

/-- `m` of the magnitude `m · 2 ^ q`: the fraction, with its implicit leading bit unless the
number is subnormal. -/
def significand (d : Double) : Nat :=
  if d.biasedExponent = 0 then d.fraction else 0x10000000000000 + d.fraction

/-- `q` of the magnitude `m · 2 ^ q`. -/
def exponent (d : Double) : Int :=
  if d.biasedExponent = 0 then -1074 else d.biasedExponent - 1075

/-- Whether the doubles below are twice as dense as the doubles above. -/
def isBinadeStart (d : Double) : Bool := d.fraction == 0 && decide (1 < d.biasedExponent)

/-! ## Decimal literals -/

/-- Decimal exponents beyond which a number is certain to be too large, or to be rounded to zero. -/
def farExponent : Nat := 400

/-- The double nearest to `± digits · 10 ^ e`; `none` beyond the largest double. -/
def nearest? (negative : Bool) (digits : Nat) (e : Int) : Option Double :=
  let size : Int := (toString digits).length + e
  if digits ≠ 0 ∧ farExponent < size then none
  else
    let f := if digits = 0 ∨ size < -farExponent then 0
      else Float.ofScientific digits (decide (e < 0)) e.natAbs
    if f.isInf then none else some (ofFloat (if negative then -f else f))

/-- The double nearest to `10 ^ n`. -/
def powerOfTen (n : Nat) : Float := Float.ofScientific 1 false n

/-- `f · 10 ^ e`, scaled by at most `10 ^ 308` at a time; `none` beyond the largest double. -/
def scale? (f : Float) (e : Int) : Option Float :=
  if f == 0 then some f
  else if 308 < e then none
  else if 0 ≤ e then
    let g := f * powerOfTen e.toNat
    if g.isInf then none else some g
  else if -308 ≤ e then some (f / powerOfTen (-e).toNat)
  else scale? (f / powerOfTen 308) (e + 308)
termination_by (-e).toNat

/-- The double of `± digits · 10 ^ e`, for digits below `2 ^ 64`. -/
def ofDecimal? (negative : Bool) (digits : Nat) (e : Int) : Option Double :=
  (scale? digits.toUInt64.toFloat e).map fun f => ofFloat (if negative then -f else f)

end Double

end LiveTrace
