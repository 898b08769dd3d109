import LiveTrace.Decimal.Double
/-!
# LiveTrace.Decimal.Shortest

The fewest decimal digits that read back as a given double. The doubles cut the line into
intervals, one around each double, of the reals that round to it; `Interval` is such an interval
in exact arithmetic. For one digit, two digits, and so on, the two neighbours of the value on the
decimal grid of that many digits are tried: the first grid with a neighbour inside the interval
wins, of two the nearer one, and at equal distance the even one.
-/

namespace LiveTrace.Decimal

/-- The number `value · 10 ^ exponent`. -/
structure Digits where
  value : Nat
  exponent : Int
  deriving DecidableEq, Repr

/-- The reals around `mid / den` that round to it, as numerators over one denominator. -/
structure Interval where
  low : Nat
  mid : Nat
  high : Nat
  den : Nat
  /-- Whether the ends belong to the interval. -/
  closed : Bool

namespace Interval

/-- The reals that round to the magnitude of a double: halfway to its two neighbours, the ends
included when its significand is even. -/
def ofDouble (d : Double) : Interval :=
  let m := 4 * d.significand
  let below := if d.isBinadeStart then 1 else 2
  let q := d.exponent - 2
  let up := Nat.pow 2 q.toNat
  { low := (m - below) * up
    mid := m * up
    high := (m + 2) * up
    den := Nat.pow 2 (-q).toNat
    closed := d.significand % 2 == 0 }

/-- The grid `10 ^ k` as a quotient: numerator and denominator of `x · 10 ^ k` over `den`. -/
def onGrid (i : Interval) (k : Int) (x : Nat) : Nat × Nat :=
  (x * Nat.pow 10 k.toNat * i.den, Nat.pow 10 (-k).toNat)

/-- Whether `x · 10 ^ k` lies in the interval. -/
def contains (i : Interval) (k : Int) (x : Nat) : Bool :=
  let (num, scale) := i.onGrid k x
  if i.closed then decide (i.low * scale ≤ num) && decide (num ≤ i.high * scale)
  else decide (i.low * scale < num) && decide (num < i.high * scale)

/-- The grid point at or below the middle. -/
def floorOn (i : Interval) (k : Int) : Nat :=
  i.mid * Nat.pow 10 (-k).toNat / (i.den * Nat.pow 10 k.toNat)

/-- Whether the upper neighbour of the middle is preferred to the lower one, `x`. -/
def prefersUpper (i : Interval) (k : Int) (x : Nat) : Bool :=
  let (lower, scale) := i.onGrid k x
  let (upper, _) := i.onGrid k (x + 1)
  let mid := i.mid * scale
  if mid - lower = upper - mid then x % 2 == 1 else decide (upper - mid < mid - lower)

/-- The grid point that stands for the middle, if one of its two neighbours is inside. -/
def pick? (i : Interval) (k : Int) : Option Nat :=
  let x := i.floorOn k
  match i.contains k x, i.contains k (x + 1) with
  | true, true => some (if i.prefersUpper k x then x + 1 else x)
  | true, false => some x
  | false, true => some (x + 1)
  | false, false => none

/-- Exponent of the leading decimal digit of the middle. -/
def leadingExponent (i : Interval) : Int :=
  let t : Int := (Nat.repr i.mid).length - (Nat.repr i.den).length
  if i.den * Nat.pow 10 t.toNat ≤ i.mid * Nat.pow 10 (-t).toNat then t else t - 1

/-- Try grids of more and more digits, `fuel` of them at most, the last being `10 ^ k`. -/
def search (i : Interval) : (fuel : Nat) → (k : Int) → Digits
  | 0, k => ⟨i.floorOn k, k⟩
  | fuel + 1, k =>
    match i.pick? k with
    | some x => ⟨x, k⟩
    | none => i.search fuel (k - 1)

end Interval

/-- Drop trailing zeros, `fuel` of them at most. -/
def Digits.strip (d : Digits) : (fuel : Nat) → Digits
  | 0 => d
  | fuel + 1 =>
    if d.value % 10 = 0 ∧ d.value ≠ 0 then
      Digits.strip ⟨d.value / 10, d.exponent + 1⟩ fuel
    else d

/-- The shortest digits of the magnitude of a double; seventeen digits always read back. -/
def shortest (d : Double) : Digits :=
  if d.significand = 0 then ⟨0, 0⟩
  else
    let i := Interval.ofDouble d
    (i.search 17 i.leadingExponent).strip 17

end LiveTrace.Decimal
