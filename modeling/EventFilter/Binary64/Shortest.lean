import EventFilter.Binary64

/-!
# Shortest decimals

The decimal with the fewest digits among those that are nearer to a given magnitude than to any
other, and of those with that many digits the one nearest to it. The decimals that round to a
magnitude form an interval, which includes its ends exactly if the mantissa is even. On grids of
powers of ten, beginning with the next one above the magnitude, the two neighbours of the magnitude
are tried, until one lies in the interval.
-/

namespace EventFilter

/-- A decimal number `digits * 10 ^ exponent`. -/
structure Decimal where
  digits : Nat
  exponent : Int
  deriving DecidableEq, Inhabited

namespace Binary64

/-- `num / den` compared with `a * 10 ^ e`. -/
def compareTens (num den : Nat) (a : Nat) (e : Int) : Ordering :=
  if 0 ≤ e then compare num (a * tens e.toNat * den)
  else compare (num * tens (-e).toNat) (a * den)

/-- The exponent of the largest power of ten that is not above `num / den`. -/
def tensBelow (num den : Nat) : Int :=
  let guess : Int := (((num.log2 : Int) - den.log2) * 30103) / 100000
  if compareTens num den 1 (guess + 1) ≠ .lt then guess + 1
  else if compareTens num den 1 guess ≠ .lt then guess
  else guess - 1

/-- The largest multiple of `10 ^ e` that is not above `num / den`, divided by `10 ^ e`. -/
def floorTens (num den : Nat) (e : Int) : Nat :=
  if 0 ≤ e then num / (den * tens e.toNat) else num * tens (-e).toNat / den

/-- Whether `a * 10 ^ e` rounds to the magnitude `x`. -/
def roundsTo (x : Binary64) (a : Nat) (e : Int) : Bool :=
  let quarter : Binary64 := ⟨1, x.exponent - 2⟩
  let (num, den) := quarter.ratio
  let below := if x.mantissa = leastFull ∧ minExponent < x.exponent then 1 else 2
  let low := compareTens ((4 * x.mantissa - below) * num) den a e
  let high := compareTens ((4 * x.mantissa + 2) * num) den a e
  if x.mantissa % 2 = 0 then low.isLE && high.isGE else low.isLT && high.isGT

/-- Of the two neighbours `a` and `a + 1` of `num / den` on the grid of `10 ^ e`, the one that is
nearer, the even one of two. -/
def nearerNeighbour (num den : Nat) (a : Nat) (e : Int) : Nat :=
  match compareTens (2 * num) den (2 * a + 1) e with
  | .lt => a
  | .gt => a + 1
  | .eq => if a % 2 = 0 then a else a + 1

/-- The decimal on the grid of `10 ^ e` that rounds to `x` and is nearest to it, if there is one. -/
def onGrid? (x : Binary64) (e : Int) : Option Decimal :=
  let (num, den) := x.ratio
  let a := floorTens num den e
  match x.roundsTo a e, x.roundsTo (a + 1) e with
  | true, true => some ⟨nearerNeighbour num den a e, e⟩
  | true, false => some ⟨a, e⟩
  | false, true => some ⟨a + 1, e⟩
  | false, false => none

/-- **The shortest decimal** that rounds to a magnitude other than zero. -/
def shortest (x : Binary64) : Decimal :=
  let top := tensBelow x.ratio.1 x.ratio.2
  ((List.range 18).findSome? fun (n : Nat) => x.onGrid? (top + 1 - n)).getD ⟨x.mantissa, 0⟩

end Binary64

end EventFilter
