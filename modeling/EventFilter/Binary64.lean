/-!
# Binary floating point

The magnitudes of 64-bit binary floating point as pairs of a mantissa and an exponent, in exact
arithmetic. `nearest?` rounds a quotient to the nearest magnitude, to the even mantissa when two are
equally near; products and quotients of magnitudes are rounded once. `ofDecimal?` reads a decimal
number the way a reader does that keeps a limited significand: it rounds the significand, and scales
it by a rounded power of ten.
-/

namespace EventFilter

/-- **A magnitude** `mantissa * 2 ^ exponent`. -/
structure Binary64 where
  mantissa : Nat
  exponent : Int
  deriving DecidableEq, Inhabited

namespace Binary64

/-- The exponent of the smallest magnitudes. -/
def minExponent : Int := -1074

/-- The exponent of the largest magnitudes. -/
def maxExponent : Int := 971

/-- The least mantissa of 53 bits, `2 ^ 52`. Smaller ones go with the smallest exponent only. -/
def leastFull : Nat := 4503599627370496

/-- The powers of two. -/
def twos (n : Nat) : Nat := Nat.pow 2 n

/-- The powers of ten. -/
def tens (n : Nat) : Nat := Nat.pow 10 n

/-- Zero. -/
def zero : Binary64 := ⟨0, minExponent⟩

/-- The quotient `num / (den * 2 ^ e)`, as numerator and denominator. -/
def scaled (num den : Nat) (e : Int) : Nat × Nat :=
  if 0 ≤ e then (num, den * twos e.toNat) else (num * twos (-e).toNat, den)

/-- The integer nearest to a quotient, the even one of two. -/
def roundEven (num den : Nat) : Nat :=
  let q := num / den
  let r := num % den
  if 2 * r < den then q else if den < 2 * r then q + 1 else if q % 2 = 0 then q else q + 1

/-- **The magnitude nearest to a quotient**, `none` if it is too large. -/
def nearest? (num den : Nat) : Option Binary64 :=
  if num = 0 then some zero
  else
    let low : Int := (num.log2 : Int) - den.log2 - 53
    let probe := scaled num den low
    let fit := if 2 * leastFull ≤ probe.1 / probe.2 then low + 1 else low
    let e := max fit minExponent
    let s := scaled num den e
    let m := roundEven s.1 s.2
    let x : Binary64 := if m = 2 * leastFull then ⟨leastFull, e + 1⟩ else ⟨m, e⟩
    if maxExponent < x.exponent then none else some x

/-- A magnitude as a quotient of integers. -/
def ratio (x : Binary64) : Nat × Nat :=
  if 0 ≤ x.exponent then (x.mantissa * twos x.exponent.toNat, 1)
  else (x.mantissa, twos (-x.exponent).toNat)

/-- The product, rounded. -/
def mul? (x y : Binary64) : Option Binary64 :=
  nearest? (x.ratio.1 * y.ratio.1) (x.ratio.2 * y.ratio.2)

/-- The quotient, rounded. -/
def div? (x y : Binary64) : Option Binary64 :=
  nearest? (x.ratio.1 * y.ratio.2) (x.ratio.2 * y.ratio.1)

/-- The largest exponent of ten that a magnitude has. -/
def maxTen : Nat := 308

/-- A magnitude divided by a power of ten, in steps that have a magnitude. -/
def downByTens (x : Binary64) (n : Nat) : Option Binary64 :=
  if n ≤ maxTen then do
    let ten ← nearest? (tens n) 1
    x.div? ten
  else if x.mantissa = 0 then some x
  else do
    let ten ← nearest? (tens maxTen) 1
    let y ← x.div? ten
    downByTens y (n - maxTen)
termination_by n
decreasing_by
  simp only [maxTen] at *
  omega

/-- **The magnitude of `significand * 10 ^ exponent`**, `none` if it is too large. -/
def ofDecimal? (significand : Nat) (exponent : Int) : Option Binary64 := do
  let x ← nearest? significand 1
  if x.mantissa = 0 then some zero
  else if exponent < 0 then x.downByTens exponent.natAbs
  else if exponent.toNat ≤ maxTen then do
    let ten ← nearest? (tens exponent.toNat) 1
    x.mul? ten
  else none

end Binary64

end EventFilter
