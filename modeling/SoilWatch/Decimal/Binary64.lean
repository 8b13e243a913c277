/-
# Binary floating point, exactly

A finite binary64 number is `± mantissa · 2 ^ exponent` with a mantissa below `2 ^ 53` and an
exponent of at least `-1074`.  All arithmetic here is on natural numbers: a quotient is rounded to
the nearest number, a tie goes to the even mantissa (`nearest?`), and a product or quotient of two
numbers is the exact one, rounded once.  A decimal is turned into a number by one such step with a
power of ten, or by several where the power is beyond the range (`ofDecimal?`).
-/

namespace SoilWatch
namespace Decimal

/-- A nonnegative binary64 number: `mantissa · 2 ^ exponent`. -/
structure Magnitude where
  mantissa : Nat
  exponent : Int
  deriving DecidableEq, Repr

/-- A finite binary64 number. -/
structure Binary64 where
  negative : Bool
  magnitude : Magnitude
  deriving DecidableEq, Repr

/-- The natural number nearest to `n / d`; a half goes to the even neighbour. -/
def roundHalfEven (n d : Nat) : Nat :=
  let q := n / d
  let r := n % d
  if 2 * r < d then q
  else if d < 2 * r then q + 1
  else if q % 2 = 0 then q
  else q + 1

/-- Numerator and denominator of `n / d / 2 ^ e`. -/
def shiftDown (n d : Nat) (e : Int) : Nat × Nat :=
  (n * Nat.pow 2 (-e).toNat, d * Nat.pow 2 e.toNat)

/-- The exponent of the leading bit of `n / d`. -/
def leadingBit (n d : Nat) : Int :=
  let e : Int := (n.log2 : Int) - d.log2
  let (n', d') := shiftDown n d e
  if d' ≤ n' then e else e - 1

namespace Magnitude

/-- Zero. -/
def zero : Magnitude := ⟨0, -1074⟩

/-- The least mantissa of a number that is not subnormal, `2 ^ 52`. -/
def leastNormal : Nat := 4503599627370496

/-- The number nearest to `n / d`, unless that is beyond the largest. -/
def nearest? (n d : Nat) : Option Magnitude :=
  if n = 0 then some zero
  else
    let e := max (leadingBit n d - 52) (-1074)
    let (n', d') := shiftDown n d e
    let m := roundHalfEven n' d'
    let r : Magnitude := if m = 2 * leastNormal then ⟨leastNormal, e + 1⟩ else ⟨m, e⟩
    if 971 < r.exponent then none else some r

/-- Numerator and denominator. -/
def fraction (x : Magnitude) : Nat × Nat :=
  (x.mantissa * Nat.pow 2 x.exponent.toNat, Nat.pow 2 (-x.exponent).toNat)

/-- The product, rounded once. -/
def mul? (x y : Magnitude) : Option Magnitude :=
  nearest? (x.fraction.1 * y.fraction.1) (x.fraction.2 * y.fraction.2)

/-- The quotient, rounded once. -/
def div? (x y : Magnitude) : Option Magnitude :=
  nearest? (x.fraction.1 * y.fraction.2) (x.fraction.2 * y.fraction.1)

/-- The number `x · 10 ^ e`, with the power rounded before it is applied. -/
def timesPowerOfTen? (x : Magnitude) (e : Int) : Option Magnitude := do
  let p ← nearest? (Nat.pow 10 e.natAbs) 1
  if 0 ≤ e then x.mul? p else x.div? p

/-- The number `x · 10 ^ e` for any exponent; one below `-308` is applied in steps of `-308`. -/
def scaleByTen? (x : Magnitude) (e : Int) : Option Magnitude :=
  if x.mantissa = 0 then some zero
  else if 308 < e then none
  else if -308 ≤ e then x.timesPowerOfTen? e
  else (x.timesPowerOfTen? (-308)).bind (scaleByTen? · (e + 308))
  termination_by (-e).toNat
  decreasing_by omega

/-- The number read from the digits `n` and a power of ten. -/
def ofDecimal? (n : Nat) (e : Int) : Option Magnitude :=
  (nearest? n 1).bind (scaleByTen? · e)

end Magnitude

example : Magnitude.nearest? 1 10 = some ⟨0x1999999999999a, -56⟩ := by decide +kernel
example : Magnitude.nearest? (Nat.pow 10 309) 1 = none := by decide +kernel
example : Magnitude.ofDecimal? 5 (-324) = some ⟨1, -1074⟩ := by decide +kernel
example : Magnitude.ofDecimal? 1 (-400) = some ⟨0, -1074⟩ := by decide +kernel

end Decimal
end SoilWatch
