/-
# The shortest decimal of a binary number

The reals that round to a binary64 number are an interval around it, its ends included iff the
mantissa is even.  A grid is the set of multiples of one power of ten.  From coarse grids to fine
ones, the first grid with a point in the interval gives the fewest digits, and of its two points
next to the number the nearer is taken, on a tie the even one (`shortest`).  Where the point stands
and how an exponent looks is up to the text that shows the number (`Layout`).
-/

import SoilWatch.Decimal.Binary64

namespace SoilWatch
namespace Decimal

/-- A decimal `digits · 10 ^ power`. -/
structure Scientific where
  digits : Nat
  power : Int
  deriving DecidableEq, Repr

namespace Magnitude

/-- The ends of the interval that rounds to `x`, in quarters of its last bit. -/
def quarterBounds (x : Magnitude) : Nat × Nat :=
  let below := if x.mantissa = leastNormal ∧ -1074 < x.exponent then 1 else 2
  (4 * x.mantissa - below, 4 * x.mantissa + 2)

/-- Factors `a` and `b` such that `c · 10 ^ p` compares with `t` quarters of the last bit of `x` as
`c · a` with `t · b`. -/
def gridFactors (x : Magnitude) (p : Int) : Nat × Nat :=
  let s := x.exponent - 2
  (Nat.pow 10 p.toNat * Nat.pow 2 (-s).toNat, Nat.pow 2 s.toNat * Nat.pow 10 (-p).toNat)

/-- Whether `c · 10 ^ p` rounds to `x`. -/
def covers (x : Magnitude) (c : Nat) (p : Int) : Bool :=
  let (a, b) := x.gridFactors p
  let (low, high) := x.quarterBounds
  if x.mantissa % 2 = 0 then low * b ≤ c * a && c * a ≤ high * b
  else low * b < c * a && c * a < high * b

/-- The point of the grid `10 ^ p` next to `x` that rounds to it. -/
def onGrid? (x : Magnitude) (p : Int) : Option Nat :=
  let (a, b) := x.gridFactors p
  let v := 4 * x.mantissa * b
  let c := v / a
  match x.covers c p, x.covers (c + 1) p with
  | true, true => some (roundHalfEven v a)
  | true, false => some c
  | false, true => some (c + 1)
  | false, false => none

/-- The first grid that has a point, from `10 ^ p` downwards. -/
def firstGrid (x : Magnitude) : Nat → Int → Scientific
  | 0, p => ⟨0, p⟩
  | n + 1, p =>
    match x.onGrid? p with
    | some c => ⟨c, p⟩
    | none => firstGrid x n (p - 1)

/-- The shortest decimal that reads back as `x`. -/
def shortest (x : Magnitude) : Scientific :=
  if x.mantissa = 0 then ⟨0, 0⟩
  else
    let bits : Int := x.mantissa.log2 + 1 + x.exponent
    x.firstGrid 24 (bits * 30103 / 100000 + 2)

end Magnitude

/-- How a number is shown: positionally while the exponent of its first digit lies in a range, else
with one digit before the point and an exponent. -/
structure Layout where
  lowest : Int
  highest : Int
  plus : Bool
  exponentDigits : Nat

namespace Layout

/-- The exponent mark, the sign and the digits of an exponent. -/
def exponentChars (l : Layout) (e : Int) : List Char :=
  let ds := Nat.toDigits 10 e.natAbs
  let fill := List.replicate (l.exponentDigits - ds.length) '0'
  'e' :: (if e < 0 then ['-'] else if l.plus then ['+'] else []) ++ fill ++ ds

/-- The digits with a point behind the first `n` of them, and a zero on a side that has none. -/
def pointed (ds : List Char) (n : Int) : List Char :=
  if n ≤ 0 then ['0', '.'] ++ List.replicate (-n).toNat '0' ++ ds
  else if ds.length ≤ n.toNat then ds ++ List.replicate (n.toNat - ds.length) '0' ++ ['.', '0']
  else ds.take n.toNat ++ '.' :: ds.drop n.toNat

/-- The characters of a magnitude. -/
def chars (l : Layout) (x : Magnitude) : List Char :=
  let d := x.shortest
  let ds := Nat.toDigits 10 d.digits
  let first := d.power + ds.length - 1
  if x.mantissa = 0 ∨ (l.lowest ≤ first ∧ first ≤ l.highest) then pointed ds (first + 1)
  else
    match ds with
    | [c] => c :: l.exponentChars first
    | c :: cs => c :: '.' :: cs ++ l.exponentChars first
    | [] => []

/-- The text of a number. -/
def text (l : Layout) (x : Binary64) : String :=
  String.ofList ((if x.negative then ['-'] else []) ++ l.chars x.magnitude)

end Layout

end Decimal
end SoilWatch
