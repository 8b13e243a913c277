/-
# Hexadecimal digits

Octets are written as two lower-case digits; digits of either case are read.
-/

import SoilWatch.Text.Utf8

namespace SoilWatch
namespace Text

/-- The lower-case digit of a number below sixteen. -/
def hexDigit (n : Nat) : Char :=
  if n < 10 then Char.ofNat (0x30 + n) else Char.ofNat (0x57 + n)

/-- The number that an octet stands for as a hexadecimal digit of either case. -/
def hexValue? (b : UInt8) : Option Nat :=
  let n := b.toNat
  if 0x30 ≤ n ∧ n ≤ 0x39 then some (n - 0x30)
  else if 0x41 ≤ n ∧ n ≤ 0x46 then some (n - 0x37)
  else if 0x61 ≤ n ∧ n ≤ 0x66 then some (n - 0x57)
  else none

/-- Two digits for each octet. -/
def hexChars (bs : Octets) : List Char :=
  bs.flatMap fun b => [hexDigit (b.toNat / 16), hexDigit (b.toNat % 16)]

/-- The octets in hexadecimal. -/
def hex (bs : Octets) : String :=
  String.ofList (hexChars bs)

example : hex [0x00, 0x9f, 0xa0] = "009fa0" := by decide

end Text
end SoilWatch
