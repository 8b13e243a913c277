/-
# Base 64

Three octets are four digits of six bits.  The two variants differ in the last two digits of the
alphabet and in whether a short last group is filled up with `=`.  Reading is strict: the length has
to be right, the padding has to be there exactly where the variant writes it, and the bits of a last
digit that carry nothing have to be zero.  So every list of octets has exactly one written form.
-/

import SoilWatch.Text.Utf8

namespace SoilWatch
namespace Text
namespace Base64

/-- A variant of the code: its digits 62 and 63, and whether it pads. -/
structure Variant where
  digit62 : Char
  digit63 : Char
  padded : Bool

/-- Digits that need no escape in a link, with padding. -/
def Variant.urlSafe : Variant := ⟨'-', '_', true⟩

/-- The standard digits without padding, as password hashes use them. -/
def Variant.bare : Variant := ⟨'+', '/', false⟩

/-- The digit of a number below sixty-four. -/
def digit (v : Variant) (n : Nat) : Char :=
  if n < 26 then Char.ofNat (0x41 + n)
  else if n < 52 then Char.ofNat (0x61 + (n - 26))
  else if n < 62 then Char.ofNat (0x30 + (n - 52))
  else if n = 62 then v.digit62
  else v.digit63

/-- The number that a character stands for. -/
def value? (v : Variant) (c : Char) : Option Nat :=
  let n := c.toNat
  if 0x41 ≤ n ∧ n ≤ 0x5A then some (n - 0x41)
  else if 0x61 ≤ n ∧ n ≤ 0x7A then some (n - 0x61 + 26)
  else if 0x30 ≤ n ∧ n ≤ 0x39 then some (n - 0x30 + 52)
  else if c = v.digit62 then some 62
  else if c = v.digit63 then some 63
  else none

/-- The padding that fills `n` places. -/
def padding (v : Variant) (n : Nat) : List Char :=
  if v.padded then List.replicate n '=' else []

/-- The digits of a list of octets. -/
def encodeChars (v : Variant) : Octets → List Char
  | [] => []
  | [a] => [digit v (a.toNat / 4), digit v (a.toNat % 4 * 16)] ++ padding v 2
  | [a, b] =>
    [digit v (a.toNat / 4), digit v (a.toNat % 4 * 16 + b.toNat / 16),
      digit v (b.toNat % 16 * 4)] ++ padding v 1
  | a :: b :: c :: rest =>
    digit v (a.toNat / 4) :: digit v (a.toNat % 4 * 16 + b.toNat / 16) ::
      digit v (b.toNat % 16 * 4 + c.toNat / 64) :: digit v (c.toNat % 64) :: encodeChars v rest

/-- The octet of a last group of two digits. -/
def lastOne? (v : Variant) (a b : Char) : Option Octets := do
  let x ← value? v a
  let y ← value? v b
  if y % 16 = 0 then some [UInt8.ofNat (x * 4 + y / 16)] else none

/-- The octets of a last group of three digits. -/
def lastTwo? (v : Variant) (a b c : Char) : Option Octets := do
  let x ← value? v a
  let y ← value? v b
  let z ← value? v c
  if z % 4 = 0 then some [UInt8.ofNat (x * 4 + y / 16), UInt8.ofNat (y % 16 * 16 + z / 4)]
  else none

/-- The octets of a full group. -/
def group? (v : Variant) (a b c d : Char) : Option Octets := do
  let x ← value? v a
  let y ← value? v b
  let z ← value? v c
  let w ← value? v d
  some [UInt8.ofNat (x * 4 + y / 16), UInt8.ofNat (y % 16 * 16 + z / 4),
    UInt8.ofNat (z % 4 * 64 + w)]

/-- The octets that a list of digits writes, if it is a written form of the variant. -/
def decodeChars? (v : Variant) : List Char → Option Octets
  | [] => some []
  | [a, b] => if v.padded then none else lastOne? v a b
  | [a, b, c] => if v.padded then none else lastTwo? v a b c
  | [a, b, c, d] =>
    if v.padded ∧ d = '=' then
      if c = '=' then lastOne? v a b else lastTwo? v a b c
    else group? v a b c d
  | a :: b :: c :: d :: rest => do
    let g ← group? v a b c d
    let tail ← decodeChars? v rest
    some (g ++ tail)
  | [_] => none

/-- The written form of a list of octets. -/
def encode (v : Variant) (bs : Octets) : String :=
  String.ofList (encodeChars v bs)

/-- The octets of a written form. -/
def decode? (v : Variant) (s : String) : Option Octets :=
  decodeChars? v s.toList

example : encode .urlSafe [0xFB, 0xFF] = "-_8=" := by decide
example : decode? .urlSafe "-_8=" = some [0xFB, 0xFF] := by decide
example : decode? .urlSafe "-_8" = none ∧ decode? .urlSafe "-_9=" = none := by decide
example : decode? .bare "+/8" = some [0xFB, 0xFF] := by decide

end Base64
end Text
end SoilWatch
