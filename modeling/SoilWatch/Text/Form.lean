/-
# Form encoding

The pairs of a query or a form: pieces between `&`, each cut at its first `=`.  In a name or a value
a plus sign is a space and `%` with two hexadecimal digits is an octet, in this order, so a plus
sign that is meant has to be sent as `%2B`; a percent sign without two digits behind it stays.  The
octets are read as UTF-8, with `U+FFFD` in the place of what is not.
-/

import SoilWatch.Text.Hex
import SoilWatch.Text.Split

namespace SoilWatch
namespace Text
namespace Form

/-- The octet `%`. -/
def percent : UInt8 := 0x25

/-- Decodes percent signs in front of octets in reverse order. -/
def percentDecodeOnto (back : List UInt8) : Octets → Octets
  | [] => back.reverse
  | b :: bs =>
    if b = percent then
      match bs with
      | h :: l :: rest =>
        match hexValue? h, hexValue? l with
        | some x, some y => percentDecodeOnto (UInt8.ofNat (x * 16 + y) :: back) rest
        | _, _ => percentDecodeOnto (b :: back) (h :: l :: rest)
      | bs => percentDecodeOnto (b :: back) bs
    else percentDecodeOnto (b :: back) bs

/-- The octets with each percent sign and its two digits replaced by the octet they write. -/
def percentDecode (bs : Octets) : Octets :=
  percentDecodeOnto [] bs

/-- Spaces for plus signs. -/
def spaces (bs : Octets) : Octets :=
  bs.map fun b => if b = 0x2B then 0x20 else b

/-- The text of a name or a value. -/
def component (bs : Octets) : String :=
  Utf8.decodeLossy (percentDecode (spaces bs))

/-- A piece cut at its first `=`. -/
def pair (piece : Octets) : String × String :=
  (component (piece.takeWhile (· ≠ 0x3D)), component ((piece.dropWhile (· ≠ 0x3D)).drop 1))

/-- The pairs of a query or a form. -/
def pairs (bs : Octets) : List (String × String) :=
  ((split 0x26 bs).filter (!·.isEmpty)).map pair

example : pairs (Utf8.encode "a=1+%2B&&b=%41=&c") = [("a", "1 +"), ("b", "A="), ("c", "")] := by
  decide +kernel

end Form
end Text
end SoilWatch
