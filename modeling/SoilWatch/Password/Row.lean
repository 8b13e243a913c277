/-
# Rows of words

Sixteen words of 64 bits.  Both hash functions work on such rows: one keeps its state and a block of
its message in them, the other divides a block of its memory into eight of them.  Words travel as
octets, the lowest first.
-/

import SoilWatch.Text.Utf8

namespace SoilWatch
namespace Password

/-- Sixteen words. -/
structure Row where
  w0 : UInt64
  w1 : UInt64
  w2 : UInt64
  w3 : UInt64
  w4 : UInt64
  w5 : UInt64
  w6 : UInt64
  w7 : UInt64
  w8 : UInt64
  w9 : UInt64
  w10 : UInt64
  w11 : UInt64
  w12 : UInt64
  w13 : UInt64
  w14 : UInt64
  w15 : UInt64
  deriving DecidableEq, Inhabited

/-- The word turned right by so many places. -/
@[inline] def rotateRight (x n : UInt64) : UInt64 :=
  (x >>> n) ||| (x <<< (64 - n))

namespace Row

/-- The row of zeros. -/
def zero : Row :=
  ⟨0, 0, 0, 0, 0, 0, 0, 0, 0, 0, 0, 0, 0, 0, 0, 0⟩

/-- The word with that number. -/
def get (r : Row) : Nat → UInt64
  | 0 => r.w0
  | 1 => r.w1
  | 2 => r.w2
  | 3 => r.w3
  | 4 => r.w4
  | 5 => r.w5
  | 6 => r.w6
  | 7 => r.w7
  | 8 => r.w8
  | 9 => r.w9
  | 10 => r.w10
  | 11 => r.w11
  | 12 => r.w12
  | 13 => r.w13
  | 14 => r.w14
  | _ => r.w15

/-- The words with those numbers. -/
def pick (r : Row) (s : Fin 16 → Nat) : Row :=
  ⟨r.get (s 0), r.get (s 1), r.get (s 2), r.get (s 3),
    r.get (s 4), r.get (s 5), r.get (s 6), r.get (s 7),
    r.get (s 8), r.get (s 9), r.get (s 10), r.get (s 11),
    r.get (s 12), r.get (s 13), r.get (s 14), r.get (s 15)⟩

/-- The words in order. -/
def toList (r : Row) : List UInt64 :=
  [r.w0, r.w1, r.w2, r.w3, r.w4, r.w5, r.w6, r.w7,
    r.w8, r.w9, r.w10, r.w11, r.w12, r.w13, r.w14, r.w15]

/-- The row of the first sixteen words of a list, filled up with zeros. -/
def ofList (ws : List UInt64) : Row :=
  let a := ws.toArray
  ⟨a.getD 0 0, a.getD 1 0, a.getD 2 0, a.getD 3 0,
    a.getD 4 0, a.getD 5 0, a.getD 6 0, a.getD 7 0,
    a.getD 8 0, a.getD 9 0, a.getD 10 0, a.getD 11 0,
    a.getD 12 0, a.getD 13 0, a.getD 14 0, a.getD 15 0⟩

/-- The bitwise difference of two rows. -/
def xor (a b : Row) : Row :=
  ⟨a.w0 ^^^ b.w0, a.w1 ^^^ b.w1, a.w2 ^^^ b.w2, a.w3 ^^^ b.w3,
    a.w4 ^^^ b.w4, a.w5 ^^^ b.w5, a.w6 ^^^ b.w6, a.w7 ^^^ b.w7,
    a.w8 ^^^ b.w8, a.w9 ^^^ b.w9, a.w10 ^^^ b.w10, a.w11 ^^^ b.w11,
    a.w12 ^^^ b.w12, a.w13 ^^^ b.w13, a.w14 ^^^ b.w14, a.w15 ^^^ b.w15⟩

end Row

/-! ### Octets -/

/-- The octets of the lowest `n` octets of a number, the lowest first. -/
def littleEndian : (n : Nat) → Nat → Octets
  | 0, _ => []
  | n + 1, x => UInt8.ofNat (x % 256) :: littleEndian n (x / 256)

/-- The octets of a word. -/
def wordOctets (w : UInt64) : Octets :=
  littleEndian 8 w.toNat

/-- The octets of a number of 32 bits. -/
def shortOctets (n : Nat) : Octets :=
  littleEndian 4 n

/-- The number that octets write, the lowest first. -/
def numberOfOctets (bs : Octets) : Nat :=
  bs.foldr (fun b n => n * 256 + b.toNat) 0

/-- The words that octets write; a last word that is short is filled up with zeros. -/
def words : Octets → List UInt64
  | [] => []
  | a :: b :: c :: d :: e :: f :: g :: h :: rest =>
    UInt64.ofNat (numberOfOctets [a, b, c, d, e, f, g, h]) :: words rest
  | bs => [UInt64.ofNat (numberOfOctets bs)]

end Password
end SoilWatch
