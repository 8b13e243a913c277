/-
# BLAKE2b

A hash of 1 to 64 octets.  The message is taken in blocks of 128 octets, the last one filled up with
zeros; each block is mixed into a state of eight words in twelve rounds, which use the words of the
block in twelve orders.  The first word of the state depends on the length of the hash, the mixing
of a block on the number of octets up to its end and on whether it is the last.
-/

import SoilWatch.Password.Row

namespace SoilWatch
namespace Password
namespace Blake2b

/-- The state before the first block, but for the length of the hash. -/
def initial : Row :=
  ⟨0x6a09e667f3bcc908, 0xbb67ae8584caa73b, 0x3c6ef372fe94f82b, 0xa54ff53a5f1d36f1,
    0x510e527fade682d1, 0x9b05688c2b3e6c1f, 0x1f83d9abfb41bd6b, 0x5be0cd19137e2179,
    0, 0, 0, 0, 0, 0, 0, 0⟩

/-- The order of the words of a block in each round. -/
def orders : List (Vector Nat 16) := [
  #v[0, 1, 2, 3, 4, 5, 6, 7, 8, 9, 10, 11, 12, 13, 14, 15],
  #v[14, 10, 4, 8, 9, 15, 13, 6, 1, 12, 0, 2, 11, 7, 5, 3],
  #v[11, 8, 12, 0, 5, 2, 15, 13, 10, 14, 3, 6, 7, 1, 9, 4],
  #v[7, 9, 3, 1, 13, 12, 11, 14, 2, 6, 5, 10, 4, 0, 15, 8],
  #v[9, 0, 5, 7, 2, 4, 10, 15, 14, 1, 11, 12, 6, 8, 3, 13],
  #v[2, 12, 6, 10, 0, 11, 8, 3, 4, 13, 7, 5, 15, 14, 1, 9],
  #v[12, 5, 1, 15, 14, 13, 4, 10, 0, 7, 6, 3, 9, 2, 8, 11],
  #v[13, 11, 7, 14, 12, 1, 3, 9, 5, 0, 15, 4, 8, 6, 2, 10],
  #v[6, 15, 14, 9, 11, 3, 0, 8, 12, 2, 13, 7, 1, 4, 10, 5],
  #v[10, 2, 8, 4, 7, 6, 1, 5, 15, 11, 9, 14, 3, 12, 13, 0],
  #v[0, 1, 2, 3, 4, 5, 6, 7, 8, 9, 10, 11, 12, 13, 14, 15],
  #v[14, 10, 4, 8, 9, 15, 13, 6, 1, 12, 0, 2, 11, 7, 5, 3]]

/-- Mixes two words of a block into four words of the state. -/
@[inline] def mix {α : Type} (a b c d x y : UInt64)
    (go : UInt64 → UInt64 → UInt64 → UInt64 → α) : α :=
  let a := a + b + x
  let d := rotateRight (d ^^^ a) 32
  let c := c + d
  let b := rotateRight (b ^^^ c) 24
  let a := a + b + y
  let d := rotateRight (d ^^^ a) 16
  let c := c + d
  let b := rotateRight (b ^^^ c) 63
  go a b c d

/-- One round: the words of the state are mixed by columns and then by diagonals. -/
def round (v m : Row) : Row :=
  mix v.w0 v.w4 v.w8 v.w12 m.w0 m.w1 fun v0 v4 v8 v12 =>
  mix v.w1 v.w5 v.w9 v.w13 m.w2 m.w3 fun v1 v5 v9 v13 =>
  mix v.w2 v.w6 v.w10 v.w14 m.w4 m.w5 fun v2 v6 v10 v14 =>
  mix v.w3 v.w7 v.w11 v.w15 m.w6 m.w7 fun v3 v7 v11 v15 =>
  mix v0 v5 v10 v15 m.w8 m.w9 fun v0 v5 v10 v15 =>
  mix v1 v6 v11 v12 m.w10 m.w11 fun v1 v6 v11 v12 =>
  mix v2 v7 v8 v13 m.w12 m.w13 fun v2 v7 v8 v13 =>
  mix v3 v4 v9 v14 m.w14 m.w15 fun v3 v4 v9 v14 =>
  ⟨v0, v1, v2, v3, v4, v5, v6, v7, v8, v9, v10, v11, v12, v13, v14, v15⟩

/-- Mixes a block into the state; `count` octets have been taken up to its end. -/
def compress (h m : Row) (count : Nat) (last : Bool) : Row :=
  let v : Row := { h with
    w8 := initial.w0, w9 := initial.w1, w10 := initial.w2, w11 := initial.w3
    w12 := initial.w4 ^^^ UInt64.ofNat count
    w13 := initial.w5 ^^^ UInt64.ofNat (count / 18446744073709551616)
    w14 := if last then ~~~initial.w6 else initial.w6
    w15 := initial.w7 }
  let v := orders.foldl (fun v s => round v (m.pick s.get)) v
  ⟨h.w0 ^^^ v.w0 ^^^ v.w8, h.w1 ^^^ v.w1 ^^^ v.w9, h.w2 ^^^ v.w2 ^^^ v.w10,
    h.w3 ^^^ v.w3 ^^^ v.w11, h.w4 ^^^ v.w4 ^^^ v.w12, h.w5 ^^^ v.w5 ^^^ v.w13,
    h.w6 ^^^ v.w6 ^^^ v.w14, h.w7 ^^^ v.w7 ^^^ v.w15, 0, 0, 0, 0, 0, 0, 0, 0⟩

/-- Mixes a message into the state; `count` octets have been taken before it, and `fuel` bounds the
number of blocks. -/
def absorb : (fuel : Nat) → Row → (count : Nat) → Octets → Row
  | 0, h, _, _ => h
  | fuel + 1, h, count, bs =>
    let block := bs.take 128
    let rest := bs.drop 128
    let count := count + block.length
    let h := compress h (.ofList (words block)) count rest.isEmpty
    if rest.isEmpty then h else absorb fuel h count rest

/-- The hash of `n` octets of a message. -/
def hash (n : Nat) (bs : Octets) : Octets :=
  let h := { initial with w0 := initial.w0 ^^^ 0x01010000 ^^^ UInt64.ofNat n }
  ((absorb (bs.length + 1) h 0 bs).toList.flatMap wordOctets).take n

end Blake2b
end Password
end SoilWatch
