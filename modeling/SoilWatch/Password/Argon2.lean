/-
# Argon2

A password hash that needs memory.  The memory is a matrix of blocks of 1024 octets with one row for
each lane; a lane is divided into four slices.  The first two blocks of a lane come from the hash of
all inputs, every other block is the compression of the block before it and of one chosen among
those that are complete.  The three kinds differ in the choice: by the block before it (`d`), by
addresses that do not depend on the password (`i`), or by addresses in the first half of the first
pass and by blocks after it (`id`).  A later pass writes over the blocks, in version 19 by the
bitwise difference with the old ones.  The tag is a hash of the last blocks of all lanes.
-/

import SoilWatch.Password.Blake2b

namespace SoilWatch
namespace Password
namespace Argon2

/-! ### Blocks -/

/-- Eight rows of sixteen words. -/
structure Block where
  r0 : Row
  r1 : Row
  r2 : Row
  r3 : Row
  r4 : Row
  r5 : Row
  r6 : Row
  r7 : Row
  deriving DecidableEq, Inhabited

/-- A sum of two words with twice the product of their lower halves. -/
@[inline] def mulAdd (a b : UInt64) : UInt64 :=
  a + b + 2 * ((a &&& 0xFFFFFFFF) * (b &&& 0xFFFFFFFF))

/-- Mixes four words. -/
@[inline] def mix {α : Type} (a b c d : UInt64) (go : UInt64 → UInt64 → UInt64 → UInt64 → α) : α :=
  let a := mulAdd a b
  let d := rotateRight (d ^^^ a) 32
  let c := mulAdd c d
  let b := rotateRight (b ^^^ c) 24
  let a := mulAdd a b
  let d := rotateRight (d ^^^ a) 16
  let c := mulAdd c d
  let b := rotateRight (b ^^^ c) 63
  go a b c d

/-- Mixes the words of a row by columns and then by diagonals. -/
def permute (r : Row) : Row :=
  mix r.w0 r.w4 r.w8 r.w12 fun v0 v4 v8 v12 =>
  mix r.w1 r.w5 r.w9 r.w13 fun v1 v5 v9 v13 =>
  mix r.w2 r.w6 r.w10 r.w14 fun v2 v6 v10 v14 =>
  mix r.w3 r.w7 r.w11 r.w15 fun v3 v7 v11 v15 =>
  mix v0 v5 v10 v15 fun v0 v5 v10 v15 =>
  mix v1 v6 v11 v12 fun v1 v6 v11 v12 =>
  mix v2 v7 v8 v13 fun v2 v7 v8 v13 =>
  mix v3 v4 v9 v14 fun v3 v4 v9 v14 =>
  ⟨v0, v1, v2, v3, v4, v5, v6, v7, v8, v9, v10, v11, v12, v13, v14, v15⟩

namespace Block

/-- The block of zeros. -/
def zero : Block :=
  ⟨.zero, .zero, .zero, .zero, .zero, .zero, .zero, .zero⟩

/-- The bitwise difference of two blocks. -/
def xor (a b : Block) : Block :=
  ⟨a.r0.xor b.r0, a.r1.xor b.r1, a.r2.xor b.r2, a.r3.xor b.r3,
    a.r4.xor b.r4, a.r5.xor b.r5, a.r6.xor b.r6, a.r7.xor b.r7⟩

/-- The block with all rows mixed. -/
def permuteRows (b : Block) : Block :=
  ⟨permute b.r0, permute b.r1, permute b.r2, permute b.r3,
    permute b.r4, permute b.r5, permute b.r6, permute b.r7⟩

/-- The block read by columns, each two words wide. -/
def transpose (b : Block) : Block :=
  ⟨⟨b.r0.w0, b.r0.w1, b.r1.w0, b.r1.w1, b.r2.w0, b.r2.w1, b.r3.w0, b.r3.w1,
      b.r4.w0, b.r4.w1, b.r5.w0, b.r5.w1, b.r6.w0, b.r6.w1, b.r7.w0, b.r7.w1⟩,
    ⟨b.r0.w2, b.r0.w3, b.r1.w2, b.r1.w3, b.r2.w2, b.r2.w3, b.r3.w2, b.r3.w3,
      b.r4.w2, b.r4.w3, b.r5.w2, b.r5.w3, b.r6.w2, b.r6.w3, b.r7.w2, b.r7.w3⟩,
    ⟨b.r0.w4, b.r0.w5, b.r1.w4, b.r1.w5, b.r2.w4, b.r2.w5, b.r3.w4, b.r3.w5,
      b.r4.w4, b.r4.w5, b.r5.w4, b.r5.w5, b.r6.w4, b.r6.w5, b.r7.w4, b.r7.w5⟩,
    ⟨b.r0.w6, b.r0.w7, b.r1.w6, b.r1.w7, b.r2.w6, b.r2.w7, b.r3.w6, b.r3.w7,
      b.r4.w6, b.r4.w7, b.r5.w6, b.r5.w7, b.r6.w6, b.r6.w7, b.r7.w6, b.r7.w7⟩,
    ⟨b.r0.w8, b.r0.w9, b.r1.w8, b.r1.w9, b.r2.w8, b.r2.w9, b.r3.w8, b.r3.w9,
      b.r4.w8, b.r4.w9, b.r5.w8, b.r5.w9, b.r6.w8, b.r6.w9, b.r7.w8, b.r7.w9⟩,
    ⟨b.r0.w10, b.r0.w11, b.r1.w10, b.r1.w11, b.r2.w10, b.r2.w11, b.r3.w10, b.r3.w11,
      b.r4.w10, b.r4.w11, b.r5.w10, b.r5.w11, b.r6.w10, b.r6.w11, b.r7.w10, b.r7.w11⟩,
    ⟨b.r0.w12, b.r0.w13, b.r1.w12, b.r1.w13, b.r2.w12, b.r2.w13, b.r3.w12, b.r3.w13,
      b.r4.w12, b.r4.w13, b.r5.w12, b.r5.w13, b.r6.w12, b.r6.w13, b.r7.w12, b.r7.w13⟩,
    ⟨b.r0.w14, b.r0.w15, b.r1.w14, b.r1.w15, b.r2.w14, b.r2.w15, b.r3.w14, b.r3.w15,
      b.r4.w14, b.r4.w15, b.r5.w14, b.r5.w15, b.r6.w14, b.r6.w15, b.r7.w14, b.r7.w15⟩⟩

/-- The compression of two blocks: rows, then columns, then the difference with the input. -/
def compress (x y : Block) : Block :=
  let r := x.xor y
  r.permuteRows.transpose.permuteRows.transpose.xor r

/-- The rows in order. -/
def toList (b : Block) : List Row :=
  [b.r0, b.r1, b.r2, b.r3, b.r4, b.r5, b.r6, b.r7]

/-- The word with that number. -/
def get (b : Block) (i : Nat) : UInt64 :=
  match i / 16 with
  | 0 => b.r0.get (i % 16)
  | 1 => b.r1.get (i % 16)
  | 2 => b.r2.get (i % 16)
  | 3 => b.r3.get (i % 16)
  | 4 => b.r4.get (i % 16)
  | 5 => b.r5.get (i % 16)
  | 6 => b.r6.get (i % 16)
  | _ => b.r7.get (i % 16)

/-- The octets of a block. -/
def toOctets (b : Block) : Octets :=
  b.toList.flatMap fun r => r.toList.flatMap wordOctets

/-- The block that 1024 octets write. -/
def ofOctets (bs : Octets) : Block :=
  let ws := words bs
  ⟨.ofList (ws.drop 0), .ofList (ws.drop 16), .ofList (ws.drop 32), .ofList (ws.drop 48),
    .ofList (ws.drop 64), .ofList (ws.drop 80), .ofList (ws.drop 96), .ofList (ws.drop 112)⟩

end Block

/-! ### Parameters -/

/-- How the block that is referred to is chosen. -/
inductive Kind where
  | d
  | i
  | id
  deriving DecidableEq, Repr

/-- The number of a kind. -/
def Kind.number : Kind → Nat
  | .d => 0
  | .i => 1
  | .id => 2

/-- The costs of a hash and what else goes into it. -/
structure Params where
  kind : Kind
  /-- Either 16 or 19. -/
  version : Nat
  /-- In units of 1024 octets. -/
  memory : Nat
  passes : Nat
  lanes : Nat
  tagLength : Nat
  data : Octets
  deriving DecidableEq, Repr

namespace Params

/-- The number of blocks of a slice of a lane. -/
def sliceLength (p : Params) : Nat :=
  p.memory / (4 * p.lanes)

/-- The number of blocks of a lane. -/
def laneLength (p : Params) : Nat :=
  4 * p.sliceLength

/-- The number of blocks. -/
def blocks (p : Params) : Nat :=
  p.lanes * p.laneLength

/-- Whether the costs are in the range that the function has. -/
def Valid (p : Params) : Prop :=
  1 ≤ p.passes ∧ 1 ≤ p.lanes ∧ p.lanes < 16777216 ∧ 8 * p.lanes ≤ p.memory ∧ 4 ≤ p.tagLength

instance (p : Params) : Decidable p.Valid :=
  inferInstanceAs (Decidable (_ ∧ _ ∧ _ ∧ _ ∧ _))

end Params

/-! ### Hashing -/

/-- An octet string with its length in front. -/
def prefixed (bs : Octets) : Octets :=
  shortOctets bs.length ++ bs

/-- The hash of all inputs. -/
def seed (p : Params) (password salt : Octets) : Octets :=
  Blake2b.hash 64 (shortOctets p.lanes ++ shortOctets p.tagLength ++ shortOctets p.memory ++
    shortOctets p.passes ++ shortOctets p.version ++ shortOctets p.kind.number ++
    prefixed password ++ prefixed salt ++ prefixed [] ++ prefixed p.data)

/-- The first halves of `n` hashes, each the hash of the one before it, and the hash of `last`
octets of the one after them. -/
def chain (last : Nat) : (n : Nat) → Octets → Octets
  | 0, v => Blake2b.hash last v
  | n + 1, v =>
    let v := Blake2b.hash 64 v
    v.take 32 ++ chain last n v

/-- A hash of any length. -/
def longHash (n : Nat) (bs : Octets) : Octets :=
  let input := shortOctets n ++ bs
  if n ≤ 64 then Blake2b.hash n input
  else
    let halves := (n + 31) / 32 - 2
    chain (n - 32 * halves) halves input

/-- A place in the filling of the memory. -/
structure Position where
  pass : Nat
  slice : Nat
  lane : Nat

/-- Whether the blocks referred to are chosen by addresses. -/
def Params.addressed (p : Params) (place : Position) : Bool :=
  match p.kind with
  | .d => false
  | .i => true
  | .id => place.pass = 0 && place.slice < 2

/-- The block of addresses with that number, counted from one. -/
def addressBlock (p : Params) (place : Position) (counter : Nat) : Block :=
  let input : Block := { Block.zero with r0 := { Row.zero with
    w0 := UInt64.ofNat place.pass, w1 := UInt64.ofNat place.lane, w2 := UInt64.ofNat place.slice
    w3 := UInt64.ofNat p.blocks, w4 := UInt64.ofNat p.passes, w5 := UInt64.ofNat p.kind.number
    w6 := UInt64.ofNat counter } }
  Block.zero.compress (Block.zero.compress input)

/-- The index of the block that block `i` of a slice refers to, given a word that chooses it. -/
def reference (p : Params) (place : Position) (i : Nat) (word : UInt64) : Nat :=
  let first := place.pass = 0
  let lane := if first ∧ place.slice = 0 then place.lane else (word >>> 32).toNat % p.lanes
  let complete := if first then place.slice * p.sliceLength else p.laneLength - p.sliceLength
  let area :=
    if lane = place.lane then complete + i - 1 else if i = 0 then complete - 1 else complete
  let j := word &&& 0xFFFFFFFF
  let x := (j * j) >>> 32
  let y := ((UInt64.ofNat area * x) >>> 32).toNat
  let start := if first ∨ place.slice = 3 then 0 else (place.slice + 1) * p.sliceLength
  lane * p.laneLength + (start + (area - 1 - y)) % p.laneLength

/-- Fills `n` blocks of a slice from block `i` on. -/
def fillBlocks (p : Params) (place : Position) :
    (n i : Nat) → (addresses : Block) → Array Block → Array Block
  | 0, _, _, memory => memory
  | n + 1, i, addresses, memory =>
    let addressed := p.addressed place
    let addresses :=
      if addressed ∧ i % 128 = 0 then addressBlock p place (i / 128 + 1) else addresses
    let column := place.slice * p.sliceLength + i
    let index := place.lane * p.laneLength + column
    let before := if column = 0 then index + p.laneLength - 1 else index - 1
    let previous := memory.getD before .zero
    let word := if addressed then addresses.get (i % 128) else previous.r0.w0
    let block := previous.compress (memory.getD (reference p place i word) .zero)
    let block :=
      if place.pass = 0 ∨ p.version = 16 then block else block.xor (memory.getD index .zero)
    fillBlocks p place n (i + 1) addresses (memory.setIfInBounds index block)

/-- Fills a slice of a lane; the first two blocks of a lane are there from the start. -/
def fillSlice (p : Params) (place : Position) (memory : Array Block) : Array Block :=
  let addresses := if p.addressed place then addressBlock p place 1 else .zero
  if place.pass = 0 ∧ place.slice = 0 then fillBlocks p place (p.sliceLength - 2) 2 addresses memory
  else fillBlocks p place p.sliceLength 0 addresses memory

/-- The memory with the first two blocks of every lane. -/
def startMemory (p : Params) (h : Octets) : Array Block :=
  (List.range p.lanes).foldl (fun memory lane =>
    (List.range 2).foldl (fun memory i =>
      memory.setIfInBounds (lane * p.laneLength + i)
        (.ofOctets (longHash 1024 (h ++ shortOctets i ++ shortOctets lane)))) memory)
    (Array.replicate p.blocks .zero)

/-- The places of the filling, in order. -/
def positions (p : Params) : List Position :=
  (List.range p.passes).flatMap fun pass =>
    (List.range 4).flatMap fun slice =>
      (List.range p.lanes).map fun lane => ⟨pass, slice, lane⟩

/-- The tag of a password and a salt. -/
def tag (p : Params) (password salt : Octets) : Octets :=
  let memory :=
    (positions p).foldl (fun memory place => fillSlice p place memory)
      (startMemory p (seed p password salt))
  let last :=
    (List.range p.lanes).foldl (fun b lane =>
      b.xor (memory.getD (lane * p.laneLength + p.laneLength - 1) .zero)) Block.zero
  longHash p.tagLength last.toOctets

end Argon2
end Password
end SoilWatch
