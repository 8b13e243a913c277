/-
# Text as octets

UTF-8 read by a machine that takes one octet at a time.  Between characters it stands idle; inside a
sequence it knows how many octets are missing and which range the next one has to lie in, so that
overlong forms, surrogates and values beyond `U+10FFFF` are never completed.  An octet that cannot
go on closes the sequence as one ill-formed piece and is then read as a lead of its own.  The strict
reading (`decode?`) refuses a text with an ill-formed piece, the lenient one (`decodeLossy`) puts
`U+FFFD` in the place of each.
-/

namespace SoilWatch

/-- A text as it travels: a list of octets. -/
abbrev Octets := List UInt8

namespace Text
namespace Utf8

/-- The octets of a text. -/
def encode (s : String) : Octets :=
  s.toList.flatMap String.utf8EncodeChar

/-- An unfinished sequence: `need` octets are missing, the next of them lies between `low` and
`high`, and `value` holds the bits read. -/
structure Unfinished where
  need : Nat
  low : UInt8
  high : UInt8
  value : Nat

/-- What an octet is when a character may begin with it. -/
inductive Lead where
  | whole (c : Char)
  | opening (u : Unfinished)
  | stray

/-- Reads an octet between characters. -/
def lead (b : UInt8) : Lead :=
  let n := b.toNat
  if n < 0x80 then .whole (Char.ofNat n)
  else if n < 0xC2 then .stray
  else if n < 0xE0 then .opening ⟨1, 0x80, 0xBF, n - 0xC0⟩
  else if n < 0xF0 then
    .opening ⟨2, if n = 0xE0 then 0xA0 else 0x80, if n = 0xED then 0x9F else 0xBF, n - 0xE0⟩
  else if n < 0xF5 then
    .opening ⟨3, if n = 0xF0 then 0x90 else 0x80, if n = 0xF4 then 0x8F else 0xBF, n - 0xF0⟩
  else .stray

/-- The machine: the pieces read, latest first, `none` for an ill-formed one, and the sequence it
stands in. -/
structure Machine where
  pieces : List (Option Char)
  pending : Option Unfinished

/-- Takes an octet between characters. -/
def Machine.begin (pieces : List (Option Char)) (b : UInt8) : Machine :=
  match lead b with
  | .whole c => ⟨some c :: pieces, none⟩
  | .opening u => ⟨pieces, some u⟩
  | .stray => ⟨none :: pieces, none⟩

/-- Takes an octet. -/
def Machine.push (m : Machine) (b : UInt8) : Machine :=
  match m.pending with
  | none => .begin m.pieces b
  | some u =>
    if u.low ≤ b ∧ b ≤ u.high then
      let value := u.value * 64 + (b.toNat - 0x80)
      if u.need = 1 then ⟨some (Char.ofNat value) :: m.pieces, none⟩
      else ⟨m.pieces, some ⟨u.need - 1, 0x80, 0xBF, value⟩⟩
    else .begin (none :: m.pieces) b

/-- The pieces in the order of the text; a sequence that the text leaves open is ill-formed. -/
def Machine.finish (m : Machine) : List (Option Char) :=
  match m.pending with
  | none => m.pieces.reverse
  | some _ => (none :: m.pieces).reverse

/-- The characters and the ill-formed pieces of a list of octets, in order. -/
def pieces (bs : Octets) : List (Option Char) :=
  (bs.foldl Machine.push ⟨[], none⟩).finish

/-- The text that the octets write, if they are well-formed throughout. -/
def decode? (bs : Octets) : Option String :=
  let ps := pieces bs
  if ps.all Option.isSome then some (String.ofList (ps.filterMap id)) else none

/-- The text that the octets write, with `U+FFFD` for each ill-formed piece. -/
def decodeLossy (bs : Octets) : String :=
  String.ofList ((pieces bs).map (·.getD '\uFFFD'))

example : decode? [0xE2, 0x82, 0xAC] = some "€" := by decide
example : pieces [0xE2, 0x82, 0x41, 0xFF] = [none, some 'A', none] := by decide

end Utf8
end Text
end SoilWatch
