/-
# The small parts of a JSON text

White space, words, texts in quotes and numbers, read from the octets in front.  A text is scanned
to its closing quote first and has to be UTF-8 only then, so that a flaw in the scan is the one
reported.  A number without fraction and exponent is an integer while it fits a word of 64 bits,
unsigned, or signed below a minus sign; every other number, and minus zero, is a binary64 one, made
from the first digits that fit such a word.
-/

import SoilWatch.Json.Error
import SoilWatch.Text.Hex

namespace SoilWatch
namespace Json

/-! ### Octets with a meaning -/

/-- The octet `"`. -/
def quote : UInt8 := 0x22
/-- The octet `,`. -/
def comma : UInt8 := 0x2C
/-- The octet `-`. -/
def minus : UInt8 := 0x2D
/-- The octet `:`. -/
def colon : UInt8 := 0x3A
/-- The octet `[`. -/
def openList : UInt8 := 0x5B
/-- The octet `\`. -/
def backslash : UInt8 := 0x5C
/-- The octet `]`. -/
def closeList : UInt8 := 0x5D
/-- The octet of an opening brace. -/
def openObject : UInt8 := 0x7B
/-- The octet of a closing brace. -/
def closeObject : UInt8 := 0x7D

/-- Space, tab, line feed and carriage return. -/
def isSpace (b : UInt8) : Bool :=
  b == 0x20 || b == 0x09 || b == 0x0A || b == 0x0D

/-- The octets from the first that is no white space. -/
def skipSpace (bs : Octets) : Octets :=
  bs.dropWhile isSpace

/-- A decimal digit. -/
def isDigit (b : UInt8) : Bool :=
  0x30 ≤ b && b ≤ 0x39

/-! ### Words -/

/-- Reads the rest of `null`, `true` or `false`. -/
def readWord : (word : List UInt8) → Octets → Except Flaw Octets
  | [], bs => .ok bs
  | _ :: _, [] => .error .endInValue
  | w :: ws, b :: bs => if b = w then readWord ws bs else .error .expectedWord

/-- The letters of `null` behind the first. -/
def nullTail : List UInt8 := [0x75, 0x6C, 0x6C]
/-- The letters of `true` behind the first. -/
def trueTail : List UInt8 := [0x72, 0x75, 0x65]
/-- The letters of `false` behind the first. -/
def falseTail : List UInt8 := [0x61, 0x6C, 0x73, 0x65]

/-! ### Texts -/

/-- The octet that an escape with one letter stands for. -/
def simpleEscape? (b : UInt8) : Option UInt8 :=
  if b = quote ∨ b = backslash ∨ b = 0x2F then some b
  else if b = 0x62 then some 0x08
  else if b = 0x66 then some 0x0C
  else if b = 0x6E then some 0x0A
  else if b = 0x72 then some 0x0D
  else if b = 0x74 then some 0x09
  else none

/-- The number that four hexadecimal digits write. -/
def hexQuad? (a b c d : UInt8) : Option Nat := do
  let a ← Text.hexValue? a
  let b ← Text.hexValue? b
  let c ← Text.hexValue? c
  let d ← Text.hexValue? d
  some (((a * 16 + b) * 16 + c) * 16 + d)

/-- A unit that opens a surrogate pair. -/
def isHighSurrogate (n : Nat) : Bool := 0xD800 ≤ n && n ≤ 0xDBFF

/-- A unit that closes a surrogate pair. -/
def isLowSurrogate (n : Nat) : Bool := 0xDC00 ≤ n && n ≤ 0xDFFF

/-- The octets of a code point in front of octets in reverse order. -/
def pushPoint (n : Nat) (back : List UInt8) : List UInt8 :=
  (String.utf8EncodeChar (Char.ofNat n)).reverse ++ back

/-- Scans a text up to its closing quote; `back` holds the octets so far, the latest first. -/
def scanText (back : List UInt8) : Octets → Except Flaw (Octets × Octets)
  | [] => .error .endInText
  | b :: bs =>
    if b = quote then .ok (back.reverse, bs)
    else if b = backslash then
      match bs with
      | [] => .error .endInText
      | e :: bs =>
        if e = 0x75 then
          match bs with
          | a :: b :: c :: d :: bs =>
            match hexQuad? a b c d with
            | none => .error .invalidEscape
            | some n =>
              if isLowSurrogate n then .error .loneSurrogate
              else if isHighSurrogate n then
                match bs with
                | [] => .error .endInText
                | e :: bs =>
                  if e ≠ backslash then .error .unpairedEscape
                  else
                    match bs with
                    | [] => .error .endInText
                    | u :: bs =>
                      if u ≠ 0x75 then .error .unpairedEscape
                      else
                        match bs with
                        | a :: b :: c :: d :: bs =>
                          match hexQuad? a b c d with
                          | none => .error .invalidEscape
                          | some m =>
                            if isLowSurrogate m then
                              scanText
                                (pushPoint ((n - 0xD800) * 0x400 + (m - 0xDC00) + 0x10000) back) bs
                            else .error .loneSurrogate
                        | _ => .error .endInText
              else scanText (pushPoint n back) bs
          | _ => .error .endInText
        else
          match simpleEscape? e with
          | some c => scanText (c :: back) bs
          | none => .error .invalidEscape
    else if b < 0x20 then .error .controlCharacter
    else scanText (b :: back) bs

/-- Reads a text behind its opening quote. -/
def readText (bs : Octets) : Except Flaw (String × Octets) :=
  match scanText [] bs with
  | .error e => .error e
  | .ok (os, rest) =>
    match Text.Utf8.decode? os with
    | some s => .ok (s, rest)
    | none => .error .invalidCodePoint

/-! ### Numbers -/

/-- A number of a JSON text. -/
inductive Number where
  | integer (n : Int)
  | float (x : Decimal.Binary64)
  deriving DecidableEq, Repr

/-- What a number is when a value of another kind is asked for. -/
def Number.found : Number → Found
  | .integer n => .integer n
  | .float x => .float x

/-- Takes digits onto `n` while the number fits a word of 64 bits; also counts the digits left. -/
def takeDigits : Nat → List UInt8 → Nat × Nat
  | n, [] => (n, 0)
  | n, d :: ds =>
    let m := n * 10 + (d.toNat - 0x30)
    if 18446744073709551616 ≤ m then (n, ds.length + 1) else takeDigits m ds

/-- The binary64 number `± n · 10 ^ e`. -/
def floatOf (negative : Bool) (n : Nat) (e : Int) : Except Flaw Number :=
  match Decimal.Magnitude.ofDecimal? n e with
  | some x => .ok (.float ⟨negative, x⟩)
  | none => .error .numberOutOfRange

/-- Whether an octet marks an exponent. -/
def isExponentMark (b : UInt8) : Bool :=
  b == 0x65 || b == 0x45

/-- Reads the digits of an exponent and closes the number `± n · 10 ^ e`. -/
def readExponentDigits (negative : Bool) (n : Nat) (e : Int) (down : Bool) :
    Octets → Except Flaw (Number × Octets)
  | [] => .error .endInValue
  | b :: bs =>
    if isDigit b then
      let ds := (b :: bs).takeWhile isDigit
      let rest := (b :: bs).dropWhile isDigit
      let (k, left) := takeDigits 0 ds
      if 2147483648 ≤ k ∨ 0 < left then
        if n ≠ 0 ∧ down = false then .error .numberOutOfRange
        else .ok (.float ⟨negative, .zero⟩, rest)
      else
        match floatOf negative n (if down then e - k else e + k) with
        | .ok x => .ok (x, rest)
        | .error f => .error f
    else .error .invalidNumber

/-- Reads an exponent behind its mark. -/
def readExponent (negative : Bool) (n : Nat) (e : Int) : Octets → Except Flaw (Number × Octets)
  | [] => .error .endInValue
  | b :: bs =>
    if b = 0x2B then readExponentDigits negative n e false bs
    else if b = minus then readExponentDigits negative n e true bs
    else readExponentDigits negative n e false (b :: bs)

/-- Reads an exponent, if there is one, and closes the number `± n · 10 ^ e`. -/
def closeFloat (negative : Bool) (n : Nat) (e : Int) (bs : Octets) :
    Except Flaw (Number × Octets) :=
  match bs with
  | b :: rest =>
    if isExponentMark b then readExponent negative n e rest
    else (floatOf negative n e).map (·, bs)
  | [] => (floatOf negative n e).map (·, bs)

/-- Reads the digits behind a point. -/
def readFraction (negative : Bool) (n : Nat) (e : Int) (bs : Octets) :
    Except Flaw (Number × Octets) :=
  match bs with
  | [] => .error .endInValue
  | b :: _ =>
    if isDigit b then
      let ds := bs.takeWhile isDigit
      let (m, left) := takeDigits n ds
      closeFloat negative m (e - (ds.length - left : Nat)) (bs.dropWhile isDigit)
    else .error .invalidNumber

/-- An integer, unless it is minus zero or below the signed range. -/
def wholeNumber (negative : Bool) (n : Nat) : Except Flaw Number :=
  if negative then
    if n = 0 ∨ 9223372036854775808 < n then floatOf true n 0 else .ok (.integer (-(n : Int)))
  else .ok (.integer n)

/-- Closes a number whose digits in front have been read; `left` of them did not fit. -/
def closeNumber (negative : Bool) (n left : Nat) (bs : Octets) : Except Flaw (Number × Octets) :=
  match bs with
  | b :: rest =>
    if b = 0x2E then readFraction negative n left rest
    else if isExponentMark b then readExponent negative n left rest
    else plain bs
  | [] => plain bs
where
  /-- A number that ends with its digits in front. -/
  plain (bs : Octets) : Except Flaw (Number × Octets) :=
    if left = 0 then (wholeNumber negative n).map (·, bs)
    else (floatOf negative n left).map (·, bs)

/-- Reads the digits of a number, without its sign. -/
def readUnsigned (negative : Bool) (bs : Octets) : Except Flaw (Number × Octets) :=
  match bs with
  | [] => .error .endInValue
  | b :: rest =>
    if b = 0x30 then
      match rest with
      | c :: _ => if isDigit c then .error .invalidNumber else closeNumber negative 0 0 rest
      | [] => closeNumber negative 0 0 rest
    else if isDigit b then
      let (n, left) := takeDigits 0 (bs.takeWhile isDigit)
      closeNumber negative n left (bs.dropWhile isDigit)
    else .error .invalidNumber

/-- Reads a number that is known to begin with a minus sign or a digit. -/
def readNumber (bs : Octets) : Except Flaw (Number × Octets) :=
  match bs with
  | b :: rest => if b = minus then readUnsigned true rest else readUnsigned false bs
  | [] => .error .endInValue

end Json
end SoilWatch
