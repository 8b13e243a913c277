/-
# The text of an instant

Instants are written in universal time after RFC 3339: the date, `T`, the time with no, three, six
or nine digits after the point, and `Z`.  Years from 0 to 9999 have four digits, all others a sign.
A leap second is second 60.

What is read is more liberal.  The date and the time may be joined by `T`, `t` or one space; blanks
may stand before every number and separator and before the offset; a year with a sign may have any
number of digits; digits after the ninth of a fraction are skipped; and the offset is `Z`, `UTC` or
a signed number of hours and minutes, with colons and blanks or nothing between the two.  A number
is checked against its range as soon as it has been read, the date and the offset against the
calendar at the end.
-/

import SoilWatch.Text.Blank
import SoilWatch.Text.Integer
import SoilWatch.Time.Instant

namespace SoilWatch
namespace Time

/-- Why a text is no instant. -/
inductive ReadFault where
  | tooShort
  | invalid
  | outOfRange
  | tooLong
  | impossible
  deriving DecidableEq, Repr

/-- The wording of a fault. -/
def ReadFault.message : ReadFault → String
  | .tooShort => "premature end of input"
  | .invalid => "input contains invalid characters"
  | .outOfRange => "input is out of range"
  | .tooLong => "trailing input"
  | .impossible => "no possible date and time matching input"

/-! ### Writing -/

/-- The digits of a number, filled up with zeros to a width. -/
def padded (width n : Nat) : List Char :=
  let ds := Nat.toDigits 10 n
  List.replicate (width - ds.length) '0' ++ ds

/-- The digits of a year. -/
def yearChars (y : Int) : List Char :=
  if 0 ≤ y ∧ y ≤ 9999 then padded 4 y.toNat
  else (if y < 0 then '-' else '+') :: padded 4 y.natAbs

/-- The point and the digits of a fraction in nanoseconds. -/
def fractionChars (nano : Nat) : List Char :=
  if nano = 0 then []
  else if nano % 1000000 = 0 then '.' :: padded 3 (nano / 1000000)
  else if nano % 1000 = 0 then '.' :: padded 6 (nano / 1000)
  else '.' :: padded 9 nano

namespace Instant

/-- The characters of an instant. -/
def chars (t : Instant) : List Char :=
  let date := Date.ofDays (t.second / 86400)
  let ofDay := (t.second % 86400).toNat
  let leap := if t.nano < 1000000000 then 0 else 1
  yearChars date.year ++ '-' :: padded 2 date.month ++ '-' :: padded 2 date.day ++
    'T' :: padded 2 (ofDay / 3600) ++ ':' :: padded 2 (ofDay / 60 % 60) ++
    ':' :: padded 2 (ofDay % 60 + leap) ++ fractionChars (t.nano - leap * 1000000000) ++ ['Z']

/-- The text of an instant. -/
def text (t : Instant) : String :=
  String.ofList t.chars

end Instant

/-! ### Reading -/

/-- A reader takes characters off the front of a text. -/
abbrev Reader (α : Type) := StateT (List Char) (Except ReadFault) α

/-- Reads on while there are digits, at most `max` of them. -/
def readMore : (max : Nat) → (n : Nat) → Reader Nat
  | 0, n, cs => .ok (n, cs)
  | _ + 1, n, [] => .ok (n, [])
  | max + 1, n, c :: cs =>
    match Text.digit? c with
    | none => .ok (n, c :: cs)
    | some d =>
      if 9223372036854775808 ≤ n * 10 + d then .error .outOfRange else readMore max (n * 10 + d) cs

/-- Reads a number of one to `max` digits. -/
def readNumber (max : Nat) : Reader Nat
  | [] => .error .tooShort
  | c :: cs => if (Text.digit? c).isNone then .error .invalid else readMore max 0 (c :: cs)

/-- Skips blanks. -/
def skipBlanks : Reader Unit :=
  fun cs => .ok ((), Text.dropBlanks cs)

/-- Reads a number of one or two digits after blanks and checks its range. -/
def readField (low high : Nat) : Reader Nat := do
  skipBlanks
  let n ← readNumber 2
  if low ≤ n ∧ n ≤ high then pure n else throw .outOfRange

/-- Reads a year: four digits at most, or a sign and any number of them. -/
def readYear : Reader Int
  | '-' :: cs => (do let n ← readNumber cs.length; pure (-(n : Int)) : Reader Int) cs
  | '+' :: cs => (do let n ← readNumber cs.length; pure (n : Int) : Reader Int) cs
  | cs => (do let n ← readNumber 4; pure (n : Int) : Reader Int) cs

/-- Reads a year after blanks and checks that it fits a word of 32 bits. -/
def readYearField : Reader Int := do
  skipBlanks
  let y ← readYear
  if -2147483648 ≤ y ∧ y ≤ 2147483647 then pure y else throw .outOfRange

/-- Reads one character that passes a test. -/
def readChar (p : Char → Bool) : Reader Unit
  | [] => .error .tooShort
  | c :: cs => if p c then .ok ((), cs) else .error .invalid

/-- Reads a separator after blanks. -/
def readMark (mark : Char) : Reader Unit := do
  skipBlanks
  readChar (· = mark)

/-- Reads a fraction, in nanoseconds, if there is one. -/
def readFraction : Reader Nat
  | '.' :: cs =>
    match readNumber 9 cs with
    | .error e => .error e
    | .ok (n, rest) =>
      .ok (n * Nat.pow 10 (9 - (cs.length - rest.length)), rest.dropWhile (Text.digit? · |>.isSome))
  | cs => .ok (0, cs)

/-- Reads a number of two digits; they are counted in octets, so that a single character beyond
ASCII is wrong rather than one too few. -/
def readPair : Reader (Nat × Nat)
  | [] => .error .tooShort
  | [c] => if c.toNat < 0x80 then .error .tooShort else .error .invalid
  | a :: b :: cs =>
    match Text.digit? a, Text.digit? b with
    | some x, some y => .ok ((x, y), cs)
    | _, _ => .error .invalid

/-- Reads the hours and minutes of an offset, in seconds. -/
def readDistance : Reader Int := do
  let (h, h') ← readPair
  modify fun cs => cs.dropWhile fun c => c = ':' || Text.isBlank c
  let (m, m') ← readPair
  if 6 ≤ m then throw .outOfRange
  else pure (((h * 10 + h') * 3600 + (m * 10 + m') * 60 : Nat) : Int)

/-- Reads a signed offset from universal time, in seconds, or `Z`. -/
def readSigned : Reader Int
  | [] => .error .tooShort
  | c :: cs =>
    if c = 'Z' ∨ c = 'z' then .ok (0, cs)
    else if c = '+' then readDistance cs
    else if c = '-' ∨ c = '\u2212' then (do let n ← readDistance; pure (-n) : Reader Int) cs
    else .error .invalid

/-- Whether two characters are one letter, in whatever case. -/
def sameLetter (upper c : Char) : Bool :=
  c = upper || c = upper.toLower

/-- Reads an offset from universal time, in seconds. -/
def readOffset : Reader Int
  | a :: b :: c :: cs =>
    if sameLetter 'U' a && sameLetter 'T' b && sameLetter 'C' c then .ok (0, cs)
    else readSigned (a :: b :: c :: cs)
  | cs => readSigned cs

/-- Whether a year is one that instants have. -/
def yearInRange (y : Int) : Bool :=
  -262143 ≤ y && y ≤ 262142

/-- The numbers that a text gives for an instant. -/
structure Reading where
  date : Date
  hour : Nat
  minute : Nat
  second : Nat
  nano : Nat
  offset : Int

/-- Reads the numbers of an instant. -/
def readReading : Reader Reading := do
  let year ← readYearField
  readMark '-'
  let month ← readField 1 12
  readMark '-'
  let day ← readField 1 31
  readChar fun c => c = 'T' || c = 't' || c = ' '
  let hour ← readField 0 23
  readMark ':'
  let minute ← readField 0 59
  readMark ':'
  let second ← readField 0 60
  let nano ← readFraction
  skipBlanks
  let offset ← readOffset
  pure ⟨⟨year, month, day⟩, hour, minute, second, nano, offset⟩

/-- The instant that a reading names, if the calendar has it. -/
def Reading.instant (r : Reading) : Except ReadFault Instant :=
  let leap := if r.second = 60 then 1 else 0
  let wall : Int :=
    r.date.toDays * 86400 + r.hour * 3600 + r.minute * 60 + (r.second - leap : Nat)
  if ¬ r.date.Valid ∨ yearInRange r.date.year = false ∨ 86400 ≤ r.offset.natAbs then
    .error .outOfRange
  else
    match Instant.ofUnix? (wall - r.offset) (r.nano + leap * 1000000000) with
    | some t => .ok t
    | none => .error .impossible

/-- Reads an instant that takes up the whole text. -/
def Instant.read (cs : List Char) : Except ReadFault Instant :=
  match readReading cs with
  | .error e => .error e
  | .ok (r, rest) => if (Text.dropBlanks rest).isEmpty then r.instant else .error .tooLong

/-- Reads an instant. -/
def Instant.parse (s : String) : Except ReadFault Instant :=
  Instant.read s.toList

end Time
end SoilWatch
