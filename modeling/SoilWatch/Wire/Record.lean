/-
# Records in JSON

A record is an object whose members have names and kinds (`Shape`), or an array of the members'
values in their order.  The text is read from front to back and the first fault counts:

* a member that occurs twice is refused at its second name;
* a member without a declaration is passed over, or refused at its name if the shape is closed;
* a member that may be absent may also be `null`, any other has to be there, and the first that is
  missing in the order of the shape is the one reported.

What has been read so far is a `Draft`; the record is built from it once its bracket is closed.
-/

import SoilWatch.Json.Skip
import SoilWatch.Model
import SoilWatch.Time.Rfc3339

namespace SoilWatch
namespace Wire

open Json (Flaw Failure)

/-- The kinds of value that a member can have. -/
inductive Kind where
  | text
  | integer
  | instant
  | measurement
  | optional (k : Kind)
  deriving DecidableEq, Repr

/-- A value that was read. -/
inductive Datum where
  | text (s : String)
  | integer (n : Int)
  | instant (t : Time.Instant)
  | measurement (m : Measurement)
  | null
  deriving DecidableEq

/-- What a message calls a kind. -/
def Kind.expected : Kind → String
  | .text => "a string"
  | .integer => "i64"
  | .instant => "an RFC 3339 formatted date and time string"
  | .measurement => "variant identifier"
  | .optional k => k.expected

/-- The error for the value in front when another kind was asked for.  A flaw inside that value
comes first. -/
def mismatch (expected : String) : Octets → Json.Error
  | [] => .malformed .expectedValue
  | b :: bs =>
    if b = 0x6E then ofWord (Json.readWord Json.nullTail bs) .null
    else if b = 0x74 then ofWord (Json.readWord Json.trueTail bs) (.boolean true)
    else if b = 0x66 then ofWord (Json.readWord Json.falseTail bs) (.boolean false)
    else if b = Json.minus ∨ Json.isDigit b then
      match Json.readNumber (b :: bs) with
      | .ok (n, _) => .wrongType n.found expected
      | .error e => .malformed e
    else if b = Json.quote then
      match Json.readText bs with
      | .ok (s, _) => .wrongType (.text s) expected
      | .error e => .malformed e
    else if b = Json.openList then .wrongType .list expected
    else if b = Json.openObject then .wrongType .object expected
    else .malformed .expectedValue
where
  /-- The error for a word. -/
  ofWord (r : Except Flaw Octets) (found : Json.Found) : Json.Error :=
    match r with
    | .ok _ => .wrongType found expected
    | .error e => .malformed e

/-! ### Values -/

/-- Reads a text. -/
def readText (expected : String) (bs : Octets) : Except Json.Error (String × Octets) :=
  match Json.skipSpace bs with
  | [] => .error (.malformed .endInValue)
  | b :: rest =>
    if b = Json.quote then (Json.readText rest).mapError .malformed
    else .error (mismatch expected (b :: rest))

/-- Reads an integer of a signed word of 64 bits. -/
def readInteger (bs : Octets) : Except Json.Error (Int × Octets) :=
  match Json.skipSpace bs with
  | [] => .error (.malformed .endInValue)
  | b :: rest =>
    if b = Json.minus ∨ Json.isDigit b then
      match Json.readNumber (b :: rest) with
      | .error e => .error (.malformed e)
      | .ok (.float x, _) => .error (.wrongType (.float x) "i64")
      | .ok (.integer n, rest) =>
        if n ≤ Text.IntegerRange.int64.high then .ok (n, rest)
        else .error (.wrongValue (.integer n) "i64")
    else .error (mismatch "i64" (b :: rest))

/-- Reads an instant. -/
def readInstant (bs : Octets) : Except Json.Error (Time.Instant × Octets) :=
  match readText Kind.instant.expected bs with
  | .error e => .error e
  | .ok (s, rest) =>
    match Time.Instant.parse s with
    | .ok t => .ok (t, rest)
    | .error e => .error (.refused e.message)

/-- The quantity of that name, or the error that names both. -/
def measurementOf (s : String) : Except Json.Error Measurement :=
  match Measurement.ofName? s with
  | some m => .ok m
  | none => .error (.unknownVariant s ["capacitance", "temperature"])

/-- Reads the colon behind a key. -/
def readColon (bs : Octets) : Except Flaw Octets :=
  match Json.skipSpace bs with
  | [] => .error .endInObject
  | b :: rest => if b = Json.colon then .ok rest else .error .expectedColon

/-- Reads `null`, where the value is asked for as a value without content. -/
def readUnit (bs : Octets) : Except Json.Error Octets :=
  match Json.skipSpace bs with
  | [] => .error (.malformed .endInValue)
  | b :: rest =>
    if b = 0x6E then (Json.readWord Json.nullTail rest).mapError .malformed
    else .error (mismatch "unit" (b :: rest))

/-- Reads the name of a quantity, or an object whose one member has that name and is `null`. -/
def readMeasurement (bs : Octets) : Except Json.Error (Measurement × Octets) :=
  match Json.skipSpace bs with
  | [] => .error (.malformed .endInValue)
  | b :: rest =>
    if b = Json.quote then do
      let (s, rest) ← readText Kind.measurement.expected (b :: rest)
      let m ← measurementOf s
      .ok (m, rest)
    else if b = Json.openObject then do
      let (s, rest) ← readText Kind.measurement.expected rest
      let m ← measurementOf s
      let rest ← (readColon rest).mapError .malformed
      let rest ← readUnit rest
      match Json.skipSpace rest with
      | [] => .error (.malformed .endInObject)
      | b :: rest =>
        if b = Json.closeObject then .ok (m, rest) else .error (.malformed .expectedValue)
    else .error (.malformed .expectedValue)

/-- Reads a value of a kind. -/
def readDatum : Kind → Octets → Except Json.Error (Datum × Octets)
  | .text, bs => (readText Kind.text.expected bs).map fun (s, rest) => (.text s, rest)
  | .integer, bs => (readInteger bs).map fun (n, rest) => (.integer n, rest)
  | .instant, bs => (readInstant bs).map fun (t, rest) => (.instant t, rest)
  | .measurement, bs => (readMeasurement bs).map fun (m, rest) => (.measurement m, rest)
  | .optional k, bs =>
    match Json.skipSpace bs with
    | b :: rest =>
      if b = 0x6E then
        match Json.readWord Json.nullTail rest with
        | .ok rest => .ok (.null, rest)
        | .error e => .error (.malformed e)
      else readDatum k (b :: rest)
    | [] => readDatum k []

/-! ### Shapes and drafts -/

/-- A declared member. -/
structure Field where
  name : String
  kind : Kind
  deriving DecidableEq, Repr

/-- The members of a record, in order, and whether it refuses others. -/
structure Shape where
  name : String
  fields : List Field
  closed : Bool
  deriving DecidableEq, Repr

/-- The members read so far. -/
structure Draft where
  entries : List (String × Datum)

namespace Draft

/-- The draft with nothing in it. -/
def empty : Draft := ⟨[]⟩

/-- The value of a member. -/
def get? (d : Draft) (name : String) : Option Datum :=
  (d.entries.find? (·.1 = name)).map (·.2)

/-- The draft with one member more. -/
def add (d : Draft) (name : String) (v : Datum) : Draft :=
  ⟨(name, v) :: d.entries⟩

/-- The text of a member that has to be there. -/
def text (d : Draft) (name : String) : Except Json.Error String :=
  match d.get? name with
  | some (.text s) => .ok s
  | _ => .error (.missingField name)

/-- The integer of a member that has to be there. -/
def integer (d : Draft) (name : String) : Except Json.Error Int :=
  match d.get? name with
  | some (.integer n) => .ok n
  | _ => .error (.missingField name)

/-- The instant of a member that has to be there. -/
def instant (d : Draft) (name : String) : Except Json.Error Time.Instant :=
  match d.get? name with
  | some (.instant t) => .ok t
  | _ => .error (.missingField name)

/-- The quantity of a member that has to be there. -/
def measurement (d : Draft) (name : String) : Except Json.Error Measurement :=
  match d.get? name with
  | some (.measurement m) => .ok m
  | _ => .error (.missingField name)

/-- The text of a member that may be absent or `null`. -/
def text? (d : Draft) (name : String) : Option String :=
  match d.get? name with
  | some (.text s) => some s
  | _ => none

/-- The instant of a member that may be absent or `null`. -/
def instant? (d : Draft) (name : String) : Option Time.Instant :=
  match d.get? name with
  | some (.instant t) => some t
  | _ => none

end Draft

namespace Shape

/-- The declared member of that name. -/
def field? (s : Shape) (name : String) : Option Field :=
  s.fields.find? (·.name = name)

/-- What a message calls a record. -/
def expected (s : Shape) : String :=
  "struct " ++ s.name

/-- What a message calls the array form of a record. -/
def expectedList (s : Shape) : String :=
  let n := s.fields.length
  s.expected ++ " with " ++ n.repr ++ (if n = 1 then " element" else " elements")

end Shape

/-! ### Objects -/

/-- Looks for the next member: answers with what stands behind the opening quote of its name, or
with what stands behind the closing bracket. -/
def nextMember (first : Bool) (bs : Octets) : Except Flaw (Bool × Octets) :=
  match Json.skipSpace bs with
  | [] => .error .endInObject
  | b :: rest =>
    if b = Json.closeObject then .ok (false, rest)
    else if first then
      if b = Json.quote then .ok (true, rest) else .error .keyNotText
    else if b = Json.comma then
      match Json.skipSpace rest with
      | [] => .error .endInValue
      | c :: rest =>
        if c = Json.quote then .ok (true, rest)
        else if c = Json.closeObject then .error .trailingComma
        else .error .keyNotText
    else .error .expectedCommaInObject

/-- A failure at a member. -/
def failAt (name : String) (e : Json.Error) : Failure :=
  ⟨some (.member name), e⟩

/-- Reads a member behind its name. -/
def readMember (s : Shape) (d : Draft) (name : String) (bs : Octets) :
    Except Failure (Draft × Octets) :=
  match s.field? name with
  | none =>
    if s.closed then .error (failAt name (.unknownField name (s.fields.map (·.name))))
    else
      match readColon bs with
      | .error e => .error (failAt name (.malformed e))
      | .ok bs =>
        match Json.skipValue bs with
        | .error e => .error (failAt name (.malformed e))
        | .ok rest => .ok (d, rest)
  | some f =>
    if (d.get? name).isSome then .error (.whole (.duplicateField name))
    else
      match readColon bs with
      | .error e => .error (failAt name (.malformed e))
      | .ok bs =>
        match readDatum f.kind bs with
        | .error e => .error (failAt name e)
        | .ok (v, rest) => .ok (d.add name v, rest)

/-- Reads the members of an object up to its bracket; `fuel` bounds their number, and the length of
the text is enough. -/
def readMembers (s : Shape) : (fuel : Nat) → (first : Bool) → Draft → Octets →
    Except Failure (Draft × Octets)
  | 0, _, _, _ => .error (.whole (.malformed .endInObject))
  | fuel + 1, first, d, bs =>
    match nextMember first bs with
    | .error e => .error (.whole (.malformed e))
    | .ok (false, rest) => .ok (d, rest)
    | .ok (true, rest) =>
      match Json.readText rest with
      | .error e => .error (.whole (.malformed e))
      | .ok (name, rest) =>
        match readMember s d name rest with
        | .error f => .error f
        | .ok (d, rest) => readMembers s fuel false d rest

/-! ### Arrays -/

/-- Looks for the next element: whether there is one, and what stands before it. -/
def nextElement (first : Bool) (bs : Octets) : Except Flaw (Bool × Octets) :=
  match Json.skipSpace bs with
  | [] => .error .endInList
  | b :: rest =>
    if b = Json.closeList then .ok (false, b :: rest)
    else if first then .ok (true, b :: rest)
    else if b = Json.comma then
      match Json.skipSpace rest with
      | [] => .error .endInValue
      | c :: rest => if c = Json.closeList then .error .trailingComma else .ok (true, c :: rest)
    else .error .expectedCommaInList

/-- Reads the elements that stand for members, from the one with number `i` on. -/
def readElements (s : Shape) (i : Nat) (d : Draft) :
    List Field → Octets → Except Failure (Draft × Octets)
  | [], bs => .ok (d, bs)
  | f :: fs, bs =>
    match nextElement (i = 0) bs with
    | .error e => .error ⟨some (.element i), .malformed e⟩
    | .ok (false, _) => .error (.whole (.wrongLength i s.expectedList))
    | .ok (true, bs) =>
      match readDatum f.kind bs with
      | .error e => .error ⟨some (.element i), e⟩
      | .ok (v, rest) => readElements s (i + 1) (d.add f.name v) fs rest

/-- Reads the closing bracket of an array. -/
def closeList (bs : Octets) : Except Flaw Octets :=
  match Json.skipSpace bs with
  | [] => .error .endInList
  | b :: rest =>
    if b = Json.closeList then .ok rest
    else if b = Json.comma then
      match Json.skipSpace rest with
      | c :: _ => if c = Json.closeList then .error .trailingComma else .error .trailingCharacters
      | [] => .error .trailingCharacters
    else .error .trailingCharacters

/-! ### Records -/

/-- How a record is read: its shape, and the value that a complete draft stands for. -/
structure Format (α : Type) where
  shape : Shape
  build : Draft → Except Json.Error α

namespace Format

variable {α : Type}

/-- Reads a record from the front of a text. -/
def readFront (f : Format α) (bs : Octets) : Except Failure (α × Octets) :=
  match Json.skipSpace bs with
  | [] => .error (.whole (.malformed .endInValue))
  | b :: rest =>
    if b = Json.openObject then do
      let (d, rest) ← readMembers f.shape (rest.length + 1) true .empty rest
      let v ← (f.build d).mapError .whole
      .ok (v, rest)
    else if b = Json.openList then do
      let (d, rest) ← readElements f.shape 0 .empty f.shape.fields rest
      let v ← (f.build d).mapError .whole
      let rest ← (closeList rest).mapError (.whole ∘ .malformed)
      .ok (v, rest)
    else .error (.whole (mismatch f.shape.expected (b :: rest)))

/-- Reads a text that is one record. -/
def read (f : Format α) (bs : Octets) : Except Failure α :=
  match f.readFront bs with
  | .error e => .error e
  | .ok (v, rest) =>
    if (Json.skipSpace rest).isEmpty then .ok v
    else .error (.whole (.malformed .trailingCharacters))

end Format

end Wire
end SoilWatch
