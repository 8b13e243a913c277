/-
# Values that nobody asks for

The members of a record that it does not declare are passed over.  Only their shape is checked:
brackets match, commas and colons stand where they should, texts have an end and numbers follow the
grammar; what the texts and numbers mean is not looked at.  The check is a machine that takes one
octet at a time and keeps a stack of the brackets that are open, so depth costs no more than length.
-/

import SoilWatch.Json.Scan

namespace SoilWatch
namespace Json
namespace Skip

/-- An open bracket. -/
inductive Frame where
  | list
  | object
  deriving DecidableEq, Repr

/-- How far the machine has got inside a number. -/
inductive NumberState where
  | sign
  | zero
  | digits
  | point
  | fraction
  | mark
  | markSign
  | exponent
  deriving DecidableEq, Repr

/-- Where the machine stands. -/
inductive State where
  /-- A value is due. -/
  | due
  /-- A bracket has just been opened. -/
  | opened
  /-- The key of a member is due. -/
  | key
  /-- The colon behind a key is due. -/
  | colon
  /-- A value has ended. -/
  | ended
  /-- Inside a text, which is a key or a value. -/
  | text (isKey : Bool)
  /-- Behind a backslash. -/
  | escape (isKey : Bool)
  /-- Inside the four digits of an escape; `good` while they are digits. -/
  | hex (isKey : Bool) (count : Nat) (good : Bool)
  /-- Inside a word, with the letters that are to come. -/
  | word (letters : List UInt8)
  /-- Inside a number. -/
  | number (s : NumberState)
  deriving DecidableEq, Repr

/-- What an octet does. -/
inductive Move where
  /-- The machine goes on. -/
  | next (frames : List Frame) (s : State)
  /-- The value ended with this octet. -/
  | last
  /-- The value ended before this octet. -/
  | before
  | fail (flaw : Flaw)

/-- The state behind a value: another octet is needed only inside a bracket. -/
def close (frames : List Frame) : Move :=
  if frames.isEmpty then .last else .next frames .ended

/-- The state behind the closing quote of a text. -/
def closeText (frames : List Frame) (isKey : Bool) : Move :=
  if isKey then .next frames .colon else close frames

/-- The first octet of a value. -/
def begin (frames : List Frame) (b : UInt8) : Move :=
  if isSpace b then .next frames .due
  else if b = quote then .next frames (.text false)
  else if b = openList then .next (.list :: frames) .opened
  else if b = openObject then .next (.object :: frames) .opened
  else if b = minus then .next frames (.number .sign)
  else if b = 0x30 then .next frames (.number .zero)
  else if isDigit b then .next frames (.number .digits)
  else if b = 0x6E then .next frames (.word nullTail)
  else if b = 0x74 then .next frames (.word trueTail)
  else if b = 0x66 then .next frames (.word falseTail)
  else .fail .expectedValue

/-- The first octet of a key. -/
def beginKey (frames : List Frame) (b : UInt8) : Move :=
  if isSpace b then .next frames .key
  else if b = quote then .next frames (.text true)
  else .fail .keyNotText

/-- An octet behind a value. -/
def afterValue (frames : List Frame) (b : UInt8) : Move :=
  match frames with
  | [] => .before
  | f :: outer =>
    if isSpace b then .next frames .ended
    else
      match f with
      | .list =>
        if b = comma then .next frames .due
        else if b = closeList then close outer
        else .fail .expectedCommaInList
      | .object =>
        if b = comma then .next frames .key
        else if b = closeObject then close outer
        else .fail .expectedCommaInObject

/-- An octet behind an opening bracket. -/
def afterOpening (frames : List Frame) (b : UInt8) : Move :=
  match frames with
  | [] => .before
  | f :: outer =>
    if isSpace b then .next frames .opened
    else
      match f with
      | .list => if b = closeList then close outer else begin frames b
      | .object => if b = closeObject then close outer else beginKey frames b

/-- An octet inside a number. -/
def insideNumber (frames : List Frame) (s : NumberState) (b : UInt8) : Move :=
  match s with
  | .sign =>
    if b = 0x30 then .next frames (.number .zero)
    else if isDigit b then .next frames (.number .digits)
    else .fail .invalidNumber
  | .zero =>
    if isDigit b then .fail .invalidNumber
    else if b = 0x2E then .next frames (.number .point)
    else if isExponentMark b then .next frames (.number .mark)
    else afterValue frames b
  | .digits =>
    if isDigit b then .next frames (.number .digits)
    else if b = 0x2E then .next frames (.number .point)
    else if isExponentMark b then .next frames (.number .mark)
    else afterValue frames b
  | .point => if isDigit b then .next frames (.number .fraction) else .fail .invalidNumber
  | .fraction =>
    if isDigit b then .next frames (.number .fraction)
    else if isExponentMark b then .next frames (.number .mark)
    else afterValue frames b
  | .mark =>
    if b = 0x2B ∨ b = minus then .next frames (.number .markSign)
    else if isDigit b then .next frames (.number .exponent)
    else .fail .invalidNumber
  | .markSign => if isDigit b then .next frames (.number .exponent) else .fail .invalidNumber
  | .exponent =>
    if isDigit b then .next frames (.number .exponent) else afterValue frames b

/-- What an octet does in a state. -/
def step (frames : List Frame) (s : State) (b : UInt8) : Move :=
  match s with
  | .due => begin frames b
  | .opened => afterOpening frames b
  | .key => beginKey frames b
  | .colon =>
    if isSpace b then .next frames .colon
    else if b = Json.colon then .next frames .due
    else .fail .expectedColon
  | .ended => afterValue frames b
  | .text isKey =>
    if b = quote then closeText frames isKey
    else if b = backslash then .next frames (.escape isKey)
    else if b < 0x20 then .fail .controlCharacter
    else .next frames (.text isKey)
  | .escape isKey =>
    if b = 0x75 then .next frames (.hex isKey 0 true)
    else if (simpleEscape? b).isSome then .next frames (.text isKey)
    else .fail .invalidEscape
  | .hex isKey count good =>
    let good := good && (Text.hexValue? b).isSome
    if count < 3 then .next frames (.hex isKey (count + 1) good)
    else if good then .next frames (.text isKey)
    else .fail .invalidEscape
  | .word [] => afterValue frames b
  | .word (w :: ws) =>
    if b = w then
      if ws.isEmpty then close frames else .next frames (.word ws)
    else .fail .expectedWord
  | .number n => insideNumber frames n b

/-- What the end of the text means inside an open bracket. -/
def endInside : List Frame → Except Flaw Octets
  | [] => .ok []
  | .list :: _ => .error .endInList
  | .object :: _ => .error .endInObject

/-- What the end of the text means. -/
def finish (frames : List Frame) (s : State) : Except Flaw Octets :=
  match s with
  | .due | .word (_ :: _) => .error .endInValue
  | .opened | .ended | .word [] => endInside frames
  | .key | .colon => .error .endInObject
  | .text _ | .escape _ | .hex _ _ _ => .error .endInText
  | .number .zero | .number .digits | .number .fraction | .number .exponent => endInside frames
  | .number _ => .error .invalidNumber

/-- Runs the machine and answers with what stands behind the value. -/
def run (frames : List Frame) (s : State) : Octets → Except Flaw Octets
  | [] => finish frames s
  | b :: bs =>
    match step frames s b with
    | .next frames s => run frames s bs
    | .last => .ok bs
    | .before => .ok (b :: bs)
    | .fail flaw => .error flaw

end Skip

/-- Passes over a value and answers with what stands behind it. -/
def skipValue (bs : Octets) : Except Flaw Octets :=
  Skip.run [] .due bs

end Json
end SoilWatch
