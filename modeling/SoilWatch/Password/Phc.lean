/-
# The text of a password hash

`$algorithm$v=version$name=value,…$salt$hash`: every part behind the algorithm may be missing, but
they keep their order.  Salt and hash are written in base 64 without padding.  A text is read
strictly as far as its form goes; whether the algorithm and its parameters are known is not looked
at here.
-/

import SoilWatch.Text.Base64
import SoilWatch.Text.Integer
import SoilWatch.Text.Split

namespace SoilWatch
namespace Password

/-- The parts of a password hash. -/
structure Phc where
  algorithm : String
  version : Option Nat
  params : List (String × String)
  salt : Option String
  hash : Option Octets
  deriving DecidableEq

namespace Phc

/-- What is wrong with a value. -/
inductive ValueFault where
  | character (c : Char)
  | format
  | malformed
  | tooLong
  | tooShort
  deriving DecidableEq, Repr

/-- The wording of a fault of a value. -/
def ValueFault.message : ValueFault → String
  | .character c => "contains invalid character: '" ++ c.toString ++ "'"
  | .format => "value format is invalid"
  | .malformed => "value malformed"
  | .tooLong => "value to long"
  | .tooShort => "value to short"

/-- What is wrong with a password hash. -/
inductive Fault where
  | missingField
  | paramName
  | paramValue (f : ValueFault)
  | tooManyParams
  | salt (f : ValueFault)
  | base64
  | base64Length
  | hashTooShort
  | trailing
  deriving DecidableEq, Repr

/-- The wording of a fault. -/
def Fault.message : Fault → String
  | .missingField => "password hash string missing field"
  | .paramName => "invalid parameter name"
  | .paramValue f => "invalid parameter value: " ++ f.message
  | .tooManyParams => "maximum number of parameters reached"
  | .salt f => "salt invalid: " ++ f.message
  | .base64 => "invalid Base64 encoding"
  | .base64Length => "invalid Base64 length"
  | .hashTooShort => "output size too short, expected at least 10 bytes"
  | .trailing => "password hash string contains trailing characters"

/-- A character of a name. -/
def isNameChar (c : Char) : Bool :=
  ('a' ≤ c && c ≤ 'z') || ('0' ≤ c && c ≤ '9') || c == '-'

/-- A character of a value. -/
def isValueChar (c : Char) : Bool :=
  ('A' ≤ c && c ≤ 'Z') || ('a' ≤ c && c ≤ 'z') || ('0' ≤ c && c ≤ '9') || c == '/' || c == '+' ||
    c == '.' || c == '-'

/-- The number of octets of a text. -/
def size (cs : List Char) : Nat :=
  cs.foldl (fun n c => n + c.utf8Size) 0

/-- A name of 1 to 32 characters. -/
def readName (cs : List Char) : Except Fault String :=
  if cs.isEmpty ∨ 32 < size cs ∨ cs.all isNameChar = false then .error .paramName
  else .ok (String.ofList cs)

/-- A value of at most 64 characters. -/
def readValue (cs : List Char) : Except ValueFault String :=
  if 64 < size cs then .error .tooLong
  else
    match cs.find? (!isValueChar ·) with
    | some c => .error (.character c)
    | none => .ok (String.ofList cs)

/-- The number that a value writes in decimal, without leading zeros. -/
def decimal (s : String) : Except ValueFault Nat :=
  let cs := s.toList
  if cs.isEmpty then .error .malformed
  else
    match cs.find? fun c => (Text.digit? c).isNone with
    | some c => .error (.character c)
    | none =>
      if cs.head? = some '0' ∧ 1 < cs.length then .error .format
      else
        match Text.readInteger .word32 cs with
        | .ok n => .ok n.toNat
        | .error _ => .error .format

/-- One parameter. -/
def readParam (cs : List Char) : Except Fault (String × String) :=
  match Text.split '=' cs with
  | [name, value] => do
    let name ← readName name
    let value ← (readValue value).mapError .paramValue
    .ok (name, value)
  | [name] => do
    let _ ← readName name
    .error (.paramValue .malformed)
  | name :: value :: _ => do
    let _ ← readName name
    let _ ← (readValue value).mapError .paramValue
    .error (.paramValue .malformed)
  | [] => .error .paramName

/-- The parameters. -/
def readParams (cs : List Char) : Except Fault (List (String × String)) :=
  if 127 < size cs then .error .tooManyParams else (Text.split ',' cs).mapM readParam

/-- A salt of 4 to 64 characters. -/
def readSalt (cs : List Char) : Except Fault String :=
  if size cs < 4 then .error (.salt .tooShort) else (readValue cs).mapError .salt

/-- A hash of 10 to 64 octets. -/
def readHash (cs : List Char) : Except Fault Octets :=
  if 64 < size cs * 3 / 4 then .error .base64Length
  else
    match Text.Base64.decodeChars? .bare cs with
    | none => .error .base64
    | some bs => if bs.length < 10 then .error .hashTooShort else .ok bs

/-- Takes the version off the parts, if it is there. -/
def takeVersion (fields : List (List Char)) : Except Fault (Option Nat × List (List Char)) :=
  match fields with
  | ('v' :: '=' :: cs) :: rest =>
    if ',' ∈ cs then .ok (none, fields)
    else
      match (readValue cs).bind decimal with
      | .ok n => .ok (some n, rest)
      | .error f => .error (.paramValue f)
  | _ => .ok (none, fields)

/-- Takes the parameters off the parts, if they are there. -/
def takeParams (fields : List (List Char)) :
    Except Fault (List (String × String) × List (List Char)) :=
  match fields with
  | cs :: rest => if '=' ∈ cs then (readParams cs).map (·, rest) else .ok ([], fields)
  | [] => .ok ([], [])

/-- Takes a part off, if there is one. -/
def takePart {α : Type} (read : List Char → Except Fault α) (fields : List (List Char)) :
    Except Fault (Option α × List (List Char)) :=
  match fields with
  | cs :: rest => (read cs).map fun a => (some a, rest)
  | [] => .ok (none, [])

/-- Reads a password hash. -/
def parse (s : String) : Except Fault Phc :=
  match Text.split '$' s.toList with
  | [] :: algorithm :: fields => do
    let algorithm ← readName algorithm
    let (version, fields) ← takeVersion fields
    let (params, fields) ← takeParams fields
    let (salt, fields) ← takePart readSalt fields
    let (hash, fields) ← takePart readHash fields
    if fields.isEmpty then .ok ⟨algorithm, version, params, salt, hash⟩ else .error .trailing
  | _ => .error .missingField

/-- The text of a password hash that has all its parts. -/
def text (algorithm : String) (version : Nat) (params : List (String × String)) (salt : String)
    (hash : Octets) : String :=
  "$" ++ algorithm ++ "$v=" ++ version.repr ++ "$" ++
    ",".intercalate (params.map fun p => p.1 ++ "=" ++ p.2) ++ "$" ++ salt ++ "$" ++
    Text.Base64.encode .bare hash

end Phc
end Password
end SoilWatch
