/-
# JSON values

Values are written without white space, the members of an object in the order in which they stand in
it.  A text is written between quotes; the quote, the backslash and the controls below `U+0020` are
escaped, everything else stands for itself.
-/

import SoilWatch.Json.Scan

namespace SoilWatch
namespace Json

/-- A JSON value. -/
inductive Value where
  | null
  | bool (b : Bool)
  | integer (n : Int)
  | float (x : Decimal.Binary64)
  | text (s : String)
  | list (xs : List Value)
  | object (members : List (String × Value))
  deriving Inhabited

/-! ### Writing -/

/-- The characters that stand for `c` between quotes. -/
def escapeChar (c : Char) : List Char :=
  if c = '"' then ['\\', '"']
  else if c = '\\' then ['\\', '\\']
  else if c.toNat = 0x08 then ['\\', 'b']
  else if c.toNat = 0x09 then ['\\', 't']
  else if c.toNat = 0x0A then ['\\', 'n']
  else if c.toNat = 0x0C then ['\\', 'f']
  else if c.toNat = 0x0D then ['\\', 'r']
  else if c.toNat < 0x20 then
    ['\\', 'u', '0', '0', Text.hexDigit (c.toNat / 16), Text.hexDigit (c.toNat % 16)]
  else [c]

/-- A text in quotes. -/
def textChars (s : String) : List Char :=
  '"' :: s.toList.flatMap escapeChar ++ ['"']

/-- The digits of an integer. -/
def integerChars : Int → List Char
  | .ofNat n => Nat.toDigits 10 n
  | .negSucc n => '-' :: Nat.toDigits 10 (n + 1)

namespace Value

mutual

/-- The characters of a value. -/
def chars : Value → List Char
  | .null => ['n', 'u', 'l', 'l']
  | .bool true => ['t', 'r', 'u', 'e']
  | .bool false => ['f', 'a', 'l', 's', 'e']
  | .integer n => integerChars n
  | .float x => (floatLayout.text x).toList
  | .text s => textChars s
  | .list xs => '[' :: elementChars xs ++ [']']
  | .object ms => '\x7b' :: memberChars ms ++ ['\x7d']

/-- The elements of a list with commas between them. -/
def elementChars : List Value → List Char
  | [] => []
  | [x] => chars x
  | x :: y :: xs => chars x ++ ',' :: elementChars (y :: xs)

/-- The members of an object with commas between them. -/
def memberChars : List (String × Value) → List Char
  | [] => []
  | [m] => memberChar m
  | m :: n :: ms => memberChar m ++ ',' :: memberChars (n :: ms)

/-- One member of an object. -/
def memberChar : String × Value → List Char
  | (name, v) => textChars name ++ ':' :: chars v

end

/-- The text of a value. -/
def compact (v : Value) : String :=
  String.ofList v.chars

/-- The member of that name, if the value is an object with one; of several, the last. -/
def get? (v : Value) (name : String) : Option Value :=
  match v with
  | .object ms => (ms.reverse.find? (·.1 = name)).map (·.2)
  | _ => none

end Value

/-! ### Reading -/

/-- The value of a number. -/
def Number.value : Number → Value
  | .integer n => .integer n
  | .float x => .float x

/-- Members in the order of their names with one more, which replaces another of its name. -/
def putMember (name : String) (v : Value) : List (String × Value) → List (String × Value)
  | [] => [(name, v)]
  | m :: ms =>
    if name < m.1 then (name, v) :: m :: ms
    else if name = m.1 then (name, v) :: ms
    else m :: putMember name v ms

mutual

/-- Reads a value; `fuel` bounds the number of values, and the length of the text is enough. -/
def readValue : (fuel : Nat) → Octets → Except Flaw (Value × Octets)
  | 0, _ => .error .endInValue
  | fuel + 1, bs =>
    match skipSpace bs with
    | [] => .error .endInValue
    | b :: bs =>
      if b = quote then (readText bs).map fun (s, rest) => (.text s, rest)
      else if b = openList then
        match skipSpace bs with
        | [] => .error .endInList
        | c :: rest =>
          if c = closeList then .ok (.list [], rest) else readElements fuel [] (c :: rest)
      else if b = openObject then
        match skipSpace bs with
        | [] => .error .endInObject
        | c :: rest =>
          if c = closeObject then .ok (.object [], rest) else readMembers fuel [] (c :: rest)
      else if b = minus ∨ isDigit b then
        (readNumber (b :: bs)).map fun (n, rest) => (n.value, rest)
      else if b = 0x6E then (readWord nullTail bs).map (.null, ·)
      else if b = 0x74 then (readWord trueTail bs).map (.bool true, ·)
      else if b = 0x66 then (readWord falseTail bs).map (.bool false, ·)
      else .error .expectedValue

/-- Reads the elements of a list up to its bracket. -/
def readElements : (fuel : Nat) → (back : List Value) → Octets → Except Flaw (Value × Octets)
  | 0, _, _ => .error .endInList
  | fuel + 1, back, bs =>
    match readValue fuel bs with
    | .error e => .error e
    | .ok (v, rest) =>
      match skipSpace rest with
      | [] => .error .endInList
      | b :: rest =>
        if b = closeList then .ok (.list (v :: back).reverse, rest)
        else if b = comma then readElements fuel (v :: back) rest
        else .error .expectedCommaInList

/-- Reads the members of an object up to its bracket, in the order of their names; of two with one
name the later counts. -/
def readMembers : (fuel : Nat) → (members : List (String × Value)) → Octets →
    Except Flaw (Value × Octets)
  | 0, _, _ => .error .endInObject
  | fuel + 1, members, bs =>
    match skipSpace bs with
    | [] => .error .endInValue
    | b :: bs =>
      if b ≠ quote then .error .keyNotText
      else
        match readText bs with
        | .error e => .error e
        | .ok (name, rest) =>
          match skipSpace rest with
          | [] => .error .endInObject
          | b :: rest =>
            if b ≠ colon then .error .expectedColon
            else
              match readValue fuel rest with
              | .error e => .error e
              | .ok (v, rest) =>
                match skipSpace rest with
                | [] => .error .endInObject
                | b :: rest =>
                  if b = closeObject then .ok (.object (putMember name v members), rest)
                  else if b = comma then readMembers fuel (putMember name v members) rest
                  else .error .expectedCommaInObject

end

/-- Reads a text that is one value. -/
def Value.ofOctets (bs : Octets) : Except Flaw Value :=
  match readValue (bs.length + 1) bs with
  | .error e => .error e
  | .ok (v, rest) => if (skipSpace rest).isEmpty then .ok v else .error .trailingCharacters

end Json
end SoilWatch
