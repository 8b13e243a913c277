/-
# What can be wrong with a JSON text

A text may end too early, be malformed, or hold a value of another shape than the one asked for
(`Category`).  An error names its cause and, for a value inside a record or an array, the place of
that value (`Failure`), which comes first in the message.
-/

import SoilWatch.Decimal.Shortest
import SoilWatch.Text.Quoted

namespace SoilWatch
namespace Json

/-- How numbers with a fraction or an exponent are shown: positionally from `0.00001` up to below
`10 ^ 16`, else with a sign and at least two digits in the exponent. -/
def floatLayout : Decimal.Layout := ⟨-5, 15, true, 2⟩

/-- A way in which a text breaks the grammar. -/
inductive Flaw where
  | endInList
  | endInObject
  | endInText
  | endInValue
  | expectedColon
  | expectedCommaInList
  | expectedCommaInObject
  | expectedWord
  | expectedValue
  | invalidEscape
  | invalidNumber
  | numberOutOfRange
  | invalidCodePoint
  | controlCharacter
  | keyNotText
  | loneSurrogate
  | trailingComma
  | trailingCharacters
  | unpairedEscape
  deriving DecidableEq, Repr

namespace Flaw

/-- The wording of a flaw. -/
def message : Flaw → String
  | endInList => "EOF while parsing a list"
  | endInObject => "EOF while parsing an object"
  | endInText => "EOF while parsing a string"
  | endInValue => "EOF while parsing a value"
  | expectedColon => "expected `:`"
  | expectedCommaInList => "expected `,` or `]`"
  | expectedCommaInObject => "expected `,` or `\x7d`"
  | expectedWord => "expected ident"
  | expectedValue => "expected value"
  | invalidEscape => "invalid escape"
  | invalidNumber => "invalid number"
  | numberOutOfRange => "number out of range"
  | invalidCodePoint => "invalid unicode code point"
  | controlCharacter => "control character (\\u0000-\\u001F) found while parsing a string"
  | keyNotText => "key must be a string"
  | loneSurrogate => "lone leading surrogate in hex escape"
  | trailingComma => "trailing comma"
  | trailingCharacters => "trailing characters"
  | unpairedEscape => "unexpected end of hex escape"

/-- Whether more text might mend the flaw. -/
def isEarlyEnd : Flaw → Bool
  | endInList | endInObject | endInText | endInValue => true
  | _ => false

end Flaw

/-- A value that was met in the place of another. -/
inductive Found where
  | null
  | boolean (b : Bool)
  | integer (n : Int)
  | float (x : Decimal.Binary64)
  | text (s : String)
  | list
  | object
  deriving DecidableEq, Repr

/-- The description of a value. -/
def Found.message : Found → String
  | .null => "null"
  | .boolean b => "boolean `" ++ (if b then "true" else "false") ++ "`"
  | .integer n => "integer `" ++ n.repr ++ "`"
  | .float x => "floating point `" ++ floatLayout.text x ++ "`"
  | .text s => "string " ++ Text.quoted s
  | .list => "sequence"
  | .object => "map"

/-- The cause of an error. -/
inductive Error where
  | malformed (flaw : Flaw)
  | wrongType (found : Found) (expected : String)
  | wrongValue (found : Found) (expected : String)
  | wrongLength (length : Nat) (expected : String)
  | unknownField (name : String) (known : List String)
  | unknownVariant (name : String) (known : List String)
  | missingField (name : String)
  | duplicateField (name : String)
  | refused (reason : String)
  deriving DecidableEq, Repr

/-- The kinds of error. -/
inductive Category where
  | early
  | malformed
  | data
  deriving DecidableEq, Repr

/-- Names in backticks: one, two joined by `or`, or a list. -/
def oneOf : List String → String
  | [] => ""
  | [a] => "`" ++ a ++ "`"
  | [a, b] => "`" ++ a ++ "` or `" ++ b ++ "`"
  | names => "one of " ++ ", ".intercalate (names.map fun a => "`" ++ a ++ "`")

namespace Error

/-- The kind of an error. -/
def category : Error → Category
  | malformed flaw => if flaw.isEarlyEnd then .early else .malformed
  | _ => .data

/-- The wording of an error. -/
def message : Error → String
  | malformed flaw => flaw.message
  | wrongType found expected => "invalid type: " ++ found.message ++ ", expected " ++ expected
  | wrongValue found expected => "invalid value: " ++ found.message ++ ", expected " ++ expected
  | wrongLength n expected => "invalid length " ++ n.repr ++ ", expected " ++ expected
  | unknownField name known => "unknown field `" ++ name ++ "`, expected " ++ oneOf known
  | unknownVariant name known => "unknown variant `" ++ name ++ "`, expected " ++ oneOf known
  | missingField name => "missing field `" ++ name ++ "`"
  | duplicateField name => "duplicate field `" ++ name ++ "`"
  | refused reason => reason

end Error

/-- A place inside a value. -/
inductive Place where
  | member (name : String)
  | element (index : Nat)
  deriving DecidableEq, Repr

/-- The name of a place. -/
def Place.text : Place → String
  | .member name => name
  | .element i => "[" ++ i.repr ++ "]"

/-- An error and where it arose, if that is inside a record or an array. -/
structure Failure where
  place : Option Place
  error : Error
  deriving DecidableEq, Repr

namespace Failure

/-- A failure of the value as a whole. -/
def whole (e : Error) : Failure := ⟨none, e⟩

/-- The wording of a failure, the place first. -/
def message (f : Failure) : String :=
  match f.place with
  | some p => p.text ++ ": " ++ f.error.message
  | none => f.error.message

end Failure

end Json
end SoilWatch
