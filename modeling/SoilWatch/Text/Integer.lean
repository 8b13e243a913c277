/-
# Integers in text

A decimal integer is an optional sign and one or more digits.  A minus sign belongs to the grammar
only where negative numbers are in range.  The first fault from the left is the one reported: a
character that is no digit, or a digit with which the number leaves the range.
-/

namespace SoilWatch
namespace Text

/-- Why a text is no integer of a range. -/
inductive IntegerFault where
  | empty
  | notADigit
  | tooLarge
  | tooSmall
  deriving DecidableEq, Repr

/-- The wording of a fault. -/
def IntegerFault.message : IntegerFault → String
  | .empty => "cannot parse integer from empty string"
  | .notADigit => "invalid digit found in string"
  | .tooLarge => "number too large to fit in target type"
  | .tooSmall => "number too small to fit in target type"

/-- A closed range of integers. -/
structure IntegerRange where
  low : Int
  high : Int

namespace IntegerRange

/-- The integers of a signed word of 64 bits. -/
def int64 : IntegerRange := ⟨-9223372036854775808, 9223372036854775807⟩

/-- The integers of an unsigned word of 32 bits. -/
def word32 : IntegerRange := ⟨0, 4294967295⟩

/-- The numbers a port can have. -/
def port : IntegerRange := ⟨0, 65535⟩

/-- Whether the range holds `n`. -/
def contains (r : IntegerRange) (n : Int) : Bool :=
  decide (r.low ≤ n) && decide (n ≤ r.high)

end IntegerRange

/-- The value of a decimal digit. -/
def digit? (c : Char) : Option Nat :=
  if '0' ≤ c ∧ c ≤ '9' then some (c.toNat - '0'.toNat) else none

/-- Reads digits onto a magnitude: `n` grows upwards from zero, or downwards below a minus sign. -/
def readDigits (r : IntegerRange) (negative : Bool) (n : Int) :
    List Char → Except IntegerFault Int
  | [] => .ok n
  | c :: cs =>
    match digit? c with
    | none => .error .notADigit
    | some d =>
      if negative then
        let m := n * 10 - d
        if m < r.low then .error .tooSmall else readDigits r negative m cs
      else
        let m := n * 10 + d
        if r.high < m then .error .tooLarge else readDigits r negative m cs

/-- Reads an integer of a range. -/
def readInteger (r : IntegerRange) : List Char → Except IntegerFault Int
  | [] => .error .empty
  | '+' :: cs => if cs.isEmpty then .error .notADigit else readDigits r false 0 cs
  | '-' :: cs =>
    if cs.isEmpty ∨ 0 ≤ r.low then .error .notADigit else readDigits r true 0 cs
  | cs => readDigits r false 0 cs

example : readInteger .int64 "-9223372036854775808".toList = .ok (-9223372036854775808) := by cbv
example : readInteger .port "-0".toList = .error .notADigit := by cbv
example : readInteger .port "+065535".toList = .ok 65535 := by cbv
example : readInteger .port "655360x".toList = .error .tooLarge := by cbv

end Text
end SoilWatch
