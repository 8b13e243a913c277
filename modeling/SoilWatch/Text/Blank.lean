/-
# Blank characters

The twenty-five characters with the Unicode property `White_Space`: the five controls from tab to
carriage return, the space, `U+0085`, `U+00A0`, `U+1680`, the eleven spaces from `U+2000` to
`U+200A`, the two separators `U+2028` and `U+2029`, `U+202F`, `U+205F` and `U+3000`.  Names that
people type are stored without the blanks around them (`trim`).
-/

namespace SoilWatch
namespace Text

/-- A character with the Unicode property `White_Space`. -/
def isBlank (c : Char) : Bool :=
  let n := c.toNat
  (0x09 ≤ n && n ≤ 0x0D) || n == 0x20 || n == 0x85 || n == 0xA0 || n == 0x1680 ||
    (0x2000 ≤ n && n ≤ 0x200A) || n == 0x2028 || n == 0x2029 || n == 0x202F || n == 0x205F ||
    n == 0x3000

/-- The characters from the first that is not blank. -/
def dropBlanks (cs : List Char) : List Char :=
  cs.dropWhile isBlank

/-- The characters without the blanks at either end. -/
def trimBlanks (cs : List Char) : List Char :=
  (dropBlanks (dropBlanks cs).reverse).reverse

/-- The text without the blanks at either end. -/
def trim (s : String) : String :=
  String.ofList (trimBlanks s.toList)

/-- Core's six white-space characters are blank. -/
example : "\t\n\r ".toList.all isBlank = true := by decide

end Text
end SoilWatch
