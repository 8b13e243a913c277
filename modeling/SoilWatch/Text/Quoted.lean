/-
# Quoted text

A text between double quotes, in the form that messages show it.  The quote and the backslash stand
behind a backslash, tab, line feed, carriage return and NUL have letters of their own, and whatever
else is not printable is written by its code point, as in `\u{200b}`.
-/

import SoilWatch.Text.Hex
import SoilWatch.Text.Printable

namespace SoilWatch
namespace Text

/-- The hexadecimal digits of a number, without leading zeros. -/
def hexNumber (n : Nat) : List Char :=
  if n < 16 then [hexDigit n] else hexNumber (n / 16) ++ [hexDigit (n % 16)]

/-- The characters that show `c` inside quotes. -/
def quoteChar (c : Char) : List Char :=
  match c with
  | '\x00' => ['\\', '0']
  | '\t' => ['\\', 't']
  | '\r' => ['\\', 'r']
  | '\n' => ['\\', 'n']
  | '"' => ['\\', '"']
  | '\\' => ['\\', '\\']
  | _ =>
    if isPrintable c then [c] else ['\\', 'u', '\x7b'] ++ hexNumber c.toNat ++ ['\x7d']

/-- The text in quotes. -/
def quoted (s : String) : String :=
  String.ofList ('"' :: s.toList.flatMap quoteChar ++ ['"'])

example : quoted "a\"\n\u200b" = "\"a\\\"\\n\\u\x7b200b\x7d\"" := by decide +kernel

end Text
end SoilWatch
