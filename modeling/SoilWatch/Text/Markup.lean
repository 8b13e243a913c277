/-
# Text inside markup

Six characters have a meaning in HTML text or in its quoted attributes: `<`, `>`, `&`, `"`, `'` and
`/`.  `escape` writes each of them as an entity and every other character as itself.
-/

namespace SoilWatch
namespace Text
namespace Markup

/-- The entity of a character that markup gives a meaning to. -/
def entity? : Char → Option String
  | '<' => some "&lt;"
  | '>' => some "&gt;"
  | '&' => some "&amp;"
  | '"' => some "&quot;"
  | '\'' => some "&#x27;"
  | '/' => some "&#x2f;"
  | _ => none

/-- The characters that stand for `c` in markup. -/
def escapeChar (c : Char) : List Char :=
  match entity? c with
  | some e => e.toList
  | none => [c]

/-- The characters that stand for a text in markup. -/
def escapeChars (cs : List Char) : List Char :=
  cs.flatMap escapeChar

/-- The text as markup shows it verbatim. -/
def escape (s : String) : String :=
  String.ofList (escapeChars s.toList)

end Markup
end Text
end SoilWatch
