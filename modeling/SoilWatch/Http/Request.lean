/-
# Requests

A request has a method, a target, headers and a body.  The path of the target is what stands before
the first `?` or `#`, without the scheme and the host of a target in absolute form; the query is
what stands between `?` and `#`.  Neither is decoded here.  Names of headers are compared without
regard to case, and of several headers of one name the first counts.
-/

import SoilWatch.Text.Split
import SoilWatch.Text.Utf8

namespace SoilWatch
namespace Http

/-- A request. -/
structure Request where
  method : String
  target : String
  headers : List (String × String)
  body : Octets
  deriving DecidableEq

/-- The lower-case form of an ASCII letter, other characters as they are. -/
def lower (c : Char) : Char :=
  if 'A' ≤ c ∧ c ≤ 'Z' then Char.ofNat (c.toNat + 32) else c

/-- Whether a text is another without regard to the case of ASCII letters. -/
def sameName (a b : String) : Bool :=
  a.toList.map lower == b.toList.map lower

/-- A character that may stand in the text of a header: visible ASCII, space or tab. -/
def isHeaderChar (c : Char) : Bool :=
  (0x20 ≤ c.toNat && c.toNat < 0x7F) || c == '\t'

namespace Request

/-- The value of a header, if it is text. -/
def header? (r : Request) (name : String) : Option String :=
  match r.headers.find? fun h => sameName h.1 name with
  | some h => if h.2.toList.all isHeaderChar then some h.2 else none
  | none => none

/-- The target behind its scheme and host, if it has them. -/
def originForm (cs : List Char) : List Char :=
  match cs with
  | '/' :: _ => cs
  | _ =>
    match cs.dropWhile (· ≠ ':') with
    | ':' :: '/' :: '/' :: rest => rest.dropWhile fun c => c ≠ '/' ∧ c ≠ '?' ∧ c ≠ '#'
    | _ => cs

/-- The path. -/
def path (r : Request) : List Char :=
  match (originForm r.target.toList).takeWhile fun c => c ≠ '?' ∧ c ≠ '#' with
  | [] => ['/']
  | p => p

/-- The octets of the query. -/
def query (r : Request) : Octets :=
  let behind := (originForm r.target.toList).dropWhile fun c => c ≠ '?' ∧ c ≠ '#'
  match behind with
  | '?' :: rest => Text.Utf8.encode (String.ofList (rest.takeWhile (· ≠ '#')))
  | _ => []

/-- The segments of the path, if it is one that begins with a slash. -/
def segments? (r : Request) : Option (List (List Char)) :=
  match r.path with
  | '/' :: rest => some (Text.split '/' rest)
  | _ => none

/-- The token of a bearer authorization: the text behind the scheme, which is of either case, and
the blanks after it. -/
def bearer? (r : Request) : Option String := do
  let value ← r.header? "authorization"
  let cs := value.toList
  if sameName (String.ofList (cs.take 6)) "bearer" then
    match cs.drop 6 with
    | ' ' :: token => some (String.ofList (token.dropWhile fun c => c = ' ' ∨ c = '\t'))
    | _ => none
  else none

end Request
end Http
end SoilWatch
