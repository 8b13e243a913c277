/-
# Media types

A media type is `type/subtype`, perhaps with a suffix behind a plus sign, and then parameters behind
semicolons.  A body is taken as JSON if its type is `application/json`, or `application/…+json`; as
a form if its type begins with `application/x-www-form-urlencoded`.
-/

import SoilWatch.Http.Request

namespace SoilWatch
namespace Http

/-- A character of a name in a header. -/
def isTokenChar (c : Char) : Bool :=
  ('a' ≤ c && c ≤ 'z') || ('A' ≤ c && c ≤ 'Z') || ('0' ≤ c && c ≤ '9') ||
    "!#$%&'*+-.^_`|~".toList.contains c

namespace MediaType

/-- Where a reader of parameters stands. -/
inductive ParamState where
  /-- In front of a name. -/
  | start
  | name
  /-- Behind the equals sign. -/
  | valueStart
  | value
  | quotedStart
  | quoted
  /-- Behind a closing quote. -/
  | behind
  deriving DecidableEq, Repr

/-- Whether parameters have their form. -/
def paramsOk : ParamState → List Char → Bool
  | .start, [] => true
  | .start, c :: cs =>
    if c = ' ' then paramsOk .start cs else isTokenChar c && paramsOk .name cs
  | .name, [] => false
  | .name, c :: cs =>
    if c = '=' then paramsOk .valueStart cs else isTokenChar c && paramsOk .name cs
  | .valueStart, [] => true
  | .valueStart, c :: cs =>
    if c = '"' then paramsOk .quotedStart cs else isTokenChar c && paramsOk .value cs
  | .value, [] => true
  | .value, c :: cs =>
    if c = ';' then paramsOk .start cs else isTokenChar c && paramsOk .value cs
  | .quotedStart, [] => false
  | .quotedStart, c :: cs => (31 < c.toNat && c.toNat ≠ 127) && paramsOk .quoted cs
  | .quoted, [] => false
  | .quoted, c :: cs =>
    if c = '"' then paramsOk .behind cs
    else (31 < c.toNat && c.toNat ≠ 127) && paramsOk .quoted cs
  | .behind, [] => true
  | .behind, c :: cs =>
    if c = ';' then paramsOk .start cs else c = ' ' && paramsOk .behind cs

/-- The parts of a media type: type, subtype up to its last plus sign, and what is behind that. -/
def parse? (s : String) : Option (List Char × List Char × Option (List Char)) :=
  let cs := s.toList.map lower
  let kind := cs.takeWhile isTokenChar
  match cs.drop kind.length with
  | '/' :: rest =>
    let name := rest.takeWhile isTokenChar
    if kind.isEmpty ∨ name.isEmpty then none
    else
      let ok :=
        match rest.drop name.length with
        | [] => true
        | c :: params => (c = ';' || c = ' ') && paramsOk .start params
      if ok = false then none
      else
        match (name.drop 1).reverse.dropWhile (· ≠ '+') with
        | [] => some (kind, name, none)
        | _ :: front =>
          let sub := name.take 1 ++ front.reverse
          some (kind, sub, some (name.drop (sub.length + 1)))
  | _ => none

/-- Whether a content type announces JSON. -/
def isJson (s : String) : Bool :=
  match parse? s with
  | some (kind, sub, suffix) =>
    kind == "application".toList && (sub == "json".toList || suffix == some "json".toList)
  | none => false

/-- Whether a content type announces a form. -/
def isForm (s : String) : Bool :=
  "application/x-www-form-urlencoded".toList.isPrefixOf s.toList

end MediaType
end Http
end SoilWatch
