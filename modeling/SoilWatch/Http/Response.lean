/-
# Answers

An answer has a status, perhaps a content type and a list of allowed methods, and a body of text or
JSON.  A service that fails is answered with the status of its cause and an object with the wording;
behind a failure of the machinery (status 500) the wording stays inside.
-/

import SoilWatch.Json.Value
import SoilWatch.Service.Error

namespace SoilWatch
namespace Http

/-- The body of an answer. -/
inductive Body where
  | empty
  | text (s : String)
  | json (v : Json.Value)

/-- An answer to a request. -/
structure Response where
  status : Nat
  contentType : Option String
  allow : Option String
  body : Body

/-- The text of a body. -/
def Body.string : Body → String
  | .empty => ""
  | .text s => s
  | .json v => v.compact

/-- The status of a failed service. -/
def statusOf : Service.Error → Nat
  | .userExists | .addressInUse _ _ => 409
  | .noUser | .invalidPassword | .invalidToken | .expiredToken | .unauthenticated => 401
  | .notFound _ | .noDevice _ | .noTelemetry _ => 404
  | .invalidInput _ => 400
  | .passwordHash _ | .template _ | .email _ | .resetCleanup _ | .persistence _ _ => 500

namespace Response

/-- An answer without a body. -/
def ofStatus (status : Nat) : Response :=
  ⟨status, none, none, .empty⟩

/-- An answer with a JSON body. -/
def ofJson (status : Nat) (v : Json.Value) : Response :=
  ⟨status, some "application/json", none, .json v⟩

/-- An answer with a plain text. -/
def ofText (status : Nat) (s : String) : Response :=
  ⟨status, some "text/plain; charset=utf-8", none, .text s⟩

/-- An answer with a page. -/
def ofPage (status : Nat) (page : String) : Response :=
  ⟨status, some "text/html; charset=utf-8", none, .text page⟩

/-- What the outside is told about a failure. -/
def publicMessage (e : Service.Error) : String :=
  if statusOf e < 500 then e.message else "internal server error"

/-- The answer to a request whose service failed. -/
def ofError (e : Service.Error) : Response :=
  ofJson (statusOf e) (.object [("error", .text (publicMessage e))])

end Response
end Http
end SoilWatch
