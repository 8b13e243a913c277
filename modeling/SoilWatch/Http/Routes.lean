/-
# The routes

Registration, login and the reset of a password are open to everybody.  All else stands behind a
gate: a request has to carry the token of a session (`gate`), and so does a request for a path that
does not exist.  A path is matched as it is written, segment by segment.

A request that passes the gate, or has no need to, is taken apart in a fixed order: the number in
the path, the query, the media type of the body, its length, and its content.  The first that is
wrong is answered, with a status of its own, before any service is called.

`HEAD` is answered like `GET`, without the body.
-/

import SoilWatch.Http.MediaType
import SoilWatch.Http.Response
import SoilWatch.Service.Accounts
import SoilWatch.Service.Telemetry
import SoilWatch.Wire.Codec
import SoilWatch.Wire.Query

namespace SoilWatch
namespace Http

open Time (Instant)
open Service (Call)

/-! ### Paths and methods -/

/-- The paths that exist. -/
inductive Route where
  | users
  | login
  | resetRequest
  | passwordPage
  | logout
  | devices
  | provision
  | device (id : List Char)
  | latest (id : List Char)
  | series (key : Measurement)
  deriving DecidableEq, Repr

namespace Route

/-- The path of a request. -/
def ofSegments? (segments : List (List Char)) : Option Route :=
  match segments.map String.ofList with
  | ["users"] => some .users
  | ["login"] => some .login
  | ["pw", "reset"] => some .resetRequest
  | ["pw", "change"] => some .passwordPage
  | ["logout"] => some .logout
  | ["devices"] => some .devices
  | ["devices", "provision"] => some .provision
  | ["data", "capacitance"] => some (.series .capacitance)
  | ["data", "temperature"] => some (.series .temperature)
  | ["devices", id] => if id.isEmpty then none else some (.device id.toList)
  | ["devices", id, "latest"] => if id.isEmpty then none else some (.latest id.toList)
  | _ => none

/-- Whether a path is open to everybody. -/
def isPublic : Route → Bool
  | .users | .login | .resetRequest | .passwordPage => true
  | _ => false

/-- The methods of a path. -/
def methods : Route → List String
  | .users | .login | .resetRequest | .logout | .provision => ["POST"]
  | .passwordPage => ["GET", "HEAD", "POST"]
  | .devices | .latest _ | .series _ => ["GET", "HEAD"]
  | .device _ => ["GET", "HEAD", "PATCH"]

end Route

/-! ### Taking a request apart -/

/-- What is known and drawn while a request is served: the time at the gate and the time at the
service, and random octets for a token, a contract and a salt. -/
structure Context where
  opened : Instant
  served : Instant
  secret : Octets
  contract : Octets
  salt : Octets

/-- The number that a segment of a path writes. -/
def pathId (segment : List Char) : Except Response Int :=
  let bs := Text.Form.percentDecode (Text.Utf8.encode (String.ofList segment))
  match Text.Utf8.decode? bs with
  | none => .error (.ofText 400 "Invalid URL: Invalid UTF-8 in `device_id`")
  | some s =>
    match Text.readInteger .int64 s.toList with
    | .ok n => .ok n
    | .error _ => .error (.ofText 400 ("Invalid URL: Cannot parse `" ++ s ++ "` to a `i64`"))

/-- The content of a query. -/
def readQuery {α : Type} (f : Wire.Format α) (r : Request) : Except Response α :=
  match f.readQuery r.query with
  | .ok a => .ok a
  | .error e => .error (.ofText 400 ("Failed to deserialize query string: " ++ e.message))

/-- The longest body that is taken, in octets. -/
def bodyLimit : Nat := 2097152

/-- Refuses a body that is too long. -/
def checkLength (r : Request) : Except Response Unit :=
  if bodyLimit < r.body.length then
    .error (.ofText 413 "Failed to buffer the request body: length limit exceeded")
  else .ok ()

/-- The answer to a body that is not the JSON asked for. -/
def jsonRejection (f : Json.Failure) : Response :=
  match f.error.category with
  | .data =>
    .ofText 422 ("Failed to deserialize the JSON body into the target type: " ++ f.message)
  | .early | .malformed => .ofText 400 ("Failed to parse the request body as JSON: " ++ f.message)

/-- The content of a JSON body. -/
def readJson {α : Type} (f : Wire.Format α) (r : Request) : Except Response α :=
  if ((r.header? "content-type").map MediaType.isJson).getD false then do
    checkLength r
    (f.read r.body).mapError jsonRejection
  else .error (.ofText 415 "Expected request with `Content-Type: application/json`")

/-- The content of a form. -/
def readForm {α : Type} (f : Wire.Format α) (r : Request) : Except Response α :=
  if ((r.header? "content-type").map MediaType.isForm).getD false then do
    checkLength r
    (f.readQuery r.body).mapError fun e =>
      .ofText 422 ("Failed to deserialize form body: " ++ e.message)
  else
    .error
      (.ofText 415 "Form requests must have `Content-Type: application/x-www-form-urlencoded`")

/-- Goes on with a part of a request that was read, or answers that it could not be. -/
def withPart {α : Type} (part : Except Response α) (go : α → Call Response) : Call Response :=
  match part with
  | .ok a => go a
  | .error r => pure r

/-! ### Accounts -/

/-- Registers a user. -/
def postUser (setup : Setup) (cx : Context) (r : Request) : Call Response :=
  withPart (readJson SignUp.format r) fun req => do
    let user ← Service.Accounts.createUser setup cx.salt cx.served req.email req.password req.name
    pure (.ofJson 201 user.toJson)

/-- Logs a user in. -/
def postLogin (setup : Setup) (cx : Context) (r : Request) : Call Response :=
  withPart (readJson Credentials.format r) fun req => do
    let token ← Service.Accounts.login setup cx.secret cx.served req.email req.password
    pure (.ofJson 200 (IssuedToken.toJson ⟨token⟩))

/-- Mails a reset link; whether the email is known is not said. -/
def postReset (setup : Setup) (cx : Context) (r : Request) : Call Response :=
  withPart (readQuery ResetQuery.format r) fun q => do
    match ← (Service.Accounts.forgotPassword setup cx.secret cx.served q.email).attempt with
    | .ok _ | .error .noUser => pure (.ofStatus 200)
    | .error e => .fail e

/-- The page on which a password is changed. -/
def passwordPage (setup : Setup) (status : Nat) (name : String) (changed : Bool)
    (error : Option String) : Call Response :=
  let vars := .object [("username", .text name), ("changed", .bool changed),
    ("error", Wire.optionValue .text error)]
  match setup.renderer Template.passwordPageName vars with
  | .ok page => pure (.ofPage status page)
  | .error cause => .fail (.template cause)

/-- Shows the page on which a password is changed. -/
def getPasswordPage (setup : Setup) (cx : Context) (r : Request) : Call Response :=
  withPart (readQuery LinkQuery.format r) fun q => do
    let user ← Service.Accounts.resetOwner cx.opened q.token
    passwordPage setup 200 user.name false none

/-- Changes a password. -/
def postPassword (setup : Setup) (cx : Context) (r : Request) : Call Response :=
  withPart (readQuery LinkQuery.format r) fun q =>
    withPart (readForm PasswordForm.format r) fun form => do
      let user ← Service.Accounts.resetOwner cx.opened q.token
      if form.first ≠ form.second then
        passwordPage setup 400 user.name false (some "Passwords do not match")
      else
        let change :=
          Service.Accounts.changePassword setup cx.salt cx.served q.token form.first
        match ← change.attempt with
        | .ok _ | .error (.resetCleanup _) => passwordPage setup 200 user.name true none
        | .error (.invalidInput reason) => passwordPage setup 400 user.name false (some reason)
        | .error e => .fail e

/-! ### Behind the gate -/

/-- Lets a request pass that carries the token of a session; answers with the token and its user. -/
def gate (cx : Context) (r : Request) : Call (String × User) :=
  match r.bearer? with
  | none => .fail .unauthenticated
  | some token => do
    let user ← Service.Accounts.validateToken cx.opened token
    pure (token, user)

/-- Closes the sessions of a user. -/
def postLogout (token : String) : Call Response := do
  Service.Accounts.logout token
  pure (.ofStatus 204)

/-- The devices of a user. -/
def getDevices (user : User) : Call Response := do
  let ds ← Service.Provisioning.devices user.id
  pure (.ofJson 200 (.list (ds.map Device.toJson)))

/-- Creates a device. -/
def postDevice (cx : Context) (user : User) (r : Request) : Call Response :=
  withPart (readQuery ProvisionQuery.format r) fun q => do
    let contract ← Service.Provisioning.createDevice cx.contract user.id q.displayName
    pure (.ofJson 201 (IssuedContract.toJson ⟨contract⟩))

/-- A device. -/
def getDevice (user : User) (segment : List Char) : Call Response :=
  withPart (pathId segment) fun id => do
    let d ← Service.Provisioning.device user.id id
    pure (.ofJson 200 d.toJson)

/-- Renames a device. -/
def patchDevice (user : User) (segment : List Char) (r : Request) : Call Response :=
  withPart (pathId segment) fun id =>
    withPart (readJson Renaming.format r) fun req => do
      let d ← Service.Provisioning.rename user.id id req.displayName
      pure (.ofJson 200 d.toJson)

/-- The latest values of a device. -/
def getLatest (setup : Setup) (user : User) (segment : List Char) : Call Response :=
  withPart (pathId segment) fun id => do
    let d ← Service.Provisioning.device user.id id
    let s ← Service.Telemetry.latest setup d.id
    pure (.ofJson 200 s.toJson)

/-- The points of a device from an instant up to now. -/
def getSeries (setup : Setup) (cx : Context) (user : User) (key : Measurement) (r : Request) :
    Call Response :=
  withPart (readQuery SeriesQuery.format r) fun q => do
    let d ← Service.Provisioning.device user.id q.deviceId
    let ps ← Service.Telemetry.between setup d.id key q.startTime cx.served
    pure (.ofJson 200 (.list (ps.map Point.toJson)))

/-! ### The whole -/

/-- The answer to a method that a path does not have. -/
def methodNotAllowed : Response :=
  .ofStatus 405

/-- Serves a public path; `method` is `GET` for `HEAD`. -/
def servePublic (setup : Setup) (cx : Context) (route : Route) (method : String) (r : Request) :
    Call Response :=
  match route, method with
  | .users, "POST" => postUser setup cx r
  | .login, "POST" => postLogin setup cx r
  | .resetRequest, "POST" => postReset setup cx r
  | .passwordPage, "GET" => getPasswordPage setup cx r
  | .passwordPage, "POST" => postPassword setup cx r
  | _, _ => pure methodNotAllowed

/-- Serves a path behind the gate; `method` is `GET` for `HEAD`. -/
def serveProtected (setup : Setup) (cx : Context) (token : String) (user : User) (route : Route)
    (method : String) (r : Request) : Call Response :=
  match route, method with
  | .logout, "POST" => postLogout token
  | .devices, "GET" => getDevices user
  | .provision, "POST" => postDevice cx user r
  | .device id, "GET" => getDevice user id
  | .device id, "PATCH" => patchDevice user id r
  | .latest id, "GET" => getLatest setup user id
  | .series key, "GET" => getSeries setup cx user key r
  | _, _ => pure methodNotAllowed

/-- Serves a request. -/
def serve (setup : Setup) (cx : Context) (r : Request) : Call Response :=
  let method := if r.method = "HEAD" then "GET" else r.method
  match r.segments?.bind Route.ofSegments? with
  | some route =>
    if route.isPublic then servePublic setup cx route method r
    else do
      let (token, user) ← gate cx r
      serveProtected setup cx token user route method r
  | none => do
    let _ ← gate cx r
    pure (.ofStatus 404)

/-- The methods to announce in an answer: those of the path, when the method is none of them. -/
def allowed (r : Request) : Option String :=
  match r.segments?.bind Route.ofSegments? with
  | some route =>
    if r.method ∈ route.methods then none else some (",".intercalate route.methods)
  | none => none

/-- An answer as it is sent: with the methods to announce, and without a body for `HEAD`. -/
def finish (r : Request) (answer : Response) : Response :=
  { answer with
    allow := allowed r
    body := if r.method = "HEAD" then .empty else answer.body }

/-- Answers a request. -/
def respond (setup : Setup) (cx : Context) (r : Request) : Flow System Empty Response := do
  match ← (serve setup cx r).attempt with
  | .ok answer => pure (finish r answer)
  | .error e => pure (finish r (.ofError e))

end Http
end SoilWatch
