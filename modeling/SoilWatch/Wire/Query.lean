/-
# Queries and forms

The pairs of a query are read like the members of an object: names that are not declared are passed
over, a name may not come twice, and the first one missing is reported.  Values are texts, so an
integer and an instant are read from the text of their value.
-/

import SoilWatch.Text.Form
import SoilWatch.Wire.Record

namespace SoilWatch
namespace Wire

open Json (Failure)

/-- The value of a kind that a text gives. -/
def datumOfText : Kind → String → Except Json.Error Datum
  | .text, s => .ok (.text s)
  | .integer, s =>
    match Text.readInteger .int64 s.toList with
    | .ok n => .ok (.integer n)
    | .error e => .error (.refused e.message)
  | .instant, s =>
    match Time.Instant.parse s with
    | .ok t => .ok (.instant t)
    | .error e => .error (.refused e.message)
  | .measurement, s => (measurementOf s).map .measurement
  | .optional k, s => datumOfText k s

/-- Takes one pair into a draft. -/
def takePair (s : Shape) (d : Draft) (name value : String) : Except Failure Draft :=
  match s.field? name with
  | none => .ok d
  | some f =>
    if (d.get? name).isSome then .error (.whole (.duplicateField name))
    else
      match datumOfText f.kind value with
      | .ok v => .ok (d.add name v)
      | .error e => .error (failAt name e)

/-- Takes pairs into a draft, in their order. -/
def takePairs (s : Shape) : Draft → List (String × String) → Except Failure Draft
  | d, [] => .ok d
  | d, (name, value) :: rest =>
    match takePair s d name value with
    | .ok d => takePairs s d rest
    | .error f => .error f

/-- Reads a query or a form. -/
def Format.readQuery {α : Type} (f : Format α) (bs : Octets) : Except Failure α :=
  match takePairs f.shape .empty (Text.Form.pairs bs) with
  | .error e => .error e
  | .ok d => (f.build d).mapError .whole

end Wire

open Wire (Format)

/-- Whose password is to be reset. -/
structure ResetQuery where
  email : String
  deriving DecidableEq, Repr

/-- How a reset query is read. -/
def ResetQuery.format : Format ResetQuery where
  shape := ⟨"ForgotPwQuery", [⟨"email", .text⟩], false⟩
  build d := do
    let email ← d.text "email"
    .ok ⟨email⟩

/-- The encoded token of a reset link. -/
structure LinkQuery where
  token : String
  deriving DecidableEq, Repr

/-- How the query of a reset link is read. -/
def LinkQuery.format : Format LinkQuery where
  shape := ⟨"ChangePwQuery", [⟨"token", .text⟩], false⟩
  build d := do
    let token ← d.text "token"
    .ok ⟨token⟩

/-- A new password, typed twice. -/
structure PasswordForm where
  first : String
  second : String
  deriving DecidableEq, Repr

/-- How the form of a new password is read. -/
def PasswordForm.format : Format PasswordForm where
  shape := ⟨"ChangePwForm", [⟨"pw1", .text⟩, ⟨"pw2", .text⟩], false⟩
  build d := do
    let first ← d.text "pw1"
    let second ← d.text "pw2"
    .ok ⟨first, second⟩

/-- The name of a device to be provisioned. -/
structure ProvisionQuery where
  displayName : String
  deriving DecidableEq, Repr

/-- How the query for a new device is read. -/
def ProvisionQuery.format : Format ProvisionQuery where
  shape := ⟨"ProvisionQuery", [⟨"displayName", .text⟩], false⟩
  build d := do
    let displayName ← d.text "displayName"
    .ok ⟨displayName⟩

/-- Which device's points are wanted, and from when on. -/
structure SeriesQuery where
  deviceId : Int
  startTime : Time.Instant
  deriving DecidableEq

/-- How the query for points is read. -/
def SeriesQuery.format : Format SeriesQuery where
  shape := ⟨"DataQuery", [⟨"deviceId", .integer⟩, ⟨"startTime", .instant⟩], false⟩
  build d := do
    let deviceId ← d.integer "deviceId"
    let startTime ← d.instant "startTime"
    .ok ⟨deviceId, startTime⟩

end SoilWatch
