/-
# The records on the wire

How users, devices, points and samples are written and read as JSON, the messages that devices
publish, and the bodies of requests and answers.  Members are written in the order of their
declaration.  Devices capitalise the names of their members.  The bodies of requests are closed: a
member that is not declared is refused.
-/

import SoilWatch.Json.Value
import SoilWatch.Wire.Record

namespace SoilWatch

open Json (Value)
open Wire (Format Draft)

namespace Wire

/-- An instant as a JSON text. -/
def instantValue (t : Time.Instant) : Value :=
  .text t.text

/-- A value that may be absent. -/
def optionValue {α : Type} (f : α → Value) : Option α → Value
  | some a => f a
  | none => .null

end Wire

namespace User

/-- The written form of a user. -/
def toJson (u : User) : Value :=
  .object [("id", .integer u.id), ("email", .text u.email), ("name", .text u.name),
    ("created_at", Wire.instantValue u.createdAt),
    ("last_login", Wire.optionValue Wire.instantValue u.lastLogin)]

/-- How a user is read. -/
def format : Format User where
  shape := ⟨"User", [⟨"id", .integer⟩, ⟨"email", .text⟩, ⟨"name", .text⟩, ⟨"created_at", .instant⟩,
    ⟨"last_login", .optional .instant⟩], false⟩
  build d := do
    let id ← d.integer "id"
    let email ← d.text "email"
    let name ← d.text "name"
    let createdAt ← d.instant "created_at"
    .ok ⟨id, email, name, createdAt, d.instant? "last_login"⟩

end User

namespace Device

/-- The written form of a device. -/
def toJson (d : Device) : Value :=
  .object [("id", .integer d.id), ("user_id", .integer d.userId),
    ("mac_addr", Wire.optionValue .text d.address), ("display_name", .text d.displayName)]

/-- How a device is read. -/
def format : Format Device where
  shape := ⟨"Device", [⟨"id", .integer⟩, ⟨"user_id", .integer⟩, ⟨"mac_addr", .optional .text⟩,
    ⟨"display_name", .text⟩], false⟩
  build d := do
    let id ← d.integer "id"
    let userId ← d.integer "user_id"
    let displayName ← d.text "display_name"
    .ok ⟨id, userId, d.text? "mac_addr", displayName⟩

end Device

namespace Measurement

/-- The written form of a quantity. -/
def toJson (m : Measurement) : Value :=
  .text m.name

/-- Reads a text that names a quantity. -/
def read (bs : Octets) : Except Json.Failure Measurement :=
  match Wire.readMeasurement bs with
  | .error e => .error (.whole e)
  | .ok (m, rest) =>
    if (Json.skipSpace rest).isEmpty then .ok m
    else .error (.whole (.malformed .trailingCharacters))

end Measurement

namespace Point

/-- The written form of a point. -/
def toJson (p : Point) : Value :=
  .object [("value", .integer p.value), ("time", Wire.instantValue p.time), ("key", p.key.toJson)]

/-- How a point is read. -/
def format : Format Point where
  shape := ⟨"DataPoint", [⟨"value", .integer⟩, ⟨"time", .instant⟩, ⟨"key", .measurement⟩], false⟩
  build d := do
    let value ← d.integer "value"
    let time ← d.instant "time"
    let key ← d.measurement "key"
    .ok ⟨value, time, key⟩

end Point

namespace Sample

/-- The written form of a sample. -/
def toJson (s : Sample) : Value :=
  .object [("capacitance", .integer s.capacitance), ("temperature", .integer s.temperature)]

/-- How a sample is read. -/
def format : Format Sample where
  shape := ⟨"Breadcrumb", [⟨"capacitance", .integer⟩, ⟨"temperature", .integer⟩], false⟩
  build d := do
    let capacitance ← d.integer "capacitance"
    let temperature ← d.integer "temperature"
    .ok ⟨capacitance, temperature⟩

end Sample

namespace SampleMessage

/-- The written form of a device's sample. -/
def toJson (m : SampleMessage) : Value :=
  .object [("MacAddr", .text m.address), ("Capacitance", .integer m.capacitance),
    ("Temperature", .integer m.temperature)]

/-- How a device's sample is read. -/
def format : Format SampleMessage where
  shape := ⟨"BreadcrumbPayload", [⟨"MacAddr", .text⟩, ⟨"Capacitance", .integer⟩,
    ⟨"Temperature", .integer⟩], false⟩
  build d := do
    let address ← d.text "MacAddr"
    let capacitance ← d.integer "Capacitance"
    let temperature ← d.integer "Temperature"
    .ok ⟨address, capacitance, temperature⟩

end SampleMessage

namespace ContractMessage

/-- The written form of a device's announcement. -/
def toJson (m : ContractMessage) : Value :=
  .object [("MacAddr", .text m.address), ("Contract", .text m.contract)]

/-- How a device's announcement is read. -/
def format : Format ContractMessage where
  shape := ⟨"ProvisionPayload", [⟨"MacAddr", .text⟩, ⟨"Contract", .text⟩], false⟩
  build d := do
    let address ← d.text "MacAddr"
    let contract ← d.text "Contract"
    .ok ⟨address, contract⟩

end ContractMessage

/-- A request to register. -/
structure SignUp where
  email : String
  password : String
  name : String
  deriving DecidableEq, Repr

/-- How a request to register is read. -/
def SignUp.format : Format SignUp where
  shape := ⟨"CreateUserRequest", [⟨"email", .text⟩, ⟨"password", .text⟩, ⟨"name", .text⟩], true⟩
  build d := do
    let email ← d.text "email"
    let password ← d.text "password"
    let name ← d.text "name"
    .ok ⟨email, password, name⟩

/-- A request to log in. -/
structure Credentials where
  email : String
  password : String
  deriving DecidableEq, Repr

/-- How a request to log in is read. -/
def Credentials.format : Format Credentials where
  shape := ⟨"LoginRequest", [⟨"email", .text⟩, ⟨"password", .text⟩], true⟩
  build d := do
    let email ← d.text "email"
    let password ← d.text "password"
    .ok ⟨email, password⟩

/-- A request to rename a device. -/
structure Renaming where
  displayName : String
  deriving DecidableEq, Repr

/-- How a request to rename a device is read. -/
def Renaming.format : Format Renaming where
  shape := ⟨"RenameDeviceRequest", [⟨"display_name", .text⟩], true⟩
  build d := do
    let displayName ← d.text "display_name"
    .ok ⟨displayName⟩

/-- The answer to a login. -/
structure IssuedToken where
  token : String
  deriving DecidableEq, Repr

namespace IssuedToken

/-- The written form of the answer to a login. -/
def toJson (t : IssuedToken) : Value :=
  .object [("token", .text t.token)]

/-- How the answer to a login is read. -/
def format : Format IssuedToken where
  shape := ⟨"LoginResponse", [⟨"token", .text⟩], false⟩
  build d := do
    let token ← d.text "token"
    .ok ⟨token⟩

end IssuedToken

/-- The answer to a request for a contract. -/
structure IssuedContract where
  contract : String
  deriving DecidableEq, Repr

namespace IssuedContract

/-- The written form of the answer to a request for a contract. -/
def toJson (c : IssuedContract) : Value :=
  .object [("contract", .text c.contract)]

/-- How the answer to a request for a contract is read. -/
def format : Format IssuedContract where
  shape := ⟨"ProvisionResponse", [⟨"contract", .text⟩], false⟩
  build d := do
    let contract ← d.text "contract"
    .ok ⟨contract⟩

end IssuedContract

end SoilWatch
