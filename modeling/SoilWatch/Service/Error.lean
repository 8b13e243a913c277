/-
# How a service can fail

One type for the services of accounts, provisioning and telemetry.  The causes in front are answers
to a caller; the last five are failures of the machinery behind a service and keep the text of their
cause.
-/

namespace SoilWatch
namespace Service

/-- Why a service failed. -/
inductive Error where
  | userExists
  | noUser
  | invalidPassword
  | invalidToken
  | expiredToken
  | unauthenticated
  /-- No device is bound to the hardware address. -/
  | noDevice (address : String)
  | notFound (what : String)
  /-- The hardware address belongs to another device. -/
  | addressInUse (address : String) (deviceId : Int)
  | noTelemetry (deviceId : Int)
  | invalidInput (reason : String)
  | passwordHash (reason : String)
  | template (cause : String)
  | email (cause : String)
  /-- The password was changed, but the reset tokens remain. -/
  | resetCleanup (cause : String)
  /-- A store failed during an operation. -/
  | persistence (operation : String) (cause : String)
  deriving DecidableEq, Repr

namespace Error

/-- The wording of a failure. -/
def message : Error → String
  | userExists => "user email already exists"
  | noUser => "user not found"
  | invalidPassword => "invalid password"
  | invalidToken => "invalid auth token"
  | expiredToken => "auth token expired"
  | unauthenticated => "not authenticated"
  | noDevice address => "device not found for hardware address " ++ address
  | notFound what => what ++ " not found"
  | addressInUse address id =>
    "hardware address " ++ address ++ " is already bound to device " ++ id.repr
  | noTelemetry id => "no telemetry recorded for device " ++ id.repr
  | invalidInput reason => "invalid input: " ++ reason
  | passwordHash reason => "password hashing failed: " ++ reason
  | template _ => "template rendering failed"
  | email _ => "sending email failed"
  | resetCleanup _ => "password changed but reset tokens were not cleared"
  | persistence operation cause => operation ++ " failed: " ++ cause

/-- The text of the cause, where a failure has one that its wording leaves out. -/
def source? : Error → Option String
  | template cause | email cause | resetCleanup cause => some cause
  | _ => none

end Error
end Service
end SoilWatch
