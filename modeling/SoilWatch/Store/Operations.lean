/-
# The operations of the relational store

Each operation that changes the store is one transaction, so it either does all that it says or
leaves the store as it was.

* A login (`startSession`) stamps the user, closes every session of the user and opens one.  A
  session that would not end after its beginning is refused before anything is tried.
* A user has at most one reset token: a new one replaces those before it.
* A device is created together with its contract, and completed by consuming the contract: unknown
  contracts and addresses of other devices change nothing, and the outcome says which it was.
-/

import SoilWatch.Store.Transaction

namespace SoilWatch
namespace Store

open Time (Instant)
open Transaction

/-! ### Accounts -/

/-- Registers a user. -/
def createUser (email passwordHash name : String) (now : Instant) :
    Store → Except Error UserRow × Store :=
  transact "create_user" (insertUser email passwordHash name now)

/-- Replaces the password hash of a user; answers whether there is such a user. -/
def changePassword (id : Int) (passwordHash : String) : Store → Except Error Bool × Store :=
  transact "change_password" do
    let n ← updateUser id fun r => { r with passwordHash }
    pure (n ≠ 0)

/-- Opens a session and closes all others of the user. -/
def startSession (userId : Int) (token : String) (createdAt expiresAt : Instant) (s : Store) :
    Except Error SessionRow × Store :=
  if createdAt < expiresAt then
    transact "start_session" (do
      let _ ← updateUser userId fun r => { r with lastLogin := some createdAt }
      let _ ← deleteSessions userId
      insertSession userId token createdAt expiresAt) s
  else (.error .sessionEndsEarly, s)

/-- Inserts a session next to those that are there. -/
def addSession (userId : Int) (token : String) (createdAt expiresAt : Instant) :
    Store → Except Error SessionRow × Store :=
  transact "add_session" (insertSession userId token createdAt expiresAt)

/-- Closes all sessions of a user; answers with their number. -/
def deleteUserSessions (userId : Int) : Store → Except Error Nat × Store :=
  transact "delete_user_sessions" (deleteSessions userId)

/-- Stores a reset token in the place of all others of the user. -/
def replaceReset (userId : Int) (token : String) (expiresAt : Instant) :
    Store → Except Error ResetRow × Store :=
  transact "replace_pw_reset_token" do
    let _ ← deleteResets userId
    insertReset userId token expiresAt

/-- Deletes all reset tokens of a user; answers with their number. -/
def deleteUserResets (userId : Int) : Store → Except Error Nat × Store :=
  transact "delete_user_pw_reset_tokens" (deleteResets userId)

/-! ### Provisioning -/

/-- Creates a device without an address, and the contract under which it is to be completed. -/
def createDevice (userId : Int) (displayName contract : String) :
    Store → Except Error Device × Store :=
  transact "create_device_with_staging" do
    let device ← insertDevice userId displayName
    insertStaging device.id contract
    pure device

/-- What becomes of a contract that a device presents. -/
inductive Outcome where
  | completed (device : Device)
  | unknownContract
  | addressInUse (deviceId : Int)
  deriving DecidableEq

/-- The device with that number, which a contract says is there. -/
def findStaged (id : Int) : Transaction Device := fun s =>
  match s.deviceById? id with
  | some device => .ok (device, s)
  | none => .error (.missingDevice id)

/-- Binds a device to an address and consumes its contract. -/
def bindStaged (id : Int) (address : String) : Transaction Device := do
  let _ ← bindDevice id address
  let _ ← deleteStaging id
  findStaged id

/-- Binds the device of a contract to an address, unless another device has the address. -/
def completion (contract address : String) : Transaction Outcome := do
  let s ← get
  match s.stagingByContract? contract with
  | none => pure .unknownContract
  | some staged =>
    match (s.deviceByAddress? address).filter (·.id ≠ staged.deviceId) with
    | some other => pure (.addressInUse other.id)
    | none => do
      let device ← bindStaged staged.deviceId address
      pure (.completed device)

/-- Completes the device of a contract. -/
def completeDevice (contract address : String) : Store → Except Error Outcome × Store :=
  transact "complete_provision" (completion contract address)

/-- Gives a device a new name; answers whether there is such a device. -/
def rename (id : Int) (displayName : String) : Store → Except Error Bool × Store :=
  transact "rename_device" do
    let n ← renameDevice id displayName
    pure (n ≠ 0)

end Store
end SoilWatch
