/-
# The relational store

Five tables: users, their sessions, their reset tokens, their devices, and the contracts under which
devices are still to be completed.  The first four number their rows; a number is never given twice,
so each table keeps the last one it gave.  Five columns are unique: the email of a user, the token
of a session, the reset token, the hardware address of a device where it has one, and the contract.
Sessions, reset tokens and devices belong to a user, a contract belongs to a device.

A store can be told to refuse an event on a table (`forbidden`): every statement that would insert,
change or delete a row there then fails.
-/

import SoilWatch.Model

namespace SoilWatch

open Time (Instant)

/-- A user with the hash of the password. -/
structure UserRow where
  id : Int
  email : String
  name : String
  passwordHash : String
  createdAt : Instant
  lastLogin : Option Instant
  deriving DecidableEq

/-- The user that a row is about. -/
def UserRow.user (r : UserRow) : User :=
  ⟨r.id, r.email, r.name, r.createdAt, r.lastLogin⟩

/-- A session. -/
structure SessionRow where
  id : Int
  userId : Int
  token : String
  expiresAt : Instant
  createdAt : Instant
  deriving DecidableEq

/-- A reset token. -/
structure ResetRow where
  id : Int
  userId : Int
  token : String
  expiresAt : Instant
  deriving DecidableEq

/-- A contract under which a device is to be completed. -/
structure StagingRow where
  deviceId : Int
  contract : String
  deriving DecidableEq, Repr

namespace Store

/-- The tables. -/
inductive Table where
  | users
  | sessions
  | resets
  | devices
  | staging
  deriving DecidableEq, Repr

/-- The name of a table. -/
def Table.name : Table → String
  | .users => "users"
  | .sessions => "sessions"
  | .resets => "pw_reset_tokens"
  | .devices => "devices"
  | .staging => "provision_staging"

/-- What can happen to a row. -/
inductive Event where
  | insert
  | update
  | delete
  deriving DecidableEq, Repr

/-- The name of an event. -/
def Event.name : Event → String
  | .insert => "INSERT"
  | .update => "UPDATE"
  | .delete => "DELETE"

/-- The unique columns. -/
inductive Column where
  | email
  | sessionToken
  | resetToken
  | address
  | contract
  deriving DecidableEq, Repr

/-- The name of a column. -/
def Column.name : Column → String
  | .email => "users.email"
  | .sessionToken => "sessions.token"
  | .resetToken => "pw_reset_tokens.token"
  | .address => "devices.mac_addr"
  | .contract => "provision_staging.contract"

/-- Why a statement or a transaction fails. -/
inductive Fault where
  | unique (c : Column)
  | reference
  | forbidden (e : Event) (t : Table)
  /-- A contract is staged for a device that is not there. -/
  | missingDevice (id : Int)
  /-- A transaction gives up on its own account. -/
  | given (reason : String)
  deriving DecidableEq, Repr

namespace Fault

/-- The wording of a fault. -/
def message : Fault → String
  | unique c =>
    "UNIQUE constraint failed: " ++ c.name ++ ": Error code 2067: A UNIQUE constraint failed"
  | reference => "FOREIGN KEY constraint failed: Error code 787: Foreign key constraint failed"
  | forbidden e t =>
    e.name ++ " on " ++ t.name ++
      " is forbidden: Error code 1811: A RAISE function within a trigger fired"
  | missingDevice id => "staged device " ++ id.repr ++ " does not exist"
  | given reason => reason

/-- Whether a fault is the violation of a constraint. -/
def isConstraint : Fault → Bool
  | unique _ | reference | forbidden _ _ => true
  | missingDevice _ | given _ => false

end Fault

/-- Why an operation on the store fails: a transaction was rolled back, or a session would end
before it begins. -/
inductive Error where
  | aborted (transaction : String) (fault : Fault)
  | sessionEndsEarly
  deriving DecidableEq, Repr

namespace Error

/-- The wording of an error. -/
def message : Error → String
  | aborted transaction fault => transaction ++ ": " ++ fault.message
  | sessionEndsEarly => "session must expire after it is created"

/-- Whether an error comes from the violation of a constraint. -/
def isConstraint : Error → Bool
  | aborted _ fault => fault.isConstraint
  | sessionEndsEarly => false

end Error

/-- The last number that each numbered table gave to a row. -/
structure Counters where
  users : Int
  sessions : Int
  resets : Int
  devices : Int
  deriving DecidableEq, Repr

end Store

/-- The relational store; the rows of a table stand in the order of their insertion. -/
structure Store where
  users : List UserRow
  sessions : List SessionRow
  resets : List ResetRow
  devices : List Device
  staging : List StagingRow
  counters : Store.Counters
  forbidden : List (Store.Table × Store.Event)
  deriving DecidableEq

namespace Store

/-- The store without rows. -/
def empty : Store :=
  ⟨[], [], [], [], [], ⟨0, 0, 0, 0⟩, []⟩

/-- Refuses an event on a table from now on. -/
def forbid (s : Store) (t : Table) (e : Event) : Store :=
  { s with forbidden := (t, e) :: s.forbidden }

/-- Refuses an event on a table no longer. -/
def allow (s : Store) (t : Table) (e : Event) : Store :=
  { s with forbidden := s.forbidden.filter (· ≠ (t, e)) }

/-! ### Looking up -/

/-- The user with that number. -/
def userById? (s : Store) (id : Int) : Option UserRow :=
  s.users.find? (·.id = id)

/-- The user with that email. -/
def userByEmail? (s : Store) (email : String) : Option UserRow :=
  s.users.find? (·.email = email)

/-- The session with that token. -/
def sessionByToken? (s : Store) (token : String) : Option SessionRow :=
  s.sessions.find? (·.token = token)

/-- The row of that reset token. -/
def resetByToken? (s : Store) (token : String) : Option ResetRow :=
  s.resets.find? (·.token = token)

/-- The device with that number. -/
def deviceById? (s : Store) (id : Int) : Option Device :=
  s.devices.find? (·.id = id)

/-- The device bound to that hardware address. -/
def deviceByAddress? (s : Store) (address : String) : Option Device :=
  s.devices.find? (·.address = some address)

/-- The devices of a user, in the order of their numbers. -/
def devicesOf (s : Store) (userId : Int) : List Device :=
  s.devices.filter (·.userId = userId)

/-- The row of that contract. -/
def stagingByContract? (s : Store) (contract : String) : Option StagingRow :=
  s.staging.find? (·.contract = contract)

end Store
end SoilWatch
