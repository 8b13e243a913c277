/-
# Transactions

A transaction is a sequence of statements that takes effect as a whole or not at all: `transact`
answers with the old store when a statement fails, and puts the name of the transaction in front of
the fault.

A statement that inserts a row checks, in this order, whether the event is forbidden, whether a
unique column already has the value, and whether the row that it belongs to exists.  A statement
that changes or deletes rows is forbidden only if there is a row for it to touch, and answers with
their number.
-/

import SoilWatch.Store.Basic

namespace SoilWatch
namespace Store

open Time (Instant)

/-- A sequence of statements. -/
abbrev Transaction (α : Type) := StateT Store (Except Fault) α

/-- Runs a transaction and commits it if it succeeds. -/
def transact {α : Type} (name : String) (t : Transaction α) (s : Store) : Except Error α × Store :=
  match t s with
  | .ok (a, s') => (.ok a, s')
  | .error f => (.error (.aborted name f), s)

/-- A transaction that fails leaves the store as it was. -/
theorem transact_snd_of_error {α : Type} {name : String} {t : Transaction α} {s : Store} {e : Error}
    (h : (transact name t s).1 = .error e) : (transact name t s).2 = s := by
  unfold transact at h ⊢
  split at h
  · cases h
  · rfl

/-- Refuses an event on a table if it is forbidden, and goes on otherwise. -/
def guardEvent {α : Type} (t : Table) (e : Event) (go : Transaction α) : Transaction α :=
  fun s => if (t, e) ∈ s.forbidden then .error (.forbidden e t) else go s

/-- Applies a change that touches so many rows, unless it is forbidden and touches any; answers with
their number. -/
def changeRows (t : Table) (e : Event) (touched : Store → Nat) (change : Store → Store) :
    Transaction Nat := fun s =>
  if touched s ≠ 0 ∧ (t, e) ∈ s.forbidden then .error (.forbidden e t)
  else .ok (touched s, change s)

namespace Transaction

/-! ### Users -/

/-- Inserts a user. -/
def insertUser (email passwordHash name : String) (now : Instant) : Transaction UserRow :=
  guardEvent .users .insert fun s =>
    if (s.userByEmail? email).isSome then .error (.unique .email)
    else
      let row : UserRow := ⟨s.counters.users + 1, email, name, passwordHash, now, none⟩
      .ok (row, { s with
        users := s.users ++ [row]
        counters := { s.counters with users := row.id } })

/-- Changes the user with that number. -/
def updateUser (id : Int) (f : UserRow → UserRow) : Transaction Nat :=
  changeRows .users .update (fun s => (s.users.filter (·.id = id)).length) fun s =>
    { s with users := s.users.map fun r => if r.id = id then f r else r }

/-! ### Sessions -/

/-- Inserts a session. -/
def insertSession (userId : Int) (token : String) (createdAt expiresAt : Instant) :
    Transaction SessionRow :=
  guardEvent .sessions .insert fun s =>
    if (s.sessionByToken? token).isSome then .error (.unique .sessionToken)
    else if (s.userById? userId).isNone then .error .reference
    else
      let row : SessionRow := ⟨s.counters.sessions + 1, userId, token, expiresAt, createdAt⟩
      .ok (row, { s with
        sessions := s.sessions ++ [row]
        counters := { s.counters with sessions := row.id } })

/-- Deletes the sessions of a user. -/
def deleteSessions (userId : Int) : Transaction Nat :=
  changeRows .sessions .delete (fun s => (s.sessions.filter (·.userId = userId)).length) fun s =>
    { s with sessions := s.sessions.filter (·.userId ≠ userId) }

/-! ### Reset tokens -/

/-- Inserts a reset token. -/
def insertReset (userId : Int) (token : String) (expiresAt : Instant) : Transaction ResetRow :=
  guardEvent .resets .insert fun s =>
    if (s.resetByToken? token).isSome then .error (.unique .resetToken)
    else if (s.userById? userId).isNone then .error .reference
    else
      let row : ResetRow := ⟨s.counters.resets + 1, userId, token, expiresAt⟩
      .ok (row, { s with
        resets := s.resets ++ [row]
        counters := { s.counters with resets := row.id } })

/-- Deletes the reset tokens of a user. -/
def deleteResets (userId : Int) : Transaction Nat :=
  changeRows .resets .delete (fun s => (s.resets.filter (·.userId = userId)).length) fun s =>
    { s with resets := s.resets.filter (·.userId ≠ userId) }

/-! ### Devices -/

/-- Inserts a device without a hardware address. -/
def insertDevice (userId : Int) (displayName : String) : Transaction Device :=
  guardEvent .devices .insert fun s =>
    if (s.userById? userId).isNone then .error .reference
    else
      let row : Device := ⟨s.counters.devices + 1, userId, none, displayName⟩
      .ok (row, { s with
        devices := s.devices ++ [row]
        counters := { s.counters with devices := row.id } })

/-- The number of devices with that number, which is one or none. -/
def devicesWithId (id : Int) (s : Store) : Nat :=
  (s.devices.filter (·.id = id)).length

/-- Gives the device with that number a name. -/
def renameDevice (id : Int) (displayName : String) : Transaction Nat :=
  changeRows .devices .update (devicesWithId id) fun s =>
    { s with devices := s.devices.map fun d => if d.id = id then { d with displayName } else d }

/-- Gives the device with that number a hardware address. -/
def bindDevice (id : Int) (address : String) : Transaction Nat := fun s =>
  if devicesWithId id s ≠ 0 ∧ (Table.devices, Event.update) ∈ s.forbidden then
    .error (.forbidden .update .devices)
  else if devicesWithId id s ≠ 0 ∧ s.devices.any fun d => d.id ≠ id ∧ d.address = some address then
    .error (.unique .address)
  else
    .ok (devicesWithId id s, { s with
      devices := s.devices.map fun d =>
        if d.id = id then { d with address := some address } else d })

/-! ### Contracts -/

/-- Inserts a contract. -/
def insertStaging (deviceId : Int) (contract : String) : Transaction Unit :=
  guardEvent .staging .insert fun s =>
    if (s.stagingByContract? contract).isSome then .error (.unique .contract)
    else if (s.deviceById? deviceId).isNone then .error .reference
    else .ok ((), { s with staging := s.staging ++ [⟨deviceId, contract⟩] })

/-- Deletes the contract of a device. -/
def deleteStaging (deviceId : Int) : Transaction Nat :=
  changeRows .staging .delete (fun s => (s.staging.filter (·.deviceId = deviceId)).length) fun s =>
    { s with staging := s.staging.filter (·.deviceId ≠ deviceId) }

end Transaction
end Store
end SoilWatch
