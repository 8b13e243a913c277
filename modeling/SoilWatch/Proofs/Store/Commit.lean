/-
# What a committed transaction has done

`Store.Transaction` says how a transaction runs; this file says what is known once it has committed.
Every statement comes with an equivalence: it succeeds with this answer and this store behind it if
and only if the event is allowed, the constraints hold, and the store is the old one with these rows
changed (`insertUser_eq_ok` to `deleteStaging_eq_ok`).  An operation is taken apart into its
statements by `transact_eq_ok` and `Transaction.bind_eq_ok`, and gets a statement of the same kind
(`createUser_eq_ok` to `rename_eq_ok`), so that no later file has to look into a transaction again.
-/

import SoilWatch.Store.Operations
import Mathlib.Data.List.Find
import Mathlib.Data.List.Nodup

namespace SoilWatch
namespace Store

open Time (Instant)

variable {α β : Type} {s s' : Store}

/-- Whether an event is refused nowhere in the store's way: there is nothing to touch, or the event
is not forbidden. -/
def Allows (s : Store) (t : Table) (e : Event) (touched : Nat) : Prop :=
  touched = 0 ∨ (t, e) ∉ s.forbidden

/-- A transaction commits if and only if its statements succeed, with what they leave. -/
theorem transact_eq_ok {name : String} {t : Transaction α} {a : α} :
    transact name t s = (.ok a, s') ↔ t s = .ok (a, s') := by
  unfold transact
  split <;> simp_all

/-- **A transaction that fails leaves the store as it was.** -/
theorem transact_eq_error {name : String} {t : Transaction α} {e : Error}
    (h : transact name t s = (.error e, s')) : s' = s := by
  have hs : (transact name t s).2 = s := transact_snd_of_error (congrArg Prod.fst h)
  rw [h] at hs
  exact hs

namespace Transaction

/-! ### Statements -/

/-- Two statements in a row succeed if the first does, and the second does behind it. -/
theorem bind_eq_ok {x : Transaction α} {f : α → Transaction β} {b : β} :
    (x >>= f) s = .ok (b, s') ↔ ∃ a t, x s = .ok (a, t) ∧ f a t = .ok (b, s') := by
  show ((x s) >>= fun p => f p.1 p.2) = _ ↔ _
  cases x s with
  | error e => simp [bind, Except.bind]
  | ok p =>
    constructor
    · exact fun h => ⟨p.1, p.2, rfl, h⟩
    · rintro ⟨a, t, h, h'⟩
      obtain rfl := Except.ok.inj h
      exact h'

theorem get_bind (f : Store → Transaction β) : ((get : Transaction Store) >>= f) s = f s s := rfl

theorem pure_eq_ok {a b : α} : (pure a : Transaction α) s = .ok (b, s') ↔ b = a ∧ s' = s := by
  show Except.ok (a, s) = _ ↔ _
  simp [eq_comm]

theorem ok_eq_ok {a b : α} {t : Store} :
    (.ok (a, t) : Except Fault (α × Store)) = .ok (b, s') ↔ b = a ∧ s' = t := by
  simp [eq_comm]

/-- A check in front of a statement has to pass. -/
theorem check_eq_ok {p : Prop} [Decidable p] {f : Fault} {go : Except Fault (α × Store)}
    {a : α} : (if p then .error f else go) = .ok (a, s') ↔ ¬ p ∧ go = .ok (a, s') := by
  split <;> simp [*]

theorem guardEvent_eq_ok {t : Table} {e : Event} {go : Transaction α} {a : α} :
    guardEvent t e go s = .ok (a, s') ↔ (t, e) ∉ s.forbidden ∧ go s = .ok (a, s') := by
  unfold guardEvent
  split <;> simp_all

theorem changeRows_eq_ok {t : Table} {e : Event} {touched : Store → Nat} {change : Store → Store}
    {n : Nat} : changeRows t e touched change s = .ok (n, s') ↔
      s.Allows t e (touched s) ∧ n = touched s ∧ s' = change s := by
  unfold changeRows Allows
  rw [check_eq_ok, ok_eq_ok, not_and_or, ne_eq, not_not]

theorem insertUser_eq_ok {email passwordHash name : String} {now : Instant} {row : UserRow} :
    insertUser email passwordHash name now s = .ok (row, s') ↔
      (.users, .insert) ∉ s.forbidden ∧ s.userByEmail? email = none ∧
      row = ⟨s.counters.users + 1, email, name, passwordHash, now, none⟩ ∧
      s' = { s with
        users := s.users ++ [row], counters := { s.counters with users := row.id } } := by
  rw [insertUser, guardEvent_eq_ok, check_eq_ok, ok_eq_ok, Option.not_isSome_iff_eq_none]
  constructor <;>
    · rintro ⟨he, hu, rfl, rfl⟩
      exact ⟨he, hu, rfl, rfl⟩

theorem updateUser_eq_ok {id : Int} {f : UserRow → UserRow} {n : Nat} :
    updateUser id f s = .ok (n, s') ↔
      s.Allows .users .update (s.users.filter (·.id = id)).length ∧
      n = (s.users.filter (·.id = id)).length ∧
      s' = { s with users := s.users.map fun r => if r.id = id then f r else r } :=
  changeRows_eq_ok

theorem insertSession_eq_ok {userId : Int} {token : String} {createdAt expiresAt : Instant}
    {row : SessionRow} : insertSession userId token createdAt expiresAt s = .ok (row, s') ↔
      (.sessions, .insert) ∉ s.forbidden ∧ s.sessionByToken? token = none ∧
      (s.userById? userId).isSome ∧
      row = ⟨s.counters.sessions + 1, userId, token, expiresAt, createdAt⟩ ∧
      s' = { s with
        sessions := s.sessions ++ [row], counters := { s.counters with sessions := row.id } } := by
  rw [insertSession, guardEvent_eq_ok, check_eq_ok, check_eq_ok, ok_eq_ok,
    Option.not_isSome_iff_eq_none, Bool.not_eq_true, Option.isNone_eq_false_iff]
  constructor <;>
    · rintro ⟨he, ht, hu, rfl, rfl⟩
      exact ⟨he, ht, hu, rfl, rfl⟩

theorem deleteSessions_eq_ok {userId : Int} {n : Nat} :
    deleteSessions userId s = .ok (n, s') ↔
      s.Allows .sessions .delete (s.sessions.filter (·.userId = userId)).length ∧
      n = (s.sessions.filter (·.userId = userId)).length ∧
      s' = { s with sessions := s.sessions.filter (·.userId ≠ userId) } :=
  changeRows_eq_ok

theorem insertReset_eq_ok {userId : Int} {token : String} {expiresAt : Instant} {row : ResetRow} :
    insertReset userId token expiresAt s = .ok (row, s') ↔
      (.resets, .insert) ∉ s.forbidden ∧ s.resetByToken? token = none ∧
      (s.userById? userId).isSome ∧
      row = ⟨s.counters.resets + 1, userId, token, expiresAt⟩ ∧
      s' = { s with
        resets := s.resets ++ [row], counters := { s.counters with resets := row.id } } := by
  rw [insertReset, guardEvent_eq_ok, check_eq_ok, check_eq_ok, ok_eq_ok,
    Option.not_isSome_iff_eq_none, Bool.not_eq_true, Option.isNone_eq_false_iff]
  constructor <;>
    · rintro ⟨he, ht, hu, rfl, rfl⟩
      exact ⟨he, ht, hu, rfl, rfl⟩

theorem deleteResets_eq_ok {userId : Int} {n : Nat} :
    deleteResets userId s = .ok (n, s') ↔
      s.Allows .resets .delete (s.resets.filter (·.userId = userId)).length ∧
      n = (s.resets.filter (·.userId = userId)).length ∧
      s' = { s with resets := s.resets.filter (·.userId ≠ userId) } :=
  changeRows_eq_ok

theorem insertDevice_eq_ok {userId : Int} {displayName : String} {row : Device} :
    insertDevice userId displayName s = .ok (row, s') ↔
      (.devices, .insert) ∉ s.forbidden ∧ (s.userById? userId).isSome ∧
      row = ⟨s.counters.devices + 1, userId, none, displayName⟩ ∧
      s' = { s with
        devices := s.devices ++ [row], counters := { s.counters with devices := row.id } } := by
  rw [insertDevice, guardEvent_eq_ok, check_eq_ok, ok_eq_ok, Bool.not_eq_true,
    Option.isNone_eq_false_iff]
  constructor <;>
    · rintro ⟨he, hu, rfl, rfl⟩
      exact ⟨he, hu, rfl, rfl⟩

theorem renameDevice_eq_ok {id : Int} {displayName : String} {n : Nat} :
    renameDevice id displayName s = .ok (n, s') ↔
      s.Allows .devices .update (devicesWithId id s) ∧ n = devicesWithId id s ∧
      s' = { s with
        devices := s.devices.map fun d => if d.id = id then { d with displayName } else d } :=
  changeRows_eq_ok

theorem bindDevice_eq_ok {id : Int} {address : String} {n : Nat} :
    bindDevice id address s = .ok (n, s') ↔
      s.Allows .devices .update (devicesWithId id s) ∧
      (devicesWithId id s = 0 ∨ ∀ d ∈ s.devices, d.id ≠ id → d.address ≠ some address) ∧
      n = devicesWithId id s ∧
      s' = { s with
        devices := s.devices.map fun d =>
          if d.id = id then { d with address := some address } else d } := by
  rw [bindDevice, check_eq_ok, check_eq_ok, ok_eq_ok, not_and_or, not_and_or, ne_eq, not_not]
  simp [Allows]

theorem insertStaging_eq_ok {deviceId : Int} {contract : String} {u : Unit} :
    insertStaging deviceId contract s = .ok (u, s') ↔
      (.staging, .insert) ∉ s.forbidden ∧ s.stagingByContract? contract = none ∧
      (s.deviceById? deviceId).isSome ∧
      s' = { s with staging := s.staging ++ [⟨deviceId, contract⟩] } := by
  rw [insertStaging, guardEvent_eq_ok, check_eq_ok, check_eq_ok, ok_eq_ok,
    Option.not_isSome_iff_eq_none, Bool.not_eq_true, Option.isNone_eq_false_iff]
  simp

theorem deleteStaging_eq_ok {deviceId : Int} {n : Nat} :
    deleteStaging deviceId s = .ok (n, s') ↔
      s.Allows .staging .delete (s.staging.filter (·.deviceId = deviceId)).length ∧
      n = (s.staging.filter (·.deviceId = deviceId)).length ∧
      s' = { s with staging := s.staging.filter (·.deviceId ≠ deviceId) } :=
  changeRows_eq_ok

end Transaction

/-! ### What the operations make of the store -/

/-- The session row that a login writes. -/
def newSession (s : Store) (userId : Int) (token : String) (createdAt expiresAt : Instant) :
    SessionRow :=
  ⟨s.counters.sessions + 1, userId, token, expiresAt, createdAt⟩

/-- The reset row that a request for a new password writes. -/
def newReset (s : Store) (userId : Int) (token : String) (expiresAt : Instant) : ResetRow :=
  ⟨s.counters.resets + 1, userId, token, expiresAt⟩

/-- The device row that the first phase of provisioning writes. -/
def newDevice (s : Store) (userId : Int) (displayName : String) : Device :=
  ⟨s.counters.devices + 1, userId, none, displayName⟩

/-- The store with another password hash for a user. -/
def setPassword (s : Store) (id : Int) (passwordHash : String) : Store :=
  { s with users := s.users.map fun r => if r.id = id then { r with passwordHash } else r }

/-- The store without the sessions of a user. -/
def dropSessions (s : Store) (userId : Int) : Store :=
  { s with sessions := s.sessions.filter (·.userId ≠ userId) }

/-- The store after a login: the user is stamped and has the new session only. -/
def openSession (s : Store) (userId : Int) (token : String) (createdAt expiresAt : Instant) :
    Store :=
  { s with
    users := s.users.map fun r =>
      if r.id = userId then { r with lastLogin := some createdAt } else r
    sessions := s.sessions.filter (·.userId ≠ userId) ++
      [s.newSession userId token createdAt expiresAt]
    counters := { s.counters with sessions := s.counters.sessions + 1 } }

/-- The store without the reset tokens of a user. -/
def dropResets (s : Store) (userId : Int) : Store :=
  { s with resets := s.resets.filter (·.userId ≠ userId) }

/-- The store in which a user has the new reset token only. -/
def putReset (s : Store) (userId : Int) (token : String) (expiresAt : Instant) : Store :=
  { s with
    resets := s.resets.filter (·.userId ≠ userId) ++ [s.newReset userId token expiresAt]
    counters := { s.counters with resets := s.counters.resets + 1 } }

/-- The store with one more device and the contract under which it is to be completed. -/
def addDevice (s : Store) (userId : Int) (displayName contract : String) : Store :=
  { s with
    devices := s.devices ++ [s.newDevice userId displayName]
    staging := s.staging ++ [⟨s.counters.devices + 1, contract⟩]
    counters := { s.counters with devices := s.counters.devices + 1 } }

/-- The store in which a device is bound to an address and its contract is consumed. -/
def bindAddress (s : Store) (id : Int) (address : String) : Store :=
  { s with
    devices := s.devices.map fun d => if d.id = id then { d with address := some address } else d
    staging := s.staging.filter (·.deviceId ≠ id) }

/-- The store with another name for a device. -/
def setName (s : Store) (id : Int) (displayName : String) : Store :=
  { s with devices := s.devices.map fun d => if d.id = id then { d with displayName } else d }

/-! ### Operations -/

open Transaction

theorem createUser_eq_ok {email passwordHash name : String} {now : Instant} {row : UserRow} :
    createUser email passwordHash name now s = (.ok row, s') ↔
      (.users, .insert) ∉ s.forbidden ∧ s.userByEmail? email = none ∧
      row = ⟨s.counters.users + 1, email, name, passwordHash, now, none⟩ ∧
      s' = { s with users := s.users ++ [row], counters := { s.counters with users := row.id } } :=
  transact_eq_ok.trans insertUser_eq_ok

theorem changePassword_eq_ok {id : Int} {passwordHash : String} {b : Bool} :
    changePassword id passwordHash s = (.ok b, s') ↔
      s.Allows .users .update (s.users.filter (·.id = id)).length ∧
      b = decide ((s.users.filter (·.id = id)).length ≠ 0) ∧
      s' = s.setPassword id passwordHash := by
  rw [changePassword, transact_eq_ok, bind_eq_ok]
  simp only [updateUser_eq_ok, pure_eq_ok]
  constructor
  · rintro ⟨_, _, ⟨ha, rfl, rfl⟩, rfl, rfl⟩
    exact ⟨ha, rfl, rfl⟩
  · rintro ⟨ha, rfl, rfl⟩
    exact ⟨_, _, ⟨ha, rfl, rfl⟩, rfl, rfl⟩

/-- Changing rows in what a search does not look at changes the row that it finds. -/
theorem find?_map_eq {p : α → Bool} {f : α → α} (hf : ∀ r, p (f r) = p r) (rows : List α) :
    (rows.map f).find? p = (rows.find? p).map f := by
  rw [List.find?_map]
  exact congrArg (fun q => (rows.find? q).map f) (funext hf)

theorem startSession_eq_ok {userId : Int} {token : String} {createdAt expiresAt : Instant}
    {row : SessionRow} : startSession userId token createdAt expiresAt s = (.ok row, s') ↔
      createdAt < expiresAt ∧
      s.Allows .users .update (s.users.filter (·.id = userId)).length ∧
      s.Allows .sessions .delete (s.sessions.filter (·.userId = userId)).length ∧
      (.sessions, .insert) ∉ s.forbidden ∧
      (s.dropSessions userId).sessionByToken? token = none ∧ (s.userById? userId).isSome ∧
      row = s.newSession userId token createdAt expiresAt ∧
      s' = s.openSession userId token createdAt expiresAt := by
  -- The user is looked up after being stamped, which does not change whether there is one.
  have hu : ∀ (rows : List UserRow),
      ((rows.map fun r => if r.id = userId then { r with lastLogin := some createdAt } else r).find?
        (·.id = userId)).isSome = (rows.find? (·.id = userId)).isSome := by
    intro rows
    rw [find?_map_eq (fun r => by split <;> rfl), Option.isSome_map]
  unfold startSession
  split
  case isFalse h => simp [h]
  case isTrue h =>
    rw [transact_eq_ok, bind_eq_ok]
    simp only [bind_eq_ok, updateUser_eq_ok, deleteSessions_eq_ok, insertSession_eq_ok]
    constructor
    · rintro ⟨_, _, ⟨ha, -, rfl⟩, _, _, ⟨hd, -, rfl⟩, hi, ht, hs, rfl, rfl⟩
      exact ⟨h, ha, hd, hi, ht, (hu s.users).symm.trans hs, rfl, rfl⟩
    · rintro ⟨-, ha, hd, hi, ht, hs, rfl, rfl⟩
      exact ⟨_, _, ⟨ha, rfl, rfl⟩, _, _, ⟨hd, rfl, rfl⟩, hi, ht, (hu s.users).trans hs, rfl, rfl⟩

theorem deleteUserSessions_eq_ok {userId : Int} {n : Nat} :
    deleteUserSessions userId s = (.ok n, s') ↔
      s.Allows .sessions .delete (s.sessions.filter (·.userId = userId)).length ∧
      n = (s.sessions.filter (·.userId = userId)).length ∧ s' = s.dropSessions userId :=
  transact_eq_ok.trans deleteSessions_eq_ok

theorem replaceReset_eq_ok {userId : Int} {token : String} {expiresAt : Instant} {row : ResetRow} :
    replaceReset userId token expiresAt s = (.ok row, s') ↔
      s.Allows .resets .delete (s.resets.filter (·.userId = userId)).length ∧
      (.resets, .insert) ∉ s.forbidden ∧
      (s.dropResets userId).resetByToken? token = none ∧ (s.userById? userId).isSome ∧
      row = s.newReset userId token expiresAt ∧ s' = s.putReset userId token expiresAt := by
  rw [replaceReset, transact_eq_ok, bind_eq_ok]
  simp only [deleteResets_eq_ok, insertReset_eq_ok]
  constructor
  · rintro ⟨_, _, ⟨hd, -, rfl⟩, hi, ht, hu, rfl, rfl⟩
    exact ⟨hd, hi, ht, hu, rfl, rfl⟩
  · rintro ⟨hd, hi, ht, hu, rfl, rfl⟩
    exact ⟨_, _, ⟨hd, rfl, rfl⟩, hi, ht, hu, rfl, rfl⟩

theorem deleteUserResets_eq_ok {userId : Int} {n : Nat} :
    deleteUserResets userId s = (.ok n, s') ↔
      s.Allows .resets .delete (s.resets.filter (·.userId = userId)).length ∧
      n = (s.resets.filter (·.userId = userId)).length ∧ s' = s.dropResets userId :=
  transact_eq_ok.trans deleteResets_eq_ok

theorem createDevice_eq_ok {userId : Int} {displayName contract : String} {d : Device} :
    createDevice userId displayName contract s = (.ok d, s') ↔
      (.devices, .insert) ∉ s.forbidden ∧ (.staging, .insert) ∉ s.forbidden ∧
      (s.userById? userId).isSome ∧ s.stagingByContract? contract = none ∧
      d = s.newDevice userId displayName ∧ s' = s.addDevice userId displayName contract := by
  rw [createDevice, transact_eq_ok, bind_eq_ok]
  simp only [bind_eq_ok, insertDevice_eq_ok, insertStaging_eq_ok, pure_eq_ok]
  constructor
  · rintro ⟨_, _, ⟨hi, hu, rfl, rfl⟩, _, _, ⟨hs, hc, -, rfl⟩, rfl, rfl⟩
    exact ⟨hi, hs, hu, hc, rfl, rfl⟩
  · rintro ⟨hi, hs, hu, hc, rfl, rfl⟩
    refine ⟨_, _, ⟨hi, hu, rfl, rfl⟩, (), _, ⟨hs, hc, ?_, rfl⟩, rfl, rfl⟩
    simp [deviceById?]

/-- The three ways in which a completion can go, and what each of them leaves. -/
inductive Completes (s : Store) (contract address : String) : Outcome → Store → Prop where
  | unknown (h : s.stagingByContract? contract = none) :
      Completes s contract address .unknownContract s
  | inUse {staged : StagingRow} {other : Device} (h : s.stagingByContract? contract = some staged)
      (ho : s.deviceByAddress? address = some other) (hne : other.id ≠ staged.deviceId) :
      Completes s contract address (.addressInUse other.id) s
  | bound {staged : StagingRow} {d : Device} (h : s.stagingByContract? contract = some staged)
      (hfree : ∀ d ∈ s.devices, d.id ≠ staged.deviceId → d.address ≠ some address)
      (hb : s.Allows .devices .update (devicesWithId staged.deviceId s))
      (hd : s.Allows .staging .delete (s.staging.filter (·.deviceId = staged.deviceId)).length)
      (hf : (s.bindAddress staged.deviceId address).deviceById? staged.deviceId = some d) :
      Completes s contract address (.completed d) (s.bindAddress staged.deviceId address)

/-- An address is free for a device if no other device is found under it. -/
theorem deviceByAddress?_filter_eq_none {id : Int} {address : String}
    (h : ∀ d ∈ s.devices, d.id ≠ id → d.address ≠ some address) :
    (s.deviceByAddress? address).filter (·.id ≠ id) = none := by
  rw [Option.filter_eq_none_iff]
  intro d hd
  have ha : d.address = some address := by simpa using List.find?_some hd
  by_contra hne
  exact h d (List.mem_of_find?_eq_some hd) (by simpa using hne) ha

/-- A device that is found when the address is bound was there before. -/
theorem devicesWithId_ne_zero {id : Int} {address : String} {d : Device}
    (h : (s.bindAddress id address).deviceById? id = some d) : devicesWithId id s ≠ 0 := by
  obtain ⟨d', hd', rfl⟩ := List.mem_map.1 (List.mem_of_find?_eq_some h)
  have hid := List.find?_some h
  have hmem : d' ∈ s.devices.filter (·.id = id) := by
    refine List.mem_filter.2 ⟨hd', ?_⟩
    by_cases hd : d'.id = id <;> simp_all
  exact Nat.ne_of_gt (List.length_pos_of_mem hmem)

/-- The device that was bound to an address is found under it, if no other had the address. -/
theorem deviceByAddress?_bindAddress {id : Int} {address : String} {d : Device}
    (hfree : ∀ d ∈ s.devices, d.id ≠ id → d.address ≠ some address)
    (hf : (s.bindAddress id address).deviceById? id = some d) :
    (s.bindAddress id address).deviceByAddress? address = some d := by
  rw [← hf, deviceByAddress?, deviceById?]
  refine List.find?_congr fun x hx => ?_
  obtain ⟨d', hd', rfl⟩ := List.mem_map.1 hx
  by_cases hid : d'.id = id
  · simp [hid]
  · simp [hid, hfree d' hd' hid]

theorem findStaged_eq_ok {id : Int} {d : Device} :
    findStaged id s = .ok (d, s') ↔ s.deviceById? id = some d ∧ s' = s := by
  unfold findStaged
  split <;> simp [*, eq_comm]

theorem bindStaged_eq_ok {id : Int} {address : String} {d : Device} :
    bindStaged id address s = .ok (d, s') ↔
      s.Allows .devices .update (devicesWithId id s) ∧
      (∀ d ∈ s.devices, d.id ≠ id → d.address ≠ some address) ∧
      s.Allows .staging .delete (s.staging.filter (·.deviceId = id)).length ∧
      (s.bindAddress id address).deviceById? id = some d ∧ s' = s.bindAddress id address := by
  rw [bindStaged, bind_eq_ok]
  simp only [bind_eq_ok, bindDevice_eq_ok, deleteStaging_eq_ok, findStaged_eq_ok]
  constructor
  · rintro ⟨_, _, ⟨hb, hfree, -, rfl⟩, _, _, ⟨hd, -, rfl⟩, hf, rfl⟩
    exact ⟨hb, hfree.resolve_left (devicesWithId_ne_zero hf), hd, hf, rfl⟩
  · rintro ⟨hb, hfree, hd, hf, rfl⟩
    exact ⟨_, _, ⟨hb, .inr hfree, rfl, rfl⟩, _, _, ⟨hd, rfl, rfl⟩, hf, rfl⟩

/-- **How a completion goes.**  It commits in one of three ways: the contract is unknown, another
device has the address, or the device of the contract is bound and the contract consumed. -/
theorem completeDevice_eq_ok {contract address : String} {out : Outcome} :
    completeDevice contract address s = (.ok out, s') ↔ s.Completes contract address out s' := by
  rw [completeDevice, transact_eq_ok, completion, get_bind]
  cases hc : s.stagingByContract? contract with
  | none =>
    refine pure_eq_ok.trans ⟨?_, ?_⟩
    · rintro ⟨rfl, rfl⟩
      exact .unknown hc
    · rintro (h | ⟨h, -, -⟩ | ⟨h, -, -, -, -⟩)
      · exact ⟨rfl, rfl⟩
      · simp [hc] at h
      · simp [hc] at h
  | some staged =>
    cases ho : (s.deviceByAddress? address).filter (·.id ≠ staged.deviceId) with
    | some other =>
      dsimp only
      rw [ho]
      refine pure_eq_ok.trans ⟨?_, ?_⟩
      · rintro ⟨rfl, rfl⟩
        obtain ⟨ho, hne⟩ := Option.filter_eq_some_iff.1 ho
        exact .inUse hc ho (by simpa using hne)
      · rintro (h | ⟨h, ho', -⟩ | ⟨h, hfree, -, -, -⟩)
        · simp [hc] at h
        · obtain rfl := Option.some.inj ((Option.filter_eq_some_iff.1 ho).1.symm.trans ho')
          exact ⟨rfl, rfl⟩
        · obtain rfl := Option.some.inj (hc.symm.trans h)
          rw [deviceByAddress?_filter_eq_none hfree] at ho
          cases ho
    | none =>
      dsimp only
      rw [ho]
      rw [bind_eq_ok]
      simp only [bindStaged_eq_ok, pure_eq_ok]
      constructor
      · rintro ⟨_, _, ⟨hb, hfree, hd, hf, rfl⟩, rfl, rfl⟩
        exact .bound hc hfree hb hd hf
      · rintro (h | ⟨h, ho', hne⟩ | ⟨h, hfree, hb, hd, hf⟩)
        · simp [hc] at h
        · obtain rfl := Option.some.inj (hc.symm.trans h)
          simp [ho', hne] at ho
        · obtain rfl := Option.some.inj (hc.symm.trans h)
          exact ⟨_, _, ⟨hb, hfree, hd, hf, rfl⟩, rfl, rfl⟩

theorem rename_eq_ok {id : Int} {displayName : String} {b : Bool} :
    rename id displayName s = (.ok b, s') ↔
      s.Allows .devices .update (devicesWithId id s) ∧ b = decide (devicesWithId id s ≠ 0) ∧
      s' = s.setName id displayName := by
  rw [rename, transact_eq_ok, bind_eq_ok]
  simp only [renameDevice_eq_ok, pure_eq_ok]
  constructor
  · rintro ⟨_, _, ⟨ha, rfl, rfl⟩, rfl, rfl⟩
    exact ⟨ha, rfl, rfl⟩
  · rintro ⟨ha, rfl, rfl⟩
    exact ⟨_, _, ⟨ha, rfl, rfl⟩, rfl, rfl⟩

end Store
end SoilWatch
