/-
# Histories of the store

An operation of the store is a value here (`Operation`), so that a run of the store is a list: its
operations in the order in which they were committed or failed, with the file closed and opened
again and events refused or allowed at any point between them (`Action`).  `after` is the store that
a run leaves and `history` is what its operations answered.

What holds of every run is proved by one of two inductions.  `history_induction` is about the
answers and the store together, `after_induction` about the store alone; in both it is enough to
look at an operation that was committed, because one that fails changes nothing (`run_eq_error`),
and opening the file again gives the same store.  `run_same` is the frame: a table that an operation
does not write is untouched.
-/

import SoilWatch.Proofs.Store.Commit
import SoilWatch.Store.File
import Mathlib.Data.List.Induction

namespace SoilWatch
namespace Store

open Time (Instant)

/-- An operation of the store with what it is given. -/
inductive Operation where
  | createUser (email passwordHash name : String) (now : Instant)
  | userById (id : Int)
  | userByEmail (email : String)
  | changePassword (id : Int) (passwordHash : String)
  | startSession (userId : Int) (token : String) (createdAt expiresAt : Instant)
  | sessionByToken (token : String)
  | deleteUserSessions (userId : Int)
  | replaceReset (userId : Int) (token : String) (expiresAt : Instant)
  | resetByToken (token : String)
  | deleteUserResets (userId : Int)
  | createDevice (userId : Int) (displayName contract : String)
  | completeDevice (contract address : String)
  | deviceById (id : Int)
  | deviceByAddress (address : String)
  | devicesOf (userId : Int)
  | rename (id : Int) (displayName : String)

namespace Operation

/-- What an operation answers when it does not fail. -/
abbrev Answer : Operation → Type
  | createUser .. => UserRow
  | userById .. | userByEmail .. => Option UserRow
  | changePassword .. | rename .. => Bool
  | startSession .. => SessionRow
  | sessionByToken .. => Option SessionRow
  | deleteUserSessions .. | deleteUserResets .. => Nat
  | replaceReset .. => ResetRow
  | resetByToken .. => Option ResetRow
  | createDevice .. => Device
  | completeDevice .. => Outcome
  | deviceById .. | deviceByAddress .. => Option Device
  | devicesOf .. => List Device

/-- Runs an operation. -/
def run : (op : Operation) → Store → Except Error op.Answer × Store
  | createUser email passwordHash name now, s => s.createUser email passwordHash name now
  | userById id, s => (.ok (s.userById? id), s)
  | userByEmail email, s => (.ok (s.userByEmail? email), s)
  | changePassword id passwordHash, s => s.changePassword id passwordHash
  | startSession userId token createdAt expiresAt, s =>
    s.startSession userId token createdAt expiresAt
  | sessionByToken token, s => (.ok (s.sessionByToken? token), s)
  | deleteUserSessions userId, s => s.deleteUserSessions userId
  | replaceReset userId token expiresAt, s => s.replaceReset userId token expiresAt
  | resetByToken token, s => (.ok (s.resetByToken? token), s)
  | deleteUserResets userId, s => s.deleteUserResets userId
  | createDevice userId displayName contract, s => s.createDevice userId displayName contract
  | completeDevice contract address, s => s.completeDevice contract address
  | deviceById id, s => (.ok (s.deviceById? id), s)
  | deviceByAddress address, s => (.ok (s.deviceByAddress? address), s)
  | devicesOf userId, s => (.ok (s.devicesOf userId), s)
  | rename id displayName, s => s.rename id displayName

/-- **An operation that fails changes nothing:** no row of any table and no number given to a
row. -/
theorem run_eq_error {op : Operation} {s s' : Store} {e : Error}
    (h : op.run s = (.error e, s')) : s' = s := by
  cases op with
  | userById | userByEmail | sessionByToken | resetByToken | deviceById | deviceByAddress
  | devicesOf => cases h
  | startSession userId token createdAt expiresAt =>
    change Store.startSession userId token createdAt expiresAt s = _ at h
    unfold Store.startSession at h
    split at h
    · exact transact_eq_error h
    · exact ((Prod.mk.injEq ..).mp h).2.symm
  | createUser | changePassword | deleteUserSessions | replaceReset | deleteUserResets
  | createDevice | completeDevice | rename => exact transact_eq_error h

/-! ### What an operation does not write -/

/-- The tables whose rows or numbers an operation can change. -/
def writes : Operation → List Table
  | createUser .. | changePassword .. => [.users]
  | startSession .. => [.users, .sessions]
  | deleteUserSessions .. => [.sessions]
  | replaceReset .. | deleteUserResets .. => [.resets]
  | createDevice .. | completeDevice .. => [.devices, .staging]
  | rename .. => [.devices]
  | userById .. | userByEmail .. | sessionByToken .. | resetByToken .. | deviceById ..
  | deviceByAddress .. | devicesOf .. => []

end Operation

/-- Whether a table has the same rows in two stores, and gave the same numbers. -/
def SameTable (s s' : Store) : Table → Prop
  | .users => s'.users = s.users ∧ s'.counters.users = s.counters.users
  | .sessions => s'.sessions = s.sessions ∧ s'.counters.sessions = s.counters.sessions
  | .resets => s'.resets = s.resets ∧ s'.counters.resets = s.counters.resets
  | .devices => s'.devices = s.devices ∧ s'.counters.devices = s.counters.devices
  | .staging => s'.staging = s.staging

theorem SameTable.refl (s : Store) (t : Table) : SameTable s s t := by
  cases t <;> simp [SameTable]

theorem SameTable.trans {s s' s'' : Store} {t : Table} (h : SameTable s s' t)
    (h' : SameTable s' s'' t) : SameTable s s'' t := by
  cases t with
  | staging => exact Eq.trans h' h
  | _ => exact ⟨h'.1.trans h.1, h'.2.trans h.2⟩

/-- **An operation leaves the tables that it does not write,** whether it is committed or fails. -/
theorem Operation.run_same {op : Operation} {s s' : Store} {r : Except Error op.Answer}
    {t : Table} (h : op.run s = (r, s')) (ht : t ∉ op.writes) : SameTable s s' t := by
  cases r with
  | error e =>
    obtain rfl := run_eq_error h
    exact .refl s' t
  | ok a =>
    cases op with
    | userById | userByEmail | sessionByToken | resetByToken | deviceById | deviceByAddress
    | devicesOf =>
      obtain rfl := ((Prod.mk.injEq ..).mp h).2
      exact .refl s t
    | createUser =>
      obtain ⟨-, -, -, rfl⟩ := createUser_eq_ok.1 h
      cases t <;> simp_all [SameTable, writes]
    | changePassword =>
      obtain ⟨-, -, rfl⟩ := changePassword_eq_ok.1 h
      cases t <;> simp_all [SameTable, writes, setPassword]
    | startSession =>
      obtain ⟨-, -, -, -, -, -, -, rfl⟩ := startSession_eq_ok.1 h
      cases t <;> simp_all [SameTable, writes, openSession]
    | deleteUserSessions =>
      obtain ⟨-, -, rfl⟩ := deleteUserSessions_eq_ok.1 h
      cases t <;> simp_all [SameTable, writes, dropSessions]
    | replaceReset =>
      obtain ⟨-, -, -, -, -, rfl⟩ := replaceReset_eq_ok.1 h
      cases t <;> simp_all [SameTable, writes, putReset]
    | deleteUserResets =>
      obtain ⟨-, -, rfl⟩ := deleteUserResets_eq_ok.1 h
      cases t <;> simp_all [SameTable, writes, dropResets]
    | createDevice =>
      obtain ⟨-, -, -, -, -, rfl⟩ := createDevice_eq_ok.1 h
      cases t <;> simp_all [SameTable, writes, addDevice]
    | completeDevice =>
      rcases completeDevice_eq_ok.1 h with _ | _ | _ <;>
        cases t <;> simp_all [SameTable, writes, bindAddress]
    | rename =>
      obtain ⟨-, -, rfl⟩ := rename_eq_ok.1 h
      cases t <;> simp_all [SameTable, writes, setName]

/-- **An operation leaves what is refused,** whether it is committed or fails. -/
theorem Operation.forbidden_kept (op : Operation) (s : Store) :
    (op.run s).2.forbidden = s.forbidden := by
  rcases hr : op.run s with ⟨e | a, t⟩
  · exact congrArg Store.forbidden (run_eq_error hr)
  · cases op with
    | userById | userByEmail | sessionByToken | resetByToken | deviceById | deviceByAddress
    | devicesOf => exact congrArg Store.forbidden ((Prod.mk.injEq ..).mp hr).2.symm
    | createUser => obtain ⟨-, -, -, rfl⟩ := createUser_eq_ok.1 hr; rfl
    | changePassword => obtain ⟨-, -, rfl⟩ := changePassword_eq_ok.1 hr; rfl
    | startSession => obtain ⟨-, -, -, -, -, -, -, rfl⟩ := startSession_eq_ok.1 hr; rfl
    | deleteUserSessions => obtain ⟨-, -, rfl⟩ := deleteUserSessions_eq_ok.1 hr; rfl
    | replaceReset => obtain ⟨-, -, -, -, -, rfl⟩ := replaceReset_eq_ok.1 hr; rfl
    | deleteUserResets => obtain ⟨-, -, rfl⟩ := deleteUserResets_eq_ok.1 hr; rfl
    | createDevice => obtain ⟨-, -, -, -, -, rfl⟩ := createDevice_eq_ok.1 hr; rfl
    | completeDevice => rcases completeDevice_eq_ok.1 hr with _ | _ | _ <;> rfl
    | rename => obtain ⟨-, -, rfl⟩ := rename_eq_ok.1 hr; rfl

/-! ### Runs -/

/-- A step of a run: an operation, the file closed and opened again, or other events refused from
now on. -/
inductive Action where
  | call (op : Operation)
  | reopen
  | refuse (events : List (Table × Event))

/-- What an operation answered. -/
structure Record where
  operation : Operation
  answer : Except Error operation.Answer

namespace Action

/-- The store behind a step. -/
def act : Action → Store → Store
  | call op, s => (op.run s).2
  | reopen, s => s.reopen
  | refuse events, s => { s with forbidden := events }

/-- What a step adds to the history. -/
def records : Action → Store → List Record
  | call op, s => [⟨op, (op.run s).1⟩]
  | reopen, _ | refuse _, _ => []

end Action

/-- The store behind a run. -/
def after (s : Store) (run : List Action) : Store :=
  run.foldl (fun s a => a.act s) s

/-- What the operations of a run answered, in order. -/
def history (s : Store) : List Action → List Record
  | [] => []
  | a :: run => a.records s ++ history (a.act s) run

theorem after_append (s : Store) (past future : List Action) :
    s.after (past ++ future) = (s.after past).after future :=
  List.foldl_append

theorem history_append (s : Store) (past future : List Action) :
    s.history (past ++ future) = s.history past ++ (s.after past).history future := by
  induction past generalizing s with
  | nil => rfl
  | cons a past ih =>
    simp only [List.cons_append, history, ih, List.append_assoc]
    rfl

variable {start : Store}

/-- **Induction over a run, for its history and its store.**  Operations that fail leave no more
than their record, and of the other steps only those count that refuse events. -/
theorem history_induction {P : List Record → Store → Prop} (init : P [] start)
    (done : ∀ h s (op : Operation) a s', P h s → op.run s = (.ok a, s') →
      P (h ++ [⟨op, .ok a⟩]) s')
    (failed : ∀ h s (op : Operation) e, P h s → P (h ++ [⟨op, .error e⟩]) s)
    (refused : ∀ h s events, P h s → P h { s with forbidden := events }) (run : List Action) :
    P (start.history run) (start.after run) := by
  induction run using List.reverseRecOn with
  | nil => exact init
  | append_singleton run a ih =>
    rw [history_append, after_append]
    generalize start.history run = h at ih ⊢
    generalize start.after run = s at ih ⊢
    cases a with
    | call op =>
      show P (h ++ [⟨op, (op.run s).1⟩]) (op.run s).2
      rcases hr : op.run s with ⟨_ | _, s'⟩
      · obtain rfl := Operation.run_eq_error hr
        exact failed h s' op _ ih
      · exact done h s op _ s' ih hr
    | reopen =>
      show P (h ++ []) s.reopen
      rw [List.append_nil, reopen_eq]
      exact ih
    | refuse events =>
      show P (h ++ []) { s with forbidden := events }
      rw [List.append_nil]
      exact refused h s events ih

/-- **Induction over a run, for its store.** -/
theorem after_induction {P : Store → Prop} (init : P start)
    (done : ∀ s (op : Operation) a s', P s → op.run s = (.ok a, s') → P s')
    (refused : ∀ s events, P s → P { s with forbidden := events }) (run : List Action) :
    P (start.after run) :=
  history_induction (P := fun _ s => P s) init (fun _ => done) (fun _ _ _ _ h => h)
    (fun _ => refused) run

end Store
end SoilWatch
