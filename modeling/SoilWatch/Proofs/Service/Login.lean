/-
# Whom a login lets in

A login looks at the emails, numbers and password hashes of the users, and at nothing else of them
(`Credential`).  First it decides whom to let in (`letIn`), then it opens a session.  Who is turned
down leaves everything as it was; who is let in gets a session if one can be opened, which is the
case if nothing that is written is refused, the session lasts and its token is new (`Opens`).
-/

import SoilWatch.Proofs.Atomicity
import SoilWatch.Proofs.Store.Credentials

namespace SoilWatch

namespace Time

/-- Time goes on before it ends. -/
theorem Instant.lt_addSeconds {t : Instant} {n : Int} (hn : 0 < n) (ht : t.second < lastSecond) :
    t < t.addSeconds n := by
  refine .inl ?_
  rw [addSeconds, if_neg (by omega)]
  dsimp only
  rw [if_pos (.inr hn), clamp]
  have hfirst := t.first_le
  omega

end Time

namespace Service
namespace Accounts

open Time (Instant)

variable {setup : Setup} {s s' : System}

/-- Whom an email and a password let in, by what the store has of them. -/
def letIn (hasher : Password.Hasher) (s : Store) (email password : String) : Except Error Int :=
  match s.credential? email with
  | none => .error .noUser
  | some c =>
    match hasher.verify c.passwordHash password with
    | .error f => .error (.passwordHash f.message)
    | .ok false => .error .invalidPassword
    | .ok true => .ok c.id

/-- Opens the session of a user who was let in. -/
def enter (setup : Setup) (random : Octets) (now : Instant) (id : Int) : Call String := do
  let _ ← onStore "login"
    (Store.startSession id (tokenOf random) now (now.addSeconds setup.auth.sessionTtl))
  pure (tokenOf random)

/-- **A login decides whom to let in, and opens a session then.** -/
theorem run_login (random : Octets) (now : Instant) (email password : String) (s : System) :
    (login setup random now email password).run s =
      match letIn setup.hasher s.store email password with
      | .error e => (.error e, s)
      | .ok id => (enter setup random now id).run s := by
  rw [login, lookStore, Flow.run_bind, Flow.run_look, letIn, Store.credential?_eq]
  cases s.store.userByEmail? email with
  | none => rfl
  | some user =>
    dsimp only [Option.map_some, UserRow.credential]
    rcases setup.hasher.verify user.passwordHash password with _ | _ | _ <;> rfl

/-- Who has logged in was let in, and has a new session. -/
theorem of_login {random : Octets} {now : Instant} {email password token : String}
    (h : (login setup random now email password).run s = (.ok token, s')) :
    ∃ id, letIn setup.hasher s.store email password = .ok id ∧ s'.store =
      s.store.openSession id (tokenOf random) now (now.addSeconds setup.auth.sessionTtl) := by
  rw [run_login] at h
  split at h
  · cases h
  · rename_i id hid
    obtain ⟨row, t, hstart, h⟩ := run_bind_eq_ok.1 h
    obtain ⟨-, rfl⟩ := Prod.mk.inj h
    have hstart := of_run_onStore (.startSession id _ now _) hstart
    obtain ⟨-, -, -, -, -, -, -, hs'⟩ := Store.startSession_eq_ok.1 hstart
    exact ⟨id, hid, hs'⟩

/-- Whether a session can be opened: what a login writes is not refused, the session lasts, and its
token is new. -/
structure Opens (setup : Setup) (random : Octets) (now : Instant) (s : Store) : Prop where
  stamped : (.users, .update) ∉ s.forbidden
  closed : (.sessions, .delete) ∉ s.forbidden
  opened : (.sessions, .insert) ∉ s.forbidden
  lasts : 0 < setup.auth.sessionTtl
  early : now.second < Time.lastSecond
  fresh : s.sessionByToken? (tokenOf random) = none

/-- Who is let in is a user. -/
theorem isSome_of_letIn {hasher : Password.Hasher} {store : Store} {email password : String}
    {id : Int} (h : letIn hasher store email password = .ok id) : (store.userById? id).isSome := by
  unfold letIn at h
  split at h
  · cases h
  · rename_i c hc
    split at h
    · cases h
    · cases h
    · obtain rfl := Except.ok.inj h
      exact Store.isSome_userById? (Store.mem_of_credential? hc).1

variable {random : Octets} {now : Instant} {email password : String}

/-- Who is not let in is told why, and nothing changes. -/
theorem login_refused {e : Error} (h : letIn setup.hasher s.store email password = .error e) :
    (login setup random now email password).run s = (.error e, s) := by
  rw [run_login, h]

/-- **Who is let in gets a session,** if one can be opened. -/
theorem login_accepted {id : Int} (h : letIn setup.hasher s.store email password = .ok id)
    (ho : Opens setup random now s.store) :
    ∃ s', (login setup random now email password).run s = (.ok (tokenOf random), s') := by
  rw [run_login, h]
  have hfresh : (s.store.dropSessions id).sessionByToken? (tokenOf random) = none :=
    List.find?_eq_none.2 fun row hrow =>
      List.find?_eq_none.1 ho.fresh row (List.mem_of_mem_filter hrow)
  obtain ⟨row, t, hstart⟩ : ∃ row t, s.store.startSession id (tokenOf random) now
      (now.addSeconds setup.auth.sessionTtl) = (.ok row, t) :=
    ⟨_, _, Store.startSession_eq_ok.2 ⟨Time.Instant.lt_addSeconds ho.lasts ho.early,
      .inr ho.stamped, .inr ho.closed, ho.opened, hfresh, isSome_of_letIn h, rfl, rfl⟩⟩
  refine ⟨{ s with store := t }, run_bind_eq_ok.2 ⟨row, _, ?_, rfl⟩⟩
  rw [run_onStore, hstart]
  rfl

/-- Two states that let in alike answer a login alike, if a session can be opened in both. -/
theorem login_congr
    (h : letIn setup.hasher s'.store email password = letIn setup.hasher s.store email password)
    (ho : Opens setup random now s.store) (ho' : Opens setup random now s'.store) :
    ((login setup random now email password).run s').1 =
      ((login setup random now email password).run s).1 := by
  cases hletIn : letIn setup.hasher s.store email password with
  | error e => rw [login_refused hletIn, login_refused (h.trans hletIn)]
  | ok id =>
    obtain ⟨t, ht⟩ := login_accepted hletIn ho
    obtain ⟨t', ht'⟩ := login_accepted (h.trans hletIn) ho'
    rw [ht, ht']

end Accounts
end Service
end SoilWatch
