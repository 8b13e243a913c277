/-
# Credentials in the store

What a login looks at in the table of users are the emails, the numbers and the password hashes
(`Credential`).  Two stores have the same keys if they have the same credentials and reset tokens
and give the same number to the next user (`SameKeys`); signing up, new reset tokens and new
passwords are all that changes keys.
-/

import SoilWatch.Proofs.Store.History

namespace SoilWatch

open Time (Instant)

/-- The columns of a user that a login depends on. -/
structure Credential where
  email : String
  id : Int
  passwordHash : String

/-- The credential in a row. -/
def UserRow.credential (r : UserRow) : Credential :=
  ⟨r.email, r.id, r.passwordHash⟩

/-- The credential with another hash, if it is that of a user. -/
def Credential.rekey (id : Int) (passwordHash : String) (c : Credential) : Credential :=
  if c.id = id then { c with passwordHash } else c

@[simp]
theorem Credential.rekey_email (id : Int) (hash : String) (c : Credential) :
    (c.rekey id hash).email = c.email := by
  unfold rekey
  split <;> rfl

@[simp]
theorem Credential.rekey_id (id : Int) (hash : String) (c : Credential) :
    (c.rekey id hash).id = c.id := by
  unfold rekey
  split <;> rfl

namespace Store

variable {s s' : Store}

/-! ### Credentials in the store -/

/-- The credentials of all users. -/
def credentials (s : Store) : List Credential :=
  s.users.map UserRow.credential

/-- The credential that belongs to an email. -/
def credential? (s : Store) (email : String) : Option Credential :=
  s.credentials.find? (·.email = email)

theorem credential?_eq (s : Store) (email : String) :
    s.credential? email = (s.userByEmail? email).map UserRow.credential :=
  List.find?_map

theorem mem_of_credential? {email : String} {c : Credential} (h : s.credential? email = some c) :
    c ∈ s.credentials ∧ c.email = email :=
  ⟨List.mem_of_find?_eq_some h, by simpa using List.find?_some h⟩

/-- A user who is found by an email has a credential of that email. -/
theorem mem_credentials_of_userByEmail? {email : String} {user : UserRow}
    (h : s.userByEmail? email = some user) :
    user.credential ∈ s.credentials ∧ user.email = email :=
  ⟨List.mem_map_of_mem (List.mem_of_find?_eq_some h), by simpa using List.find?_some h⟩

/-- Who has a credential is a user. -/
theorem isSome_userById? {c : Credential} (h : c ∈ s.credentials) : (s.userById? c.id).isSome := by
  obtain ⟨row, hrow, rfl⟩ := List.mem_map.1 h
  exact List.find?_isSome.2 ⟨row, hrow, decide_eq_true rfl⟩

theorem credentials_setPassword (s : Store) (id : Int) (hash : String) :
    (s.setPassword id hash).credentials = s.credentials.map (Credential.rekey id hash) := by
  rw [credentials, credentials, setPassword, List.map_map, List.map_map]
  refine List.map_congr_left fun r _ => ?_
  by_cases hid : r.id = id <;> simp [Credential.rekey, UserRow.credential, hid]

/-- Two stores have the same credentials and reset tokens, and number the next user alike. -/
structure SameKeys (s s' : Store) : Prop where
  credentials : s'.credentials = s.credentials
  counter : s'.counters.users = s.counters.users
  resets : s'.resets = s.resets

theorem SameKeys.refl (s : Store) : SameKeys s s := ⟨rfl, rfl, rfl⟩

theorem SameKeys.of_sameTable (husers : SameTable s s' .users) (hresets : SameTable s s' .resets) :
    SameKeys s s' :=
  ⟨congrArg (List.map UserRow.credential) husers.1, husers.2, hresets.1⟩

/-- A new session stamps its user and changes no credential. -/
theorem sameKeys_openSession (s : Store) (id : Int) (token : String)
    (createdAt expiresAt : Instant) : SameKeys s (s.openSession id token createdAt expiresAt) := by
  refine ⟨?_, rfl, rfl⟩
  rw [credentials, openSession, List.map_map]
  exact List.map_congr_left fun r _ => by
    simp only [Function.comp_apply]
    split <;> rfl

end Store
end SoilWatch
