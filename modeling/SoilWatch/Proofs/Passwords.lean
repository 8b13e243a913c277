/-
# Which password lets a user in

What a login is answered with can be read off the history alone.  Three kinds of replies count
(`Notice`): somebody has signed up with a password, a reset token was stored for an email, and a
password was set through a mailed token.  A token counts also if its mail could not be made or sent,
and a password also if the reset tokens could not be removed behind it.  Entered one after the other
they make up a ledger of accounts, holders of tokens, and passwords (`ledger`), in which the last
entry wins.

The store has a hash of the password of the ledger for every account, and no other accounts
(`Backed`); a reply changes both alike, by what it does to the rows (`Request.rekeys`).  So a login
asks the ledger, as far as the hasher tells passwords apart (`Tells`).
-/

import SoilWatch.Proofs.Service.Deeds

namespace SoilWatch
namespace Service

open Time (Instant)
open Accounts (tokenOf encodeToken decodeToken? login letIn Opens)

/-! ### The ledger of a history -/

/-- What is known of accounts: the number of the account of an email, the number of the account to
which a token was given last, and the password of an account that was set last. -/
structure Ledger where
  account? : String → Option Int
  holder? : String → Option Int
  password? : Int → Option String

namespace Ledger

/-- Nothing is known. -/
def blank : Ledger := ⟨fun _ => none, fun _ => none, fun _ => none⟩

/-- The account that has a mailed token. -/
def owner? (l : Ledger) (encoded : String) : Option Int :=
  (decodeToken? encoded).bind l.holder?

/-- Enters what a reply says. -/
def enter (l : Ledger) : Notice → Ledger
  | .account email password id =>
    { l with
      account? := fun e => if e = email then some id else l.account? e
      password? := fun u => if u = id then some password else l.password? u }
  | .token email token =>
    { l with holder? := fun t => if t = token then l.account? email else l.holder? t }
  | .password encoded password =>
    { l with
      password? := fun u => if l.owner? encoded = some u then some password else l.password? u }

theorem enter_account?_eq_none {l : Ledger} {n : Notice} {email : String} :
    (l.enter n).account? email = none ↔
      l.account? email = none ∧ ∀ password id, n ≠ .account email password id := by
  cases n with
  | account email' password id =>
    by_cases he : email = email'
    · simp [enter, he]
    · simp [enter, he, Ne.symm he]
  | token => simp [enter]
  | password => simp [enter]

/-- Whether a notice is about the account of an email. -/
def Concerns (l : Ledger) (email : String) : Notice → Prop
  | .account email' _ _ => email' = email
  | .token .. => False
  | .password encoded _ => ∃ id, l.owner? encoded = some id ∧ l.account? email = some id

end Ledger

/-- **The ledger of a history.** -/
def ledger (h : List Reply) : Ledger :=
  (h.filterMap Reply.notice?).foldl Ledger.enter .blank

/-- The password that was last set for the account of an email, if there is an account. -/
def passwordOf (h : List Reply) (email : String) : Option String :=
  ((ledger h).account? email).bind (ledger h).password?

/-- Whether a reply says that a user has signed up with an email. -/
def Reply.SignsUp (r : Reply) (email : String) : Prop :=
  ∃ password id, r.notice? = some (.account email password id)

section Ledger

variable {h : List Reply} {r : Reply}

theorem ledger_of_none (hr : r.notice? = none) : ledger (h ++ [r]) = ledger h := by
  rw [ledger, List.filterMap_append, List.foldl_append]
  simp [hr, ledger]

theorem ledger_of_some {n : Notice} (hr : r.notice? = some n) :
    ledger (h ++ [r]) = (ledger h).enter n := by
  rw [ledger, List.filterMap_append, List.foldl_append]
  simp [hr, ledger]

/-- **An email has no account if nobody has signed up with it.** -/
theorem account?_eq_none {email : String} :
    (ledger h).account? email = none ↔ ∀ r ∈ h, ¬ r.SignsUp email := by
  induction h using List.reverseRecOn with
  | nil => exact iff_of_true rfl fun r hr => absurd hr List.not_mem_nil
  | append_singleton h r ih =>
    rw [List.forall_mem_append, List.forall_mem_singleton, ← ih]
    cases hr : r.notice? with
    | none => simp [ledger_of_none hr, Reply.SignsUp, hr]
    | some n => simp [ledger_of_some hr, Ledger.enter_account?_eq_none, Reply.SignsUp, hr]

end Ledger

/-! ### What a request does to credentials -/

/-- The password of a reply with the hash that is made of it. -/
def Reply.hash? : Reply → Option (String × String)
  | ⟨setup, .createUser salt _ _ password _, _⟩ => some (password, setup.hasher.hash salt password)
  | ⟨setup, .changePassword salt _ _ password, _⟩ =>
    some (password, setup.hasher.hash salt password)
  | _ => none

/-- The passwords of a history with the hashes that were made of them. -/
def hashes (h : List Reply) : List (String × String) :=
  h.filterMap Reply.hash?

/-- Whether a hasher accepts a password for exactly those hashes of a history that were made of
it. -/
def Tells (hasher : Password.Hasher) (h : List Reply) (password : String) : Prop :=
  ∀ x ∈ hashes h, hasher.verify x.2 password = .ok (decide (password = x.1))

/-- What becomes of credentials and reset tokens when a reply says this; `made` is its password with
the hash. -/
inductive Rekeys (s s' : Store) (made : Option (String × String)) : Option Notice → Prop where
  | quiet (h : Store.SameKeys s s') : Rekeys s s' made none
  | opened {email password hash : String} {id : Int} (hmade : made = some (password, hash))
    (hfree : s.credential? email = none) (hid : id = s.counters.users + 1)
    (hcredentials : s'.credentials = s.credentials ++ [⟨email, id, hash⟩])
    (hcounter : s'.counters.users = id) (hresets : s'.resets = s.resets) :
    Rekeys s s' made (some (.account email password id))
  | given {c : Credential} {token : String} (hc : c ∈ s.credentials)
    (hcredentials : s'.credentials = s.credentials)
    (hcounter : s'.counters.users = s.counters.users)
    (hresets : ∀ row ∈ s'.resets, row.token = token ∧ row.userId = c.id ∨
      row ∈ s.resets ∧ row.token ≠ token) : Rekeys s s' made (some (.token c.email token))
  | rekeyed {row : ResetRow} {password hash : String} (hmade : made = some (password, hash))
    (hrow : row ∈ s.resets)
    (hcredentials : s'.credentials = s.credentials.map (Credential.rekey row.userId hash))
    (hcounter : s'.counters.users = s.counters.users) (hresets : s'.resets ⊆ s.resets) :
    Rekeys s s' made (some (.password (encodeToken row.token) password))

section Requests

variable {store store' : Store} {made : Option (String × String)} {email token : String}

/-- A token that is stored is held by the user of the email, and by nobody else. -/
theorem rekeys_replaceReset {user : UserRow} {expiresAt : Instant} {row : ResetRow}
    (huser : store.userByEmail? email = some user)
    (h : store.replaceReset user.id token expiresAt = (.ok row, store')) :
    Rekeys store store' made (some (.token email token)) := by
  obtain ⟨hmem, rfl⟩ := Store.mem_credentials_of_userByEmail? huser
  obtain ⟨-, -, hfree, -, -, rfl⟩ := Store.replaceReset_eq_ok.1 h
  refine .given hmem rfl rfl fun row hrow => ?_
  rcases List.mem_append.1 hrow with hrow | hrow
  · exact .inr ⟨List.mem_of_mem_filter hrow, Store.ne_of_find?_eq_none hfree row hrow⟩
  · rw [List.mem_singleton.1 hrow]
    exact .inl ⟨rfl, rfl⟩

/-- A password that is set through a mailed token is that of the user of the token. -/
theorem rekeys_setPassword {password hash : String} {row : ResetRow}
    (hrow : store.resetByToken? token = some row)
    (hcredentials : store'.credentials = (store.setPassword row.userId hash).credentials)
    (hcounter : store'.counters.users = store.counters.users)
    (hresets : store'.resets ⊆ store.resets) :
    Rekeys store store' (some (password, hash)) (some (.password (encodeToken token) password)) := by
  obtain rfl : row.token = token := by simpa using List.find?_some hrow
  rw [Store.credentials_setPassword] at hcredentials
  exact .rekeyed rfl (List.mem_of_find?_eq_some hrow) hcredentials hcounter hresets

/-- **What a request does to credentials and reset tokens is what its reply says.** -/
theorem Request.rekeys (setup : Setup) (r : Request) (s : System) :
    Rekeys s.store ((r.call setup).run s).2.store
      (Reply.hash? ⟨setup, r, ((r.call setup).run s).1⟩)
      (Reply.notice? ⟨setup, r, ((r.call setup).run s).1⟩) := by
  have houtcome := r.outcome setup s
  generalize (⟨setup, r, ((r.call setup).run s).1⟩ : Reply) = reply at houtcome ⊢
  generalize ((r.call setup).run s).2.store = s' at houtcome ⊢
  cases houtcome with
  | signedUp h =>
    obtain ⟨-, hfree, rfl, rfl⟩ := Store.createUser_eq_ok.1 h
    refine .opened rfl ?_ rfl ?_ rfl rfl
    · rw [Store.credential?_eq, hfree]
      rfl
    · rw [Store.credentials, Store.credentials, List.map_append]
      rfl
  | issued huser h hanswer =>
    rcases hanswer with rfl | ⟨_, rfl⟩ | ⟨_, rfl⟩ <;> exact rekeys_replaceReset huser h
  | spent hrow h =>
    subst h
    exact rekeys_setPassword hrow rfl rfl List.filter_sublist.subset
  | uncleaned hrow h =>
    subst h
    exact rekeys_setPassword hrow rfl rfl (List.Subset.refl _)
  | other hr h =>
    rw [hr]
    exact .quiet h

end Requests

/-! ### What a run keeps -/

/-- **The store backs the ledger:** it has a credential for every account and for nobody else, with
a hash of its password, and a reset token is held by its user. -/
structure Backed (h : List Reply) (s : Store) : Prop where
  ids : Store.Unique s.credentials (·.id)
  numbered : ∀ c ∈ s.credentials, c.id ≤ s.counters.users
  account : ∀ email id, (ledger h).account? email = some id ↔
    ∃ c ∈ s.credentials, c.email = email ∧ c.id = id
  holder : ∀ row ∈ s.resets, (ledger h).holder? row.token = some row.userId
  password : ∀ c ∈ s.credentials, ∃ p,
    (ledger h).password? c.id = some p ∧ (p, c.passwordHash) ∈ hashes h

theorem backed_empty : Backed [] Store.empty where
  ids := List.nodup_nil
  numbered c hc := absurd hc List.not_mem_nil
  account := by simp [ledger, Ledger.blank, Store.credentials, Store.empty]
  holder row hrow := absurd hrow List.not_mem_nil
  password c hc := absurd hc List.not_mem_nil

section Step

variable {h : List Reply} {r : Reply} {store store' : Store} {x : String × String}

theorem mem_hashes_append : x ∈ hashes (h ++ [r]) ↔ x ∈ hashes h ∨ r.hash? = some x := by
  simp [hashes, List.filterMap_append]

/-- A reset token is owned by its user in the ledger. -/
theorem Backed.owner (hb : Backed h store) {row : ResetRow} (hrow : row ∈ store.resets) :
    (ledger h).owner? (encodeToken row.token) = some row.userId := by
  rw [Ledger.owner?, Accounts.decodeToken?_eq_some.2 rfl, Option.bind_some]
  exact hb.holder row hrow

/-- A credential has a hash of the password of the ledger also behind one more reply. -/
theorem Backed.password_append (hb : Backed h store) {c : Credential} (hc : c ∈ store.credentials) :
    ∃ p, (ledger h).password? c.id = some p ∧ (p, c.passwordHash) ∈ hashes (h ++ [r]) := by
  obtain ⟨p, hp, hmade⟩ := hb.password c hc
  exact ⟨p, hp, mem_hashes_append.2 (.inl hmade)⟩

/-- A reply that says nothing leaves the ledger. -/
theorem Backed.quiet (hb : Backed h store) (hr : r.notice? = none)
    (hk : store.SameKeys store') : Backed (h ++ [r]) store' where
  ids := hk.credentials ▸ hb.ids
  numbered := by rw [hk.credentials, hk.counter]; exact hb.numbered
  account := by rw [ledger_of_none hr, hk.credentials]; exact hb.account
  holder := by rw [ledger_of_none hr, hk.resets]; exact hb.holder
  password := by
    rw [ledger_of_none hr, hk.credentials]
    exact fun c hc => hb.password_append hc

/-- A new account has a number above all others. -/
theorem Backed.opened (hb : Backed h store) {email password hash : String} {id : Int}
    (hr : r.notice? = some (.account email password id)) (hmade : r.hash? = some (password, hash))
    (hfree : store.credential? email = none) (hid : id = store.counters.users + 1)
    (hcredentials : store'.credentials = store.credentials ++ [⟨email, id, hash⟩])
    (hcounter : store'.counters.users = id) (hresets : store'.resets = store.resets) :
    Backed (h ++ [r]) store' := by
  have hbelow : ∀ c ∈ store.credentials, c.id < id := fun c hc => by
    have hle := hb.numbered c hc
    omega
  have hnew := Store.ne_of_find?_eq_none hfree
  constructor
  case ids =>
    rw [hcredentials]
    exact hb.ids.append fun c hc => Int.ne_of_lt (hbelow c hc)
  case numbered =>
    rw [hcredentials, hcounter, List.forall_mem_append, List.forall_mem_singleton]
    exact ⟨fun c hc => Int.le_of_lt (hbelow c hc), Int.le_refl _⟩
  case account =>
    intro e u
    simp only [ledger_of_some hr, Ledger.enter, hcredentials, List.mem_append, List.mem_singleton,
      or_and_right, exists_or, exists_eq_left]
    split_ifs with he
    · subst he
      rw [or_iff_right (fun ⟨c, hc, he, _⟩ => hnew c hc he), Option.some.injEq, and_iff_right rfl]
    · rw [hb.account, or_iff_left fun heq => he heq.1.symm]
  case holder =>
    rw [ledger_of_some hr, hresets]
    exact hb.holder
  case password =>
    simp only [ledger_of_some hr, Ledger.enter, hcredentials, List.forall_mem_append,
      List.forall_mem_singleton]
    refine ⟨fun c hc => ?_, password, if_pos trivial, mem_hashes_append.2 (.inr hmade)⟩
    rw [if_neg (Int.ne_of_lt (hbelow c hc))]
    exact hb.password_append hc

/-- A token that is stored is held by the account of its email. -/
theorem Backed.given (hb : Backed h store) {c : Credential} {token : String}
    (hr : r.notice? = some (.token c.email token)) (hc : c ∈ store.credentials)
    (hcredentials : store'.credentials = store.credentials)
    (hcounter : store'.counters.users = store.counters.users)
    (hresets : ∀ row ∈ store'.resets, row.token = token ∧ row.userId = c.id ∨
      row ∈ store.resets ∧ row.token ≠ token) : Backed (h ++ [r]) store' := by
  constructor
  case ids => exact hcredentials ▸ hb.ids
  case numbered =>
    rw [hcredentials, hcounter]
    exact hb.numbered
  case account =>
    rw [ledger_of_some hr, hcredentials]
    exact hb.account
  case holder =>
    intro row hrow
    rw [ledger_of_some hr]
    rcases hresets row hrow with ⟨rfl, hid⟩ | ⟨hrow, hne⟩
    · rw [hid, ← (hb.account ..).2 ⟨c, hc, rfl, rfl⟩]
      exact if_pos rfl
    · rw [← hb.holder row hrow]
      exact if_neg hne
  case password =>
    rw [ledger_of_some hr, hcredentials]
    exact fun c hc => hb.password_append hc

/-- A new password is that of the account which owns the token in the ledger. -/
theorem Backed.rekeyed (hb : Backed h store) {row : ResetRow} {password hash : String}
    (hr : r.notice? = some (.password (encodeToken row.token) password))
    (hmade : r.hash? = some (password, hash)) (hrow : row ∈ store.resets)
    (hcredentials : store'.credentials = store.credentials.map (Credential.rekey row.userId hash))
    (hcounter : store'.counters.users = store.counters.users)
    (hresets : store'.resets ⊆ store.resets) : Backed (h ++ [r]) store' := by
  constructor
  case ids =>
    rw [hcredentials]
    exact hb.ids.mapped (Credential.rekey_id _ _)
  case numbered =>
    rw [hcredentials, hcounter, List.forall_mem_map]
    simpa using hb.numbered
  case account =>
    intro email id
    rw [ledger_of_some hr, hcredentials]
    simpa [Ledger.enter] using hb.account email id
  case holder =>
    rw [ledger_of_some hr]
    exact fun row hrow => hb.holder row (hresets hrow)
  case password =>
    simp only [ledger_of_some hr, Ledger.enter, hb.owner hrow, hcredentials, List.forall_mem_map,
      Credential.rekey_id, Option.some.injEq]
    intro c hc
    by_cases hid : row.userId = c.id
    · refine ⟨password, if_pos hid, mem_hashes_append.2 (.inr ?_)⟩
      rw [Credential.rekey, if_pos hid.symm]
      exact hmade
    · rw [Credential.rekey, if_neg (Ne.symm hid), if_neg hid]
      exact hb.password_append hc

/-- **A reply leaves a store that backs the ledger.** -/
theorem Backed.step (hb : Backed h store) (hk : Rekeys store store' r.hash? r.notice?) :
    Backed (h ++ [r]) store' := by
  generalize hr : r.notice? = n at hk
  cases hk with
  | quiet hk => exact hb.quiet hr hk
  | opened hmade hfree hid hcredentials hcounter hresets =>
    exact hb.opened hr hmade hfree hid hcredentials hcounter hresets
  | given hc hcredentials hcounter hresets =>
    exact hb.given hr hc hcredentials hcounter hresets
  | rekeyed hmade hrow hcredentials hcounter hresets =>
    exact hb.rekeyed hr hmade hrow hcredentials hcounter hresets

end Step

/-- **The store backs the ledger after every run.** -/
theorem backed_served (run : List Turn) :
    Backed (replies .empty run) (served .empty run).store := by
  refine turns_induction (P := fun _ h s => Backed h s.store) backed_empty
    (fun run h s setup r hb => hb.step (r.rekeys setup s)) (fun run h s events hb => ?_) run
  exact ⟨hb.ids, hb.numbered, hb.account, hb.holder, hb.password⟩

/-! ### What the ledger says of a login -/

section Admission

variable {h : List Reply} {store store' : Store} {email p password : String}
  {hasher : Password.Hasher}

/-- A credential is that of the account of its email. -/
theorem Backed.account_of_credential? (hb : Backed h store) {c : Credential}
    (hc : store.credential? email = some c) : (ledger h).account? email = some c.id := by
  obtain ⟨hmem, he⟩ := Store.mem_of_credential? hc
  exact (hb.account ..).2 ⟨c, hmem, he, rfl⟩

/-- Who has an account has a credential. -/
theorem Backed.credential?_of_account (hb : Backed h store) {id : Int}
    (hid : (ledger h).account? email = some id) :
    ∃ c, store.credential? email = some c ∧ c.id = id := by
  obtain ⟨c, hc, he, -⟩ := (hb.account ..).1 hid
  obtain ⟨c', hc'⟩ := Option.isSome_iff_exists.1
    (List.find?_isSome.2 ⟨c, hc, decide_eq_true he⟩ : (store.credential? email).isSome)
  exact ⟨c', hc', Option.some.inj ((hb.account_of_credential? hc').symm.trans hid)⟩

/-- **An account has a password.** -/
theorem Backed.passwordOf_eq_none (hb : Backed h store) :
    passwordOf h email = none ↔ (ledger h).account? email = none := by
  rw [passwordOf, Option.bind_eq_none_iff]
  constructor
  · intro hnone
    refine Option.eq_none_iff_forall_ne_some.2 fun id hid => ?_
    obtain ⟨c, hc, rfl⟩ := hb.credential?_of_account hid
    obtain ⟨p, hp, -⟩ := hb.password c (Store.mem_of_credential? hc).1
    rw [hnone _ hid] at hp
    cases hp
  · intro hnone id hid
    rw [hnone] at hid
    cases hid

/-- Nobody is let in who has no account. -/
theorem Backed.letIn_noUser (hb : Backed h store) (hp : passwordOf h email = none) :
    letIn hasher store email password = .error .noUser := by
  have hnone := hb.passwordOf_eq_none.1 hp
  rw [letIn]
  cases hc : store.credential? email with
  | none => rfl
  | some c =>
    rw [hb.account_of_credential? hc] at hnone
    cases hnone

/-- **The password of the ledger lets in, and no other one.** -/
theorem Backed.letIn_eq (hb : Backed h store) (hp : passwordOf h email = some p)
    (htells : Tells hasher h password) : ∃ id, letIn hasher store email password =
      if password = p then .ok id else .error .invalidPassword := by
  obtain ⟨id, hid, hp⟩ := Option.bind_eq_some_iff.1 hp
  obtain ⟨c, hc, rfl⟩ := hb.credential?_of_account hid
  obtain ⟨p', hp', hmade⟩ := hb.password c (Store.mem_of_credential? hc).1
  obtain rfl : p = p' := Option.some.inj (hp.symm.trans hp')
  refine ⟨c.id, ?_⟩
  rw [letIn, hc]
  dsimp only
  rw [htells _ hmade]
  by_cases hpassword : password = p
  · rw [if_pos hpassword, decide_eq_true hpassword]
  · rw [if_neg hpassword, decide_eq_false hpassword]

/-- **What is not about the account of an email leaves the credential of the email.** -/
theorem Backed.credential?_kept (hb : Backed h store) {made : Option (String × String)}
    {n : Option Notice} (hk : Rekeys store store' made n)
    (hn : ∀ x, n = some x → ¬ (ledger h).Concerns email x) :
    store'.credential? email = store.credential? email := by
  rw [Store.credential?, Store.credential?]
  cases hk with
  | quiet hk => rw [hk.credentials]
  | opened hmade hfree hid hcredentials =>
    have he := hn _ rfl
    rw [hcredentials, List.find?_append]
    simp_all [Ledger.Concerns]
  | given hc hcredentials => rw [hcredentials]
  | @rekeyed row password hash hmade hrow hcredentials =>
    have hother := hn _ rfl
    rw [hcredentials, Store.find?_map_eq (fun c => by rw [Credential.rekey_email])]
    change (store.credential? email).map _ = store.credential? email
    cases hc : store.credential? email with
    | none => rfl
    | some c =>
      have hid : c.id ≠ row.userId := fun hid =>
        hother ⟨row.userId, hb.owner hrow, hid ▸ hb.account_of_credential? hc⟩
      rw [Option.map_some, Credential.rekey, if_neg hid]

/-- A turn in which nothing is said of the account of an email lets in alike. -/
theorem Backed.letIn_kept {s : System} (hb : Backed h s.store) {turn : Turn}
    (hturn : ∀ r ∈ turn.replies s, ∀ n, r.notice? = some n → ¬ (ledger h).Concerns email n) :
    letIn hasher (turn.act s).store email password = letIn hasher s.store email password := by
  have hkept : (turn.act s).store.credential? email = s.store.credential? email := by
    cases turn with
    | serve setup r =>
      exact hb.credential?_kept (r.rekeys setup s) (hturn _ (List.mem_singleton_self _))
    | refuse events => rfl
  rw [letIn, letIn, hkept]

end Admission

/-! ### Logins and their history -/

/-- Surroundings that keep passwords as they are. -/
def withPlainPasswords : Setup :=
  { withoutPages with hasher := ⟨fun _ p => p, fun stored p => .ok (decide (p = stored))⟩ }

/-- Two users sign up, and one of them asks for a new password; from then on reset tokens cannot be
removed. -/
def annForgot : List Turn :=
  [.serve withPlainPasswords (.createUser [] .epoch "ann@example.com" "secret" "Ann"),
    .serve withPlainPasswords (.createUser [] .epoch "bob@example.com" "hidden" "Bob"),
    .serve withPlainPasswords (.forgotPassword [1] .epoch "ann@example.com"),
    .refuse [(.resets, .delete)]]

/-- A new password is set through the mailed token. -/
def annRenews : Turn :=
  .serve withPlainPasswords (.changePassword [] .epoch "MDE=" "new")

example : ["ann@example.com", "bob@example.com", "Ann@example.com"].map
    (passwordOf (replies .empty (annForgot ++ [annRenews]))) =
      [some "new", some "hidden", none] := by rfl

end Service
end SoilWatch
