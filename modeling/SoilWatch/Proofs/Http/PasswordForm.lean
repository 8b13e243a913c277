/-
# What the answer to a new password says

The page of a reset link sends a form with a new password back, and the status of the answer tells
what has become of it.  It is 200 if and only if the password of a user was replaced: the user is the
one behind the mailed token, who is good for it when the request arrives and again when the password
is set, and the reset tokens of the user are gone, unless they may not be deleted (`Replaced`).  Every
other status belongs to one of seven reasons to turn the form down (`TurnedDown`), and then
everything is as it was.

The two sides exclude each other also for who looks at the stored hashes only, as long as the salt
that is drawn has not made one of them before (`Fresh`).
-/

import SoilWatch.Proofs.Http.Traces
import SoilWatch.Proofs.Isolation
import SoilWatch.Proofs.ResetTokens
import SoilWatch.Proofs.Store.Holders

namespace SoilWatch

open Time (Instant)
open SoilWatch.Flow

namespace Store

variable {s : Store} {user : UserRow}

/-- A user who is there gets the password, unless that is refused. -/
theorem run_changePassword (huser : user ∈ s.users) (hash : String) :
    s.changePassword user.id hash =
      if (.users, .update) ∈ s.forbidden then
        (.error (.aborted "change_password" (.forbidden .update .users)), s)
      else (.ok true, s.setPassword user.id hash) := by
  have hn : (s.users.filter (·.id = user.id)).length ≠ 0 :=
    usersWithId_ne_zero (List.mem_map_of_mem huser)
  split_ifs with hf
  · have hfails : Transaction.updateUser user.id (fun r => { r with passwordHash := hash }) s =
        .error (.forbidden .update .users) := if_pos ⟨hn, hf⟩
    rw [changePassword, transact, bind_eq_error.2 (.inl hfails)]
  · exact changePassword_eq_ok.2 ⟨.inr hf, by simp [hn], rfl⟩

/-- A user who has a reset token loses it, unless that is refused. -/
theorem run_deleteUserResets {row : ResetRow} (hrow : row ∈ s.resets) :
    s.deleteUserResets row.userId =
      if (.resets, .delete) ∈ s.forbidden then
        (.error (.aborted "delete_user_pw_reset_tokens" (.forbidden .delete .resets)), s)
      else (.ok (s.resets.filter (·.userId = row.userId)).length, s.dropResets row.userId) := by
  have hn : (s.resets.filter (·.userId = row.userId)).length ≠ 0 :=
    Nat.ne_of_gt (List.length_pos_of_mem (List.mem_filter.2 ⟨hrow, by simp⟩))
  split_ifs with hf
  · have hfails : Transaction.deleteResets row.userId s = .error (.forbidden .delete .resets) :=
      if_pos ⟨hn, hf⟩
    rw [deleteUserResets, transact, hfails]
  · exact deleteUserResets_eq_ok.2 ⟨.inr hf, rfl, rfl⟩

end Store

/-! ### Who is behind a mailed token -/

namespace Service

/-- A number belongs to one user in every state that can be reached. -/
theorem Reachable.numbered {s : System} (h : Reachable s) : s.store.Numbered := by
  obtain ⟨run, hrun⟩ := h.store
  rw [hrun]
  exact Store.numbered_after run

namespace Accounts

variable {setup : Setup} {s : System} {now : Instant} {encoded password : String} {user : UserRow}

/-- A mailed string is good for a user at a time: it is the encoding of a reset token of the user
that has not expired. -/
def GoodFor (store : Store) (now : Instant) (encoded : String) (user : UserRow) : Prop :=
  user ∈ store.users ∧
    ∃ row ∈ store.resets, row.userId = user.id ∧ encoded = encodeToken row.token ∧
      now ≤ row.expiresAt

/-- A mailed string is good for one user only, at any time. -/
theorem GoodFor.unique {store : Store} {now' : Instant} {user' : UserRow} (hs : store.Consistent)
    (hn : store.Numbered) (h : GoodFor store now encoded user)
    (h' : GoodFor store now' encoded user') : user' = user := by
  obtain ⟨huser, row, hrow, hid, rfl, -⟩ := h
  obtain ⟨huser', row', hrow', hid', hencoded, -⟩ := h'
  obtain rfl := List.inj_on_of_nodup_map hs.resetTokens hrow hrow' (encodeToken_inj hencoded)
  exact List.inj_on_of_nodup_map hn.unique huser' huser (hid'.symm.trans hid)

/-- What is good for a user is accepted. -/
theorem validateReset_of_goodFor (hs : s.store.Consistent)
    (h : GoodFor s.store now encoded user) :
    ((validateReset now encoded).run s).1 = .ok user.id := by
  obtain ⟨-, row, hrow, hid, hencoded, hle⟩ := h
  rw [run_validateReset, (resetByEncoded_eq_some hs).2 ⟨hrow, hencoded⟩]
  dsimp only
  rw [if_neg (Instant.not_lt.2 hle), hid]

/-- What is good for nobody is turned down, because it is unknown or has expired. -/
theorem validateReset_of_not_goodFor (hs : s.store.Consistent)
    (h : ∀ user, ¬ GoodFor s.store now encoded user) :
    ∃ e, (e = .invalidToken ∨ e = .expiredToken) ∧
      ((validateReset now encoded).run s).1 = .error e := by
  rw [run_validateReset]
  cases hfound : (decodeToken? encoded).bind s.store.resetByToken? with
  | none => exact ⟨.invalidToken, .inl rfl, rfl⟩
  | some row =>
    obtain ⟨hrow, hencoded⟩ := (resetByEncoded_eq_some hs).1 hfound
    obtain ⟨user, huser, hid⟩ := List.mem_map.1 (hs.resetUser (List.mem_map_of_mem hrow))
    refine ⟨.expiredToken, .inr rfl, if_pos (Instant.not_le.1 fun hle => ?_)⟩
    exact h user ⟨huser, row, hrow, hid.symm, hencoded, hle⟩

/-- The owner of a mailed token is the user for whom it is good. -/
theorem resetOwner_of_goodFor (hs : s.store.Consistent) (hn : s.store.Numbered)
    (h : GoodFor s.store now encoded user) :
    (resetOwner now encoded).run s = (.ok user.user, s) := by
  have hfound : s.store.userById? user.id = some user := hn.unique.find?_eq_some h.1 rfl
  rw [resetOwner, run_bind, run_validateReset_eq, validateReset_of_goodFor hs h]
  dsimp only
  rw [run_bind, lookStore, run_look]
  dsimp only
  rw [hfound]
  rfl

/-- **What a change of password leaves,** and in which of three ways it ends: it is refused, the
password stands but the reset tokens could not be deleted, or it stands and they are gone. -/
theorem run_changePassword (hs : s.store.Consistent) (h : GoodFor s.store now encoded user)
    (hp : password ≠ "") (salt : Octets) :
    (changePassword setup salt now encoded password).run s =
      if (.users, .update) ∈ s.store.forbidden then
        (.error (.persistence "change_pw"
          (Store.Error.aborted "change_password" (.forbidden .update .users)).message), s)
      else if (.resets, .delete) ∈ s.store.forbidden then
        (.error (.resetCleanup
          (Store.Error.aborted "delete_user_pw_reset_tokens" (.forbidden .delete .resets)).message),
          { s with store := s.store.setPassword user.id (setup.hasher.hash salt password) })
      else
        (.ok (), { s with
          store := (s.store.setPassword user.id (setup.hasher.hash salt password)).dropResets
            user.id }) := by
  obtain ⟨huser, row, hrow, hid, -⟩ := id h
  have hdelete := Store.run_deleteUserResets
    (s := s.store.setPassword user.id (setup.hasher.hash salt password)) hrow
  have hforbidden : (s.store.setPassword user.id (setup.hasher.hash salt password)).forbidden =
    s.store.forbidden := rfl
  rw [hid, hforbidden] at hdelete
  rw [changePassword, if_neg (by simpa using hp), run_bind, run_validateReset_eq,
    validateReset_of_goodFor hs h]
  dsimp only
  rw [run_bind, run_onStore, Store.run_changePassword huser]
  split_ifs with hupdate hcleanup
  · rfl
  · simp [Except.mapError, run_bind, tryStore, hdelete, hcleanup]
  · simp [Except.mapError, run_bind, tryStore, hdelete, hcleanup]

end Accounts
end Service

/-! ### Being turned down -/

namespace Http

open Service (Call Reachable)
open Service.Accounts

/-- A request brings the token of a reset link in its query and a new password in its form. -/
structure Brings (r : Request) (encoded : String) (form : PasswordForm) : Prop where
  query : readQuery LinkQuery.format r = .ok ⟨encoded⟩
  form : readForm PasswordForm.format r = .ok form

/-- **Why a new password is turned down,** with the status of the answer: the first of these reasons
that holds.  A token can expire between the time at which the request arrives and the time at which
the password is set. -/
inductive TurnedDown (cx : Context) (r : Request) (store : Store) : Nat → Prop where
  | query {answer : Response} (h : readQuery LinkQuery.format r = .error answer) :
    TurnedDown cx r store 400
  | form {status : Nat} {q : LinkQuery} {answer : Response}
    (hquery : readQuery LinkQuery.format r = .ok q)
    (h : readForm PasswordForm.format r = .error answer)
    (hstatus : status = 413 ∨ status = 415 ∨ status = 422) : TurnedDown cx r store status
  | token {encoded : String} {form : PasswordForm} (hbrings : Brings r encoded form)
    (h : ∀ user, ¬ GoodFor store cx.opened encoded user) : TurnedDown cx r store 401
  | mismatch {encoded : String} {form : PasswordForm} {user : UserRow}
    (hbrings : Brings r encoded form) (hgood : GoodFor store cx.opened encoded user)
    (h : form.first ≠ form.second) : TurnedDown cx r store 400
  | empty {encoded : String} {form : PasswordForm} {user : UserRow}
    (hbrings : Brings r encoded form) (hgood : GoodFor store cx.opened encoded user)
    (hsame : form.first = form.second) (h : form.first = "") : TurnedDown cx r store 400
  | expired {encoded : String} {form : PasswordForm} {user : UserRow}
    (hbrings : Brings r encoded form) (hgood : GoodFor store cx.opened encoded user)
    (hsame : form.first = form.second) (hp : form.first ≠ "")
    (h : ∀ user, ¬ GoodFor store cx.served encoded user) : TurnedDown cx r store 401
  | refused {encoded : String} {form : PasswordForm} {user : UserRow}
    (hbrings : Brings r encoded form) (hgood : GoodFor store cx.opened encoded user)
    (hsame : form.first = form.second) (hp : form.first ≠ "")
    (hserved : GoodFor store cx.served encoded user) (h : (.users, .update) ∈ store.forbidden) :
    TurnedDown cx r store 500

/-- A password may be replaced: the token is good for the user, twice, the two entries agree and are
not empty, and the change is not refused. -/
structure MayReplace (cx : Context) (r : Request) (store : Store) (form : PasswordForm)
    (user : UserRow) : Prop where
  brought : ∃ encoded, Brings r encoded form ∧ GoodFor store cx.opened encoded user ∧
    GoodFor store cx.served encoded user
  same : form.first = form.second
  nonempty : form.first ≠ ""
  allowed : (.users, .update) ∉ store.forbidden

/-- **A password was replaced:** the hash of exactly one user, by one made from the new password, with
the reset tokens of the user gone unless they may not be deleted, and nothing else. -/
structure Replaced (setup : Setup) (cx : Context) (s s' : System) (form : PasswordForm)
    (user : UserRow) : Prop where
  known : user ∈ s.store.users
  alone : ∀ row ∈ s.store.users, row.id = user.id → row = user
  users : s'.store.users = s.store.users.map fun row =>
    if row.id = user.id then { row with passwordHash := setup.hasher.hash cx.salt form.first }
    else row
  resets : s'.store.resets = if (.resets, .delete) ∈ s.store.forbidden then s.store.resets
    else s.store.resets.filter (·.userId ≠ user.id)
  sessions : s'.store.sessions = s.store.sessions
  devices : s'.store.devices = s.store.devices
  staging : s'.store.staging = s.store.staging
  counters : s'.store.counters = s.store.counters
  forbidden : s'.store.forbidden = s.store.forbidden
  series : s'.series = s.series
  outbox : s'.outbox = s.outbox

/-- Whether some user has another hash than before. -/
def Rekeyed (s s' : Store) : Prop :=
  ∃ row ∈ s.users, ∃ row' ∈ s'.users, row'.id = row.id ∧ row'.passwordHash ≠ row.passwordHash

/-- A salt has made none of the hashes that are stored. -/
def Fresh (setup : Setup) (cx : Context) (store : Store) : Prop :=
  ∀ row ∈ store.users, ∀ password, row.passwordHash ≠ setup.hasher.hash cx.salt password

variable {setup : Setup} {cx : Context} {r : Request} {s s' : System} {form : PasswordForm}
  {user : UserRow}

/-- A form that may replace a password is not turned down. -/
theorem MayReplace.not_turnedDown {store : Store} (h : MayReplace cx r store form user)
    (status : Nat) : ¬ TurnedDown cx r store status := by
  obtain ⟨encoded, ⟨hquery, hform⟩, hopened, hserved⟩ := h.brought
  -- What is read from a request is read only once.
  have hsame {encoded' : String} {form' : PasswordForm} (hb : Brings r encoded' form') :
      encoded' = encoded ∧ form' = form :=
    ⟨by simpa using hb.query.symm.trans hquery, by simpa using hb.form.symm.trans hform⟩
  intro hdown
  cases hdown with
  | query hno => simp [hno] at hquery
  | form _ hno => simp [hno] at hform
  | token hb hno =>
    obtain ⟨rfl, rfl⟩ := hsame hb
    exact hno user hopened
  | mismatch hb _ hne =>
    obtain ⟨rfl, rfl⟩ := hsame hb
    exact hne h.same
  | empty hb _ _ hempty =>
    obtain ⟨rfl, rfl⟩ := hsame hb
    exact h.nonempty hempty
  | expired hb _ _ _ hno =>
    obtain ⟨rfl, rfl⟩ := hsame hb
    exact hno user hserved
  | refused _ _ _ _ _ hf => exact h.allowed hf

/-- Whoever is turned down is told so. -/
theorem TurnedDown.status_ne {store : Store} {status : Nat} (h : TurnedDown cx r store status) :
    status ≠ 200 := by
  cases h with
  | form _ _ hstatus => omega
  | _ => decide

/-! ### The handler -/

/-- The status of a query that cannot be read. -/
theorem status_of_readQuery {α : Type} {f : Wire.Format α} {answer : Response}
    (h : readQuery f r = .error answer) : answer.status = 400 := by
  unfold readQuery at h
  split at h
  · cases h
  · obtain rfl := Except.error.inj h
    rfl

/-- The statuses of a form that cannot be read. -/
theorem status_of_readForm {α : Type} {f : Wire.Format α} {answer : Response}
    (h : readForm f r = .error answer) :
    answer.status = 413 ∨ answer.status = 415 ∨ answer.status = 422 := by
  unfold readForm checkLength at h
  split_ifs at h with htype hlong
  · obtain rfl := Except.error.inj h
    exact .inl rfl
  · change (f.readQuery r.body).mapError _ = _ at h
    cases hread : f.readQuery r.body with
    | ok => simp [hread, Except.mapError] at h
    | error =>
      rw [hread] at h
      obtain rfl := Except.error.inj h
      exact .inr (.inr rfl)
  · obtain rfl := Except.error.inj h
    exact .inr (.inl rfl)

/-- The page is one of the templates that are there. -/
theorem passwordPage_eq (hpages : setup.renderer = Template.render) (status : Nat) (name : String)
    (changed : Bool) (error : Option String) :
    ∃ page, passwordPage setup status name changed error = pure (.ofPage status page) := by
  unfold passwordPage
  rw [hpages]
  exact ⟨_, rfl⟩

/-- What a password leaves that was set, with the reset tokens deleted behind it or not. -/
theorem replaced_of_run (hn : s.store.Numbered) (hknown : user ∈ s.store.users)
    (hstore : s'.store = if (.resets, .delete) ∈ s.store.forbidden then
        s.store.setPassword user.id (setup.hasher.hash cx.salt form.first)
      else
        (s.store.setPassword user.id (setup.hasher.hash cx.salt form.first)).dropResets user.id)
    (hseries : s'.series = s.series) (houtbox : s'.outbox = s.outbox) :
    Replaced setup cx s s' form user := by
  have halone : ∀ row ∈ s.store.users, row.id = user.id → row = user :=
    fun row hrow hid => List.inj_on_of_nodup_map hn.unique hrow hknown hid
  refine ⟨hknown, halone, ?_, ?_, ?_, ?_, ?_, ?_, ?_, hseries, houtbox⟩ <;>
    · rw [hstore]
      split_ifs <;> rfl

/-- What the status of an answer says about the state behind it: a password was replaced, or the form
was turned down and nothing is changed. -/
def Settled (setup : Setup) (cx : Context) (r : Request) (s s' : System) (status : Nat) : Prop :=
  (status = 200 ∧ ∃ form user, MayReplace cx r s.store form user ∧
    Replaced setup cx s s' form user) ∨
  (TurnedDown cx r s.store status ∧ s' = s)

/-- A form whose token is good and whose entries agree is answered by what the change of password
comes to. -/
theorem settled_of_good (hpages : setup.renderer = Template.render) (hs : s.store.Consistent)
    (hn : s.store.Numbered) {encoded : String} (hbrings : Brings r encoded form)
    (hopened : GoodFor s.store cx.opened encoded user) (hsame : form.first = form.second) :
    Settled setup cx r s ((postPassword setup cx r).run s).2
      (answerOf ((postPassword setup cx r).run s).1).status := by
  have hpage := passwordPage_eq hpages
  unfold postPassword withPart
  rw [hbrings.query]
  dsimp only
  rw [hbrings.form]
  dsimp only
  rw [run_bind, resetOwner_of_goodFor hs hn hopened]
  dsimp only
  rw [if_neg (not_not.2 hsame), run_bind, run_attempt]
  by_cases hp : form.first = ""
  case pos =>
    obtain ⟨page, hpage⟩ := hpage 400 user.user.name false (some "password must not be empty")
    rw [changePassword, if_pos (by simpa using hp), run_fail]
    dsimp only
    rw [hpage]
    exact .inr ⟨.empty hbrings hopened hsame hp, rfl⟩
  by_cases hserved : ∃ user, GoodFor s.store cx.served encoded user
  case neg =>
    obtain ⟨e, hturned, he⟩ := validateReset_of_not_goodFor hs (not_exists.1 hserved)
    rw [changePassword_refused hp he]
    rcases hturned with rfl | rfl <;>
      exact .inr ⟨.expired hbrings hopened hsame hp (not_exists.1 hserved), rfl⟩
  obtain ⟨user', hserved⟩ := hserved
  obtain rfl := hopened.unique hs hn hserved
  obtain ⟨page, hpage⟩ := hpage 200 user'.user.name true none
  rw [run_changePassword hs hserved hp]
  split_ifs with hupdate hcleanup
  · exact .inr ⟨.refused hbrings hopened hsame hp hserved hupdate, rfl⟩
  · dsimp only
    rw [hpage]
    exact .inl ⟨rfl, _, _, ⟨⟨_, hbrings, hopened, hserved⟩, hsame, hp, hupdate⟩,
      replaced_of_run hn hopened.1 (if_pos hcleanup).symm rfl rfl⟩
  · dsimp only
    rw [hpage]
    exact .inl ⟨rfl, _, _, ⟨⟨_, hbrings, hopened, hserved⟩, hsame, hp, hupdate⟩,
      replaced_of_run hn hopened.1 (if_neg hcleanup).symm rfl rfl⟩

/-- **What becomes of a form with a new password.** -/
theorem postPassword_settled (hpages : setup.renderer = Template.render)
    (hs : s.store.Consistent) (hn : s.store.Numbered) :
    Settled setup cx r s ((postPassword setup cx r).run s).2
      (answerOf ((postPassword setup cx r).run s).1).status := by
  cases hquery : readQuery LinkQuery.format r with
  | error answer =>
    have hrun : postPassword setup cx r = pure answer := by
      simp only [postPassword, withPart, hquery]
    rw [hrun]
    refine .inr ⟨?_, rfl⟩
    show TurnedDown cx r s.store answer.status
    rw [status_of_readQuery hquery]
    exact .query hquery
  | ok q =>
  cases hform : readForm PasswordForm.format r with
  | error answer =>
    have hrun : postPassword setup cx r = pure answer := by
      simp only [postPassword, withPart, hquery, hform]
    rw [hrun]
    exact .inr ⟨.form hquery hform (status_of_readForm hform), rfl⟩
  | ok form =>
  have hbrings : Brings r q.token form := ⟨hquery, hform⟩
  by_cases hopened : ∃ user, GoodFor s.store cx.opened q.token user
  case neg =>
    obtain ⟨e, hturned, he⟩ := validateReset_of_not_goodFor hs (not_exists.1 hopened)
    have hrun : (postPassword setup cx r).run s = (.error e, s) := by
      simp only [postPassword, withPart, hquery, hform]
      rw [run_bind, resetOwner_refused he]
    rw [hrun]
    rcases hturned with rfl | rfl <;> exact .inr ⟨.token hbrings (not_exists.1 hopened), rfl⟩
  obtain ⟨user, hopened⟩ := hopened
  by_cases hsame : form.first = form.second
  case neg =>
    obtain ⟨page, hpage⟩ :=
      passwordPage_eq hpages 400 user.user.name false (some "Passwords do not match")
    have hrun : (postPassword setup cx r).run s = (.ok (.ofPage 400 page), s) := by
      simp only [postPassword, withPart, hquery, hform]
      rw [run_bind, resetOwner_of_goodFor hs hn hopened]
      dsimp only
      rw [if_pos hsame, hpage]
      rfl
    rw [hrun]
    exact .inr ⟨.mismatch hbrings hopened hsame, rfl⟩
  exact settled_of_good hpages hs hn hbrings hopened hsame

/-- A new password is served by its handler. -/
theorem serve_passwordPage (hmethod : r.method = "POST") (hroute : r.route? = some .passwordPage) :
    serve setup cx r = postPassword setup cx r := by
  unfold serve
  rw [show r.segments?.bind Route.ofSegments? = some .passwordPage from hroute, hmethod]
  rfl

/-! ### What the status tells -/

/-- A password that was replaced by a hash of a fresh salt is another one. -/
theorem Replaced.rekeyed (h : Replaced setup cx s s' form user) (hfresh : Fresh setup cx s.store) :
    Rekeyed s.store s'.store := by
  refine ⟨user, h.known, { user with passwordHash := setup.hasher.hash cx.salt form.first }, ?_,
    rfl, Ne.symm (hfresh user h.known _)⟩
  rw [h.users]
  exact List.mem_map.2 ⟨user, h.known, if_pos rfl⟩

/-- No hash is another one than itself. -/
theorem not_rekeyed_self {store : Store} (hn : store.Numbered) : ¬ Rekeyed store store := by
  rintro ⟨row, hrow, row', hrow', hid, hne⟩
  obtain rfl := List.inj_on_of_nodup_map hn.unique hrow hrow' hid.symm
  exact hne rfl

/-- **The answer to a new password tells what has become of it.**  In every state that can be
reached, whatever events are refused, and whatever the request carries, the status is 200 if and only
if the password of the user behind the token was replaced; if the salt is fresh, that is, if and only
if some user has another hash than before.  Every other status stands for the reason why the form was
turned down: then all is as it was, and a token that was good is still accepted as long as it lasts. -/
theorem password_status_truthful (setup : Setup) (hpages : setup.renderer = Template.render)
    (cx : Context) (s : System) (hs : Reachable s) (r : Request) (hmethod : r.method = "POST")
    (hroute : r.route? = some .passwordPage) :
    ∃ answer s', (respond setup cx r).run s = (.ok answer, s') ∧
      (answer.status = 200 ↔
        ∃ form user, MayReplace cx r s.store form user ∧ Replaced setup cx s s' form user) ∧
      (Fresh setup cx s.store → (answer.status = 200 ↔ Rekeyed s.store s'.store)) ∧
      (answer.status ≠ 200 → TurnedDown cx r s.store answer.status ∧ s' = s ∧
        ∀ encoded user now, GoodFor s.store now encoded user →
          (validateReset now encoded).run s' = (.ok user.id, s')) := by
  have hconsistent := hs.sound.consistent
  have hn := hs.numbered
  have hsettled : Settled setup cx r s _ _ := postPassword_settled hpages hconsistent hn
  refine ⟨_, _, run_respond setup cx r s, ?_⟩
  rw [serve_passwordPage hmethod hroute]
  generalize answerOf ((postPassword setup cx r).run s).1 = answer at hsettled ⊢
  generalize ((postPassword setup cx r).run s).2 = s' at hsettled ⊢
  have hfinish : (finish r answer).status = answer.status := rfl
  rw [hfinish]
  rcases hsettled with ⟨hstatus, form, user, hmay, hreplaced⟩ | ⟨hdown, rfl⟩
  · exact ⟨iff_of_true hstatus ⟨form, user, hmay, hreplaced⟩,
      fun hfresh => iff_of_true hstatus (hreplaced.rekeyed hfresh),
      fun hne => absurd hstatus hne⟩
  · refine ⟨iff_of_false hdown.status_ne ?_,
      fun _ => iff_of_false hdown.status_ne (not_rekeyed_self hn), fun _ => ⟨hdown, rfl, ?_⟩⟩
    · rintro ⟨form, user, hmay, -⟩
      exact hmay.not_turnedDown _ hdown
    · intro encoded user now hgood
      rw [run_validateReset_eq, validateReset_of_goodFor hconsistent hgood]

/-- Ann has forgotten her password. -/
def annForgot : System :=
  ⟨Store.empty.after [.call (.createUser "ann@example.com" "hash" "Ann" .epoch),
    .call (.replaceReset 1 "02" (Instant.epoch.addSeconds 60))], .empty, []⟩

/-- Ann types a new password twice, behind the link with her token. -/
def annsForm : Request :=
  ⟨"POST", "/pw/change?token=MDI=", [("content-type", "application/x-www-form-urlencoded")],
    Text.Utf8.encode "pw1=new&pw2=new"⟩

/-- Surroundings in which the hash of a password is the password. -/
def unhashed : Setup :=
  { Setup.standard with hasher := ⟨fun _ password => "=" ++ password, fun _ _ => .ok true⟩ }

theorem brings_annsForm : Brings annsForm "MDI=" ⟨"new", "new"⟩ := by
  have hquery : LinkQuery.format.readQuery annsForm.query = .ok ⟨"MDI="⟩ := by decide +kernel
  have hform : PasswordForm.format.readQuery annsForm.body = .ok ⟨"new", "new"⟩ := by
    decide +kernel
  have hmedia : ((annsForm.header? "content-type").map MediaType.isForm).getD false = true := by
    decide +kernel
  have hlength : checkLength annsForm = .ok () := if_neg (by decide +kernel)
  exact ⟨by rw [readQuery, hquery], by rw [readForm, if_pos hmedia, hlength, hform]; rfl⟩

theorem goodFor_ann : GoodFor annForgot.store .epoch "MDI="
    ⟨1, "ann@example.com", "Ann", "hash", .epoch, none⟩ :=
  ⟨List.mem_singleton_self _, _, List.mem_singleton_self _, rfl,
    decodeToken?_eq_some.1 (by rfl), by decide⟩

/-- Ann's password is replaced. -/
theorem anns_password_replaced : ∃ answer s',
    (respond unhashed atEpoch annsForm).run annForgot = (.ok answer, s') ∧ answer.status = 200 ∧
      Rekeyed annForgot.store s'.store := by
  obtain ⟨answer, s', hrun, -, hfresh, hdown⟩ := password_status_truthful unhashed rfl atEpoch
    annForgot ⟨⟨_, rfl⟩, ⟨[], rfl⟩⟩ annsForm rfl rfl
  have hmay : MayReplace atEpoch annsForm annForgot.store ⟨"new", "new"⟩ _ :=
    ⟨⟨_, brings_annsForm, goodFor_ann, goodFor_ann⟩, rfl, by decide, List.not_mem_nil⟩
  have hstatus : answer.status = 200 :=
    not_not.1 fun hne => hmay.not_turnedDown _ (hdown hne).1
  have hsalt : Fresh unhashed atEpoch annForgot.store := by
    intro row hrow password h
    obtain rfl := List.mem_singleton.1 hrow
    have hchars := congrArg String.toList h
    rw [show unhashed.hasher.hash atEpoch.salt password = "=" ++ password from rfl,
      String.toList_append] at hchars
    cases hchars
  exact ⟨answer, s', hrun, hstatus, (hfresh hsalt).1 hstatus⟩

end Http
end SoilWatch
