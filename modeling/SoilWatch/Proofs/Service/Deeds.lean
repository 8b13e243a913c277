/-
# What requests have done to users and reset tokens

Three kinds of answers say something about users and their reset tokens (`Deed`): somebody has
signed up, a token was stored for an email, and a password was changed through a mailed token.  A
token that was stored counts also if its mail could not be made or sent, and a password that was
changed does not count if the reset tokens could not be removed.  For who asks about the passwords
themselves it counts all the same (`Notice`).

What a request has done to users and reset tokens can be told by its answer: there are four answers
with rows changed behind them, and every other one has left them as they were (`Outcome`).  For
requests that fail this is read off `Request.failsTo`; of those that succeed, most do not write to
the two tables at all.
-/

import SoilWatch.Proofs.Service.Login
import SoilWatch.Proofs.Service.Turns
import SoilWatch.Proofs.Text.Base64
import SoilWatch.Proofs.Text.Utf8

namespace SoilWatch
namespace Store

open Time (Instant)

variable {s s' : Store} {u u' : Int} {t t' email : String} {e e' : Instant}

/-! ### Users and reset tokens in the store -/

/-- The emails of the users, with their numbers. -/
def logins (s : Store) : List (String × Int) :=
  s.users.map fun r => (r.email, r.id)

theorem mem_logins_of_userByEmail? {user : UserRow} (h : s.userByEmail? email = some user) :
    (email, user.id) ∈ s.logins := by
  have hemail : user.email = email := by simpa using List.find?_some h
  exact List.mem_map.2 ⟨user, List.mem_of_find?_eq_some h, by rw [hemail]⟩

/-- **An email belongs to one user.** -/
theorem Consistent.login_unique (hs : s.Consistent) (h : (email, u) ∈ s.logins)
    (h' : (email, u') ∈ s.logins) : u' = u := by
  obtain ⟨r, hr, heq⟩ := List.mem_map.1 h
  obtain ⟨r', hr', heq'⟩ := List.mem_map.1 h'
  obtain ⟨rfl, rfl⟩ := Prod.mk.inj heq
  obtain ⟨hemail, rfl⟩ := Prod.mk.inj heq'
  rw [List.inj_on_of_nodup_map hs.emails hr' hr hemail]

/-- Users may be changed in what neither names nor numbers them. -/
theorem logins_mapUsers {f : UserRow → UserRow} (hf : ∀ r, (f r).email = r.email ∧ (f r).id = r.id) :
    logins { s with users := s.users.map f } = s.logins := by
  rw [logins, logins, List.map_map]
  exact List.map_congr_left fun r _ => Prod.ext (hf r).1 (hf r).2

/-- Whether the table has a reset token of that user and time. -/
def HasReset (s : Store) (userId : Int) (token : String) (expiresAt : Instant) : Prop :=
  ∃ row ∈ s.resets, row.userId = userId ∧ row.token = token ∧ row.expiresAt = expiresAt

theorem hasReset_congr (h : s'.resets = s.resets) : s'.HasReset u t e ↔ s.HasReset u t e := by
  rw [HasReset, HasReset, h]

theorem hasReset_putReset :
    (s.putReset u t e).HasReset u' t' e' ↔
      (u' = u ∧ t' = t ∧ e' = e) ∨ (s.HasReset u' t' e' ∧ u' ≠ u) := by
  constructor
  · rintro ⟨row, hrow, rfl, rfl, rfl⟩
    rcases List.mem_append.1 hrow with hm | hm
    · obtain ⟨hm, hne⟩ := List.mem_filter.1 hm
      exact .inr ⟨⟨row, hm, rfl, rfl, rfl⟩, by simpa using hne⟩
    · rw [List.mem_singleton.1 hm]
      exact .inl ⟨rfl, rfl, rfl⟩
  · rintro (⟨rfl, rfl, rfl⟩ | ⟨⟨row, hm, rfl, rfl, rfl⟩, hne⟩)
    · exact ⟨_, List.mem_append_right _ (List.mem_singleton_self _), rfl, rfl, rfl⟩
    · refine ⟨row, List.mem_append_left _ (List.mem_filter.2 ⟨hm, ?_⟩), rfl, rfl, rfl⟩
      simpa using hne

theorem hasReset_dropResets :
    (s.dropResets u).HasReset u' t' e' ↔ s.HasReset u' t' e' ∧ u' ≠ u := by
  constructor
  · rintro ⟨row, hrow, rfl, rfl, rfl⟩
    obtain ⟨hm, hne⟩ := List.mem_filter.1 hrow
    exact ⟨⟨row, hm, rfl, rfl, rfl⟩, by simpa using hne⟩
  · rintro ⟨⟨row, hm, rfl, rfl, rfl⟩, hne⟩
    exact ⟨row, List.mem_filter.2 ⟨hm, by simpa using hne⟩, rfl, rfl, rfl⟩

/-- Two stores have the same users, as far as logins go, and the same reset tokens. -/
def SameResets (s s' : Store) : Prop :=
  s'.logins = s.logins ∧ s'.resets = s.resets

/-- The same keys are the same logins and reset tokens. -/
theorem SameKeys.sameResets (h : SameKeys s s') : SameResets s s' := by
  have hlogins (s : Store) : s.logins = s.credentials.map fun c => (c.email, c.id) := by
    rw [Store.credentials, List.map_map]
    rfl
  exact ⟨by rw [hlogins, hlogins, h.credentials], h.resets⟩

/-- A password changes neither logins nor reset tokens. -/
theorem sameResets_setPassword (s : Store) (id : Int) (passwordHash : String) :
    SameResets s (s.setPassword id passwordHash) :=
  ⟨logins_mapUsers fun r => by split <;> exact ⟨rfl, rfl⟩, rfl⟩

end Store

namespace Service

open Time (Instant)

variable {setup : Setup} {s s' : System}

/-! ### The form in which a token is mailed -/

namespace Accounts

/-- **A string stands for a token if and only if it is the encoding of the token.** -/
theorem decodeToken?_eq_some {encoded token : String} :
    decodeToken? encoded = some token ↔ encoded = encodeToken token := by
  simp only [decodeToken?, encodeToken, Option.bind_eq_some_iff, Text.Utf8.decode?_eq_some,
    Text.Base64.decode?_eq_some Text.Base64.clear_urlSafe]
  constructor
  · rintro ⟨_, rfl, rfl⟩
    rfl
  · rintro rfl
    exact ⟨_, rfl, rfl⟩

example : decodeToken? "MDI=" = some "02" := by rfl

/-- A padding that is missing, a bit that is left over, and an octet that begins no character. -/
example : ["MDI", "MDJ=", "_w=="].map decodeToken? = [none, none, none] := by rfl

/-- Different tokens are mailed in different forms. -/
theorem encodeToken_inj {t t' : String} (h : encodeToken t = encodeToken t') : t = t' :=
  Option.some.inj ((decodeToken?_eq_some.2 rfl).symm.trans (decodeToken?_eq_some.2 h))

end Accounts

open Accounts (encodeToken decodeToken? tokenOf)

/-! ### What replies say -/

/-- What a reply says about users and reset tokens. -/
inductive Deed where
  | signUp (email : String) (userId : Int)
  /-- A token was stored for an email, whatever became of the mail. -/
  | issue (email token : String) (expiresAt : Instant)
  /-- A password was changed through a mailed token, and the reset tokens were removed. -/
  | spend (encoded : String)

/-- What a reply says, if it says something. -/
def Reply.deed? : Reply → Option Deed
  | ⟨_, .createUser _ _ email _ _, .ok user⟩ => some (.signUp email user.id)
  | ⟨setup, .forgotPassword random now email, answer⟩ =>
    match answer with
    | .ok _ | .error (.template _) | .error (.email _) =>
      some (.issue email (Accounts.tokenOf random) (now.addSeconds setup.auth.resetTtl))
    | .error _ => none
  | ⟨_, .changePassword _ _ encoded _, .ok _⟩ => some (.spend encoded)
  | _ => none

/-- What a reply says about accounts and passwords. -/
inductive Notice where
  /-- A user has signed up. -/
  | account (email password : String) (id : Int)
  /-- A token was stored for an email, whatever became of the mail. -/
  | token (email token : String)
  /-- A password was set through a mailed token, whatever became of the reset tokens. -/
  | password (encoded password : String)

/-- What a reply says, if it says something. -/
def Reply.notice? : Reply → Option Notice
  | ⟨_, .createUser _ _ email password _, .ok user⟩ => some (.account email password user.id)
  | ⟨_, .forgotPassword random _ email, answer⟩ =>
    match answer with
    | .ok _ | .error (.template _) | .error (.email _) => some (.token email (tokenOf random))
    | .error _ => none
  | ⟨_, .changePassword _ _ encoded password, answer⟩ =>
    match answer with
    | .ok _ | .error (.resetCleanup _) => some (.password encoded password)
    | .error _ => none
  | _ => none

/-- A reply without a notice is no deed. -/
theorem Reply.deed?_eq_none {r : Reply} (h : r.notice? = none) : r.deed? = none := by
  rcases r with ⟨setup, request, answer⟩
  cases request with
  | createUser | changePassword =>
    cases answer with
    | ok => cases h
    | error => rfl
  | forgotPassword =>
    cases answer with
    | ok => cases h
    | error e => cases e <;> first | rfl | cases h
  | _ => rfl

namespace Accounts

/-- A user who has signed up is a row of the table. -/
theorem of_createUser {salt : Octets} {now : Instant} {email password name : String} {user : User}
    (h : (createUser setup salt now email password name).run s = (.ok user, s')) :
    ∃ row, s.store.createUser email (setup.hasher.hash salt password) name now =
      (.ok row, s'.store) ∧ user = row.user := by
  unfold createUser at h
  split_ifs at h
  · cases h
  · cases h
  · obtain ⟨known, t, hk, h⟩ := run_bind_eq_ok.1 h
    cases hk
    split_ifs at h
    · cases h
    · obtain ⟨r, t, hr, h⟩ := run_bind_eq_ok.1 h
      cases hr
      split at h
      · rename_i row hrow
        obtain ⟨hok, rfl⟩ := Prod.mk.inj h
        exact ⟨row, Prod.ext hrow rfl, (Except.ok.inj hok).symm⟩
      · split_ifs at h <;> cases h

/-- **What a mail that was sent leaves:** a new token of the user, in the place of all others, and
the mail itself. -/
theorem forgotPassword_eq_ok {random : Octets} {now : Instant} {email : String}
    (h : (forgotPassword setup random now email).run s = (.ok (), s')) :
    ∃ user row body, s.store.userByEmail? email = some user ∧
      s.store.replaceReset user.id (tokenOf random) (now.addSeconds setup.auth.resetTtl) =
        (.ok row, s'.store) ∧
      setup.renderer Template.resetMailName (.object [("username", .text user.name),
        ("reset_link", .text (resetLink setup.auth.resetLinkBase (tokenOf random)))]) = .ok body ∧
      setup.mailer.refuse ⟨user.email, resetSubject, body⟩ = none ∧
      s' = mailing setup ⟨user.email, resetSubject, body⟩ { s with store := s'.store } := by
  obtain ⟨found, t, hk, h⟩ := run_bind_eq_ok.1 h
  cases hk
  split at h
  · cases h
  rename_i user huser
  obtain ⟨row, t, hr, h⟩ := run_bind_eq_ok.1 h
  have hreplace := of_run_onStore (.replaceReset user.id _ _) hr
  have ht : t = { s with store := t.store } := by
    rw [run_onStore] at hr
    obtain ⟨-, rfl⟩ := Prod.mk.inj hr
    rfl
  dsimp only at h
  split at h
  · cases h
  rename_i body hbody
  unfold send at h
  split at h
  · cases h
  rename_i hsent
  have hs' : s' = mailing setup ⟨user.email, resetSubject, body⟩ t := (Prod.mk.inj h).2.symm
  have hstore : s'.store = t.store := by
    rw [hs', mailing]
    split <;> rfl
  exact ⟨user, row, body, huser, hreplace.trans (by rw [hstore]), hbody, hsent,
    hs'.trans (by rw [hstore, ← ht])⟩

/-- A mail that was sent has its token behind it. -/
theorem of_forgotPassword {random : Octets} {now : Instant} {email : String}
    (h : (forgotPassword setup random now email).run s = (.ok (), s')) :
    ∃ user row, s.store.userByEmail? email = some user ∧
      s.store.replaceReset user.id (tokenOf random) (now.addSeconds setup.auth.resetTtl) =
        (.ok row, s'.store) := by
  obtain ⟨user, row, -, huser, hreplace, -⟩ := forgotPassword_eq_ok h
  exact ⟨user, row, huser, hreplace⟩

/-- A password that was changed through a token has removed the reset tokens of its user. -/
theorem of_changePassword {salt : Octets} {now : Instant} {encoded password : String}
    (h : (changePassword setup salt now encoded password).run s = (.ok (), s')) :
    ∃ userId, (validateReset now encoded).run s = (.ok userId, s) ∧
      s'.store = (s.store.setPassword userId (setup.hasher.hash salt password)).dropResets userId := by
  unfold changePassword at h
  split_ifs at h
  · cases h
  · obtain ⟨userId, t, hv, hrest⟩ := run_bind_eq_ok.1 h
    obtain ⟨rfl, -⟩ := validateReset_eq_ok hv
    obtain ⟨updated, t', hr, hrest⟩ := run_bind_eq_ok.1 hrest
    have hr := of_run_onStore (.changePassword userId _) hr
    obtain ⟨-, -, ht⟩ := Store.changePassword_eq_ok.1 hr
    split_ifs at hrest
    · obtain ⟨r, t'', hd, hrest⟩ := run_bind_eq_ok.1 hrest
      cases hd
      split at hrest
      · rename_i n hn
        obtain ⟨-, rfl⟩ := Prod.mk.inj hrest
        obtain ⟨-, -, hd⟩ := Store.deleteUserResets_eq_ok.1 (Prod.ext hn rfl)
        exact ⟨userId, hv, by rw [← ht]; exact hd⟩
      · cases hrest
    · cases hrest

end Accounts

/-! ### What a request does -/

/-- **What a request has done to users and reset tokens,** told by its answer. -/
inductive Outcome (s s' : Store) : Reply → Prop where
  | signedUp {setup : Setup} {salt : Octets} {now : Instant} {email password name : String}
    {row : UserRow}
    (h : s.createUser email (setup.hasher.hash salt password) name now = (.ok row, s')) :
    Outcome s s' ⟨setup, .createUser salt now email password name, .ok row.user⟩
  | issued {setup : Setup} {random : Octets} {now : Instant} {email : String} {user : UserRow}
    {row : ResetRow} {answer : Except Error Unit} (huser : s.userByEmail? email = some user)
    (h : s.replaceReset user.id (tokenOf random) (now.addSeconds setup.auth.resetTtl) = (.ok row, s'))
    (hanswer : answer = .ok () ∨ (∃ cause, answer = .error (.template cause)) ∨
      ∃ reason, answer = .error (.email reason)) :
    Outcome s s' ⟨setup, .forgotPassword random now email, answer⟩
  | spent {setup : Setup} {salt : Octets} {now : Instant} {password token : String} {row : ResetRow}
    (hrow : s.resetByToken? token = some row)
    (h : s' = (s.setPassword row.userId (setup.hasher.hash salt password)).dropResets row.userId) :
    Outcome s s' ⟨setup, .changePassword salt now (encodeToken token) password, .ok ()⟩
  | uncleaned {setup : Setup} {salt : Octets} {now : Instant} {password token reason : String}
    {row : ResetRow} (hrow : s.resetByToken? token = some row)
    (h : s' = s.setPassword row.userId (setup.hasher.hash salt password)) :
    Outcome s s'
      ⟨setup, .changePassword salt now (encodeToken token) password, .error (.resetCleanup reason)⟩
  | other {r : Reply} (hr : r.notice? = none) (h : s.SameKeys s') : Outcome s s' r

/-- **What a request has done can be told by its answer.** -/
theorem Request.outcome (setup : Setup) (r : Request) (s : System) :
    Outcome s.store ((r.call setup).run s).2.store ⟨setup, r, ((r.call setup).run s).1⟩ := by
  rcases hr : (r.call setup).run s with ⟨e | a, s'⟩
  · have hleaves := r.failsTo s e s' hr
    have hkept (h : s'.store = s.store) : s.store.SameKeys s'.store := h ▸ .refl _
    cases r with
    | forgotPassword random now email =>
      cases e with
      | template cause =>
        obtain ⟨user, row, huser, hreplace, -⟩ := hleaves
        exact .issued huser hreplace (.inr (.inl ⟨cause, rfl⟩))
      | email reason =>
        obtain ⟨user, row, huser, hreplace, -⟩ := hleaves
        exact .issued huser hreplace (.inr (.inr ⟨reason, rfl⟩))
      | _ => exact .other rfl (hkept hleaves)
    | changePassword =>
      cases e with
      | resetCleanup =>
        obtain ⟨token, row, user, htoken, hrow, -, hid, hs'⟩ := hleaves
        obtain rfl := Accounts.decodeToken?_eq_some.1 htoken
        exact .uncleaned hrow (hid ▸ hs')
      | _ => exact .other rfl (hkept hleaves)
    | _ => exact .other rfl (hkept hleaves)
  · have hsame (husers : ∀ op, r.Uses op → .users ∉ op.writes)
        (hresets : ∀ op, r.Uses op → .resets ∉ op.writes) : s.store.SameKeys s'.store := by
      have husers := Request.run_same setup husers s
      have hresets := Request.run_same setup hresets s
      rw [hr] at husers hresets
      exact .of_sameTable husers hresets
    cases r with
    | createUser =>
      obtain ⟨row, hcreate, rfl⟩ := Accounts.of_createUser hr
      exact .signedUp hcreate
    | login =>
      obtain ⟨id, -, hs'⟩ := Accounts.of_login hr
      exact .other rfl (hs' ▸ Store.sameKeys_openSession ..)
    | forgotPassword =>
      obtain ⟨user, row, huser, hreplace⟩ := Accounts.of_forgotPassword hr
      exact .issued huser hreplace (.inl rfl)
    | changePassword =>
      obtain ⟨userId, hv, hs'⟩ := Accounts.of_changePassword hr
      obtain ⟨-, token, row, htoken, hrow, rfl⟩ := Accounts.validateReset_eq_ok hv
      obtain rfl := Accounts.decodeToken?_eq_some.1 htoken
      exact .spent hrow hs'
    | _ =>
      refine .other rfl (hsame ?_ ?_) <;>
        · rintro _ ⟨⟩
          all_goals simp [Store.Operation.writes]

/-! ### What becomes of reset tokens -/

/-- What becomes of users and reset tokens when a reply says this. -/
inductive Effect (s s' : Store) : Option Deed → Prop where
  | quiet (h : Store.SameResets s s') : Effect s s' none
  | signedUp {email : String} {u : Int} (hlogins : s'.logins = s.logins ++ [(email, u)])
    (hresets : s'.resets = s.resets) : Effect s s' (some (.signUp email u))
  | issued {email t : String} {u : Int} {e : Instant} (huser : (email, u) ∈ s.logins)
    (h : Store.SameResets (s.putReset u t e) s') : Effect s s' (some (.issue email t e))
  | spent {t : String} {u : Int} {e : Instant} (hrow : s.HasReset u t e)
    (h : Store.SameResets (s.dropResets u) s') : Effect s s' (some (.spend (encodeToken t)))

/-- **What a request does to users and reset tokens is what its reply says.** -/
theorem Request.effect (setup : Setup) (r : Request) (s : System) :
    Effect s.store ((r.call setup).run s).2.store
      (Reply.deed? ⟨setup, r, ((r.call setup).run s).1⟩) := by
  have houtcome := r.outcome setup s
  generalize (⟨setup, r, ((r.call setup).run s).1⟩ : Reply) = reply at houtcome ⊢
  generalize ((r.call setup).run s).2.store = s' at houtcome ⊢
  cases houtcome with
  | @signedUp _ _ _ email _ _ row h =>
    obtain ⟨-, -, hrow, hs'⟩ := Store.createUser_eq_ok.1 h
    refine .signedUp ?_ (by rw [hs'])
    rw [hs', hrow, Store.logins, Store.logins, List.map_append]
    rfl
  | issued huser h hanswer =>
    obtain ⟨-, -, -, -, -, hs'⟩ := Store.replaceReset_eq_ok.1 h
    rcases hanswer with rfl | ⟨_, rfl⟩ | ⟨_, rfl⟩ <;>
      exact .issued (Store.mem_logins_of_userByEmail? huser) (by rw [hs']; exact ⟨rfl, rfl⟩)
  | @spent _ _ _ _ token row hrow h =>
    have ht : row.token = token := by simpa using List.find?_some hrow
    refine .spent ⟨row, List.mem_of_find?_eq_some hrow, rfl, ht, rfl⟩ ?_
    rw [h]
    exact Store.sameResets_setPassword ..
  | uncleaned hrow h => exact .quiet (h ▸ Store.sameResets_setPassword ..)
  | other hr h =>
    rw [Reply.deed?_eq_none hr]
    exact .quiet h.sameResets

end Service
end SoilWatch
