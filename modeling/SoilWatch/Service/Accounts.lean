/-
# Accounts

Registration, login, sessions and forgotten passwords.

A session token is 32 random octets in hexadecimal.  A login closes all earlier sessions of the
user.  A reset token is of the same kind, but it leaves the service only as URL-safe base 64 inside
the link of a mail, and only that form is accepted back.  A token is good up to the instant at which
it expires, that instant included.  When a password is changed through a reset token all reset
tokens of the user are removed; if only that fails the new password stands.
-/

import SoilWatch.System
import SoilWatch.Text.Blank

namespace SoilWatch
namespace Service
namespace Accounts

open Time (Instant)

/-- The subject of the mail with a reset link. -/
def resetSubject : String := "Sprout Password Reset Request"

/-- A token made of random octets. -/
def tokenOf (random : Octets) : String :=
  Text.hex random

/-- The form in which a reset token is mailed. -/
def encodeToken (token : String) : String :=
  Text.Base64.encode .urlSafe (Text.Utf8.encode token)

/-- The reset token that a mailed form stands for. -/
def decodeToken? (encoded : String) : Option String :=
  (Text.Base64.decode? .urlSafe encoded).bind Text.Utf8.decode?

/-- The link that is mailed. -/
def resetLink (base token : String) : String :=
  base ++ "?token=" ++ encodeToken token

/-- Registers a user; `salt` is drawn for the hash of the password. -/
def createUser (setup : Setup) (salt : Octets) (now : Instant) (email password name : String) :
    Call User :=
  if (Text.trim email).isEmpty then .fail (.invalidInput "email must not be empty")
  else if password.isEmpty then .fail (.invalidInput "password must not be empty")
  else do
    let known ← lookStore (·.userByEmail? email)
    if known.isSome then .fail .userExists
    else
      let hash := setup.hasher.hash salt password
      match ← tryStore (Store.createUser email hash name now) with
      | .ok row => pure row.user
      | .error e =>
        if e.isConstraint then .fail .userExists
        else .fail (.persistence "create_user" e.message)

/-- Opens a session for who knows the password; `random` is drawn for the token. -/
def login (setup : Setup) (random : Octets) (now : Instant) (email password : String) :
    Call String := do
  match ← lookStore (·.userByEmail? email) with
  | none => .fail .noUser
  | some user =>
    match setup.hasher.verify user.passwordHash password with
    | .error f => .fail (.passwordHash f.message)
    | .ok false => .fail .invalidPassword
    | .ok true =>
      let token := tokenOf random
      let _ ← onStore "login"
        (Store.startSession user.id token now (now.addSeconds setup.auth.sessionTtl))
      pure token

/-- The user behind a session token. -/
def validateToken (now : Instant) (token : String) : Call User := do
  match ← lookStore (·.sessionByToken? token) with
  | none => .fail .invalidToken
  | some session =>
    if session.expiresAt < now then .fail .expiredToken
    else
      match ← lookStore (·.userById? session.userId) with
      | none => .fail .invalidToken
      | some row => pure row.user

/-- Closes all sessions of the user behind a session token, be it expired or not. -/
def logout (token : String) : Call Unit := do
  match ← lookStore (·.sessionByToken? token) with
  | none => .fail .invalidToken
  | some session =>
    let _ ← onStore "logout" (Store.deleteUserSessions session.userId)
    pure ()

/-- Hands a mail over. -/
def send (setup : Setup) (mail : Mail) : Call Unit :=
  match setup.mailer.refuse mail with
  | some reason => .fail (.email reason)
  | none =>
    .alter fun s => if setup.mailer.keeps then { s with outbox := s.outbox ++ [mail] } else s

/-- Stores a new reset token for a user and mails the link; `random` is drawn for the token. -/
def forgotPassword (setup : Setup) (random : Octets) (now : Instant) (email : String) :
    Call Unit := do
  match ← lookStore (·.userByEmail? email) with
  | none => .fail .noUser
  | some user =>
    let token := tokenOf random
    let _ ← onStore "forgot_pw"
      (Store.replaceReset user.id token (now.addSeconds setup.auth.resetTtl))
    let link := resetLink setup.auth.resetLinkBase token
    let vars := .object [("username", .text user.name), ("reset_link", .text link)]
    match setup.renderer Template.resetMailName vars with
    | .error cause => .fail (.template cause)
    | .ok body => send setup ⟨user.email, resetSubject, body⟩

/-- The number of the user behind a mailed reset token. -/
def validateReset (now : Instant) (encoded : String) : Call Int :=
  match decodeToken? encoded with
  | none => .fail .invalidToken
  | some token => do
    match ← lookStore (·.resetByToken? token) with
    | none => .fail .invalidToken
    | some row => if row.expiresAt < now then .fail .expiredToken else pure row.userId

/-- The user behind a mailed reset token. -/
def resetOwner (now : Instant) (encoded : String) : Call User := do
  let userId ← validateReset now encoded
  match ← lookStore (·.userById? userId) with
  | none => .fail .noUser
  | some row => pure row.user

/-- Sets a new password through a mailed reset token; `salt` is drawn for its hash. -/
def changePassword (setup : Setup) (salt : Octets) (now : Instant) (encoded password : String) :
    Call Unit :=
  if password.isEmpty then .fail (.invalidInput "password must not be empty")
  else do
    let userId ← validateReset now encoded
    let hash := setup.hasher.hash salt password
    let updated ← onStore "change_pw" (Store.changePassword userId hash)
    if updated then
      match ← tryStore (Store.deleteUserResets userId) with
      | .ok _ => pure ()
      | .error e => .fail (.resetCleanup e.message)
    else .fail .noUser

end Accounts
end Service
end SoilWatch
