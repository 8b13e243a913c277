/-
# What an error leaves behind

An operation of the store is one transaction, so an error leaves every row and every counter as it
was (`Store.Operation.run_eq_error`).  A request may run several transactions, and then an error of
a later one would stand beside what an earlier one has done.  There are two requests of that kind.
When the mail with a reset link cannot be made or sent, the reset token has already taken the place
of the older ones; when the reset tokens cannot be removed, the new password already stands.

`Request.Leaves` says this request by request and error by error.  It is proved call by call with
`Flow.FailsTo`, which goes through a call from its first step to the step that fails.
-/

import SoilWatch.Proofs.Service.Interleaving

namespace SoilWatch
namespace Flow

variable {σ ε ε' α β : Type} {s : σ} {Q : ε → σ → Prop}

/-- What holds of the error of a call and of the state behind it, if the call fails. -/
def FailsTo (x : Flow σ ε α) (s : σ) (Q : ε → σ → Prop) : Prop :=
  ∀ e s', x.run s = (.error e, s') → Q e s'

theorem failsTo_pure (a : α) : (pure a : Flow σ ε α).FailsTo s Q := by
  intro e s' h
  cases h

theorem failsTo_fail {e : ε} (h : Q e s) : (fail e : Flow σ ε α).FailsTo s Q := by
  intro e' s' h'
  cases h'
  exact h

theorem failsTo_alter (f : σ → σ) : (alter f : Flow σ ε Unit).FailsTo s Q := by
  intro e s' h
  cases h

/-- A composed call fails in its first part, or in its second behind the first. -/
theorem FailsTo.bind {x : Flow σ ε α} {f : α → Flow σ ε β} (hx : x.FailsTo s Q)
    (hf : ∀ a s', x.run s = (.ok a, s') → (f a).FailsTo s' Q) : (x >>= f).FailsTo s Q := by
  intro e s' h
  rw [run_bind] at h
  rcases hr : x.run s with ⟨e' | a, t⟩
  · rw [hr] at h
    cases h
    exact hx e s' hr
  · rw [hr] at h
    exact hf a t hr e s' h

theorem failsTo_look_bind {g : σ → α} {f : α → Flow σ ε β} (h : (f (g s)).FailsTo s Q) :
    (look g >>= f).FailsTo s Q :=
  h

end Flow

namespace Store

variable {s : Store}

/-- Changing the rows with a number changes nothing if there are none. -/
theorem map_ite_eq_self {α : Type} {number : α → Int} {f : α → α} {id : Int} {rows : List α}
    (h : (rows.filter (number · = id)).length = 0) :
    (rows.map fun r => if number r = id then f r else r) = rows := by
  have hnone : ∀ r ∈ rows, ¬ number r = id := by
    simpa [List.filter_eq_nil_iff] using List.eq_nil_of_length_eq_zero h
  exact (List.map_congr_left fun r hr => if_neg (hnone r hr)).trans (List.map_id _)

/-- Giving a password to nobody changes nothing. -/
theorem setPassword_eq_self {id : Int} (h : (s.users.filter (·.id = id)).length = 0)
    (passwordHash : String) : s.setPassword id passwordHash = s := by
  rw [setPassword, map_ite_eq_self h]

/-- Giving a name to no device changes nothing. -/
theorem setName_eq_self {id : Int} (h : Transaction.devicesWithId id s = 0) (displayName : String) :
    s.setName id displayName = s := by
  rw [setName, map_ite_eq_self h]

end Store

namespace Service

open Time (Instant)
open SoilWatch.Flow

variable {α β : Type} {s s' : System} {Q : Error → System → Prop} {setup : Setup}

/-! ### Operations inside a call -/

/-- An attempted operation goes on with its error in the store as it was, or behind its answer. -/
theorem failsTo_tryStore_bind (op : Store.Operation) {f : Except Store.Error op.Answer → Call β}
    (herror : ∀ e, (f (.error e)).FailsTo s Q)
    (hok : ∀ a t, op.run s.store = (.ok a, t) → (f (.ok a)).FailsTo { s with store := t } Q) :
    (tryStore op.run >>= f).FailsTo s Q := by
  intro e s' h
  change (f (op.run s.store).1).run { s with store := (op.run s.store).2 } = _ at h
  rcases hr : op.run s.store with ⟨e' | a, t⟩
  · obtain rfl := Store.Operation.run_eq_error hr
    rw [hr] at h
    exact herror e' e s' h
  · rw [hr] at h
    exact hok a t hr e s' h

/-- An operation fails in the store as it was, or the call goes on behind its answer. -/
theorem failsTo_onStore_bind {operation : String} (op : Store.Operation)
    {f : op.Answer → Call β} (herror : ∀ reason, Q (.persistence operation reason) s)
    (hok : ∀ a t, op.run s.store = (.ok a, t) → (f a).FailsTo { s with store := t } Q) :
    (onStore operation op.run >>= f).FailsTo s Q := by
  unfold onStore
  rw [LawfulMonad.bind_assoc]
  exact failsTo_tryStore_bind op (fun e => failsTo_fail (herror _)) hok

/-- A composed call that succeeds does so in both parts. -/
theorem run_bind_eq_ok {x : Call α} {f : α → Call β} {b : β} :
    (x >>= f).run s = (.ok b, s') ↔
      ∃ a t, x.run s = (.ok a, t) ∧ (f a).run t = (.ok b, s') := by
  rw [Flow.run_bind]
  rcases x.run s with ⟨e | a, t⟩ <;> simp

/-- An operation inside a call that succeeds was committed. -/
theorem of_run_onStore {operation : String} (op : Store.Operation) {a : op.Answer}
    (h : (onStore operation op.run).run s = (.ok a, s')) : op.run s.store = (.ok a, s'.store) := by
  rw [run_onStore] at h
  rcases hr : op.run s.store with ⟨e | b, t⟩
  · rw [hr] at h
    cases h
  · rw [hr] at h
    obtain ⟨hok, rfl⟩ := Prod.mk.inj h
    obtain rfl : b = a := Except.ok.inj hok
    rfl

/-- The store is that one. -/
def Kept (t : Store) : Error → System → Prop :=
  fun _ s' => s'.store = t

/-- **What a request that failed with that error has left in the store.**  It is the old store with
two exceptions: a mail that failed has a new reset token behind it, in the place of the older ones,
and a cleanup that failed has the new password of the owner of the reset token behind it. -/
def Request.Leaves (setup : Setup) (s s' : Store) : Request → Error → Prop
  | .forgotPassword random now email, e =>
    match e with
    | .template _ | .email _ =>
      ∃ user row, s.userByEmail? email = some user ∧
        s.replaceReset user.id (Accounts.tokenOf random) (now.addSeconds setup.auth.resetTtl) =
          (.ok row, s') ∧
        s' = s.putReset user.id (Accounts.tokenOf random) (now.addSeconds setup.auth.resetTtl)
    | _ => s' = s
  | .changePassword salt _ encoded password, e =>
    match e with
    | .resetCleanup _ =>
      ∃ token row user, Accounts.decodeToken? encoded = some token ∧
        s.resetByToken? token = some row ∧ user ∈ s.users ∧ user.id = row.userId ∧
        s' = s.setPassword user.id (setup.hasher.hash salt password)
    | _ => s' = s
  | _, _ => s' = s

/-! ### The calls of the services -/

namespace Accounts

theorem failsTo_createUser (salt : Octets) (now : Instant) (email password name : String) :
    (createUser setup salt now email password name).FailsTo s (Kept s.store) := by
  unfold createUser
  split_ifs
  · exact failsTo_fail rfl
  · exact failsTo_fail rfl
  · refine failsTo_look_bind ?_
    split_ifs
    · exact failsTo_fail rfl
    · refine failsTo_tryStore_bind (.createUser email _ name now) (fun e => ?_) fun _ _ _ => ?_
      · dsimp only
        split_ifs <;> exact failsTo_fail rfl
      · exact failsTo_pure _

theorem failsTo_login (random : Octets) (now : Instant) (email password : String) :
    (login setup random now email password).FailsTo s (Kept s.store) := by
  refine failsTo_look_bind ?_
  split
  · exact failsTo_fail rfl
  · split
    · exact failsTo_fail rfl
    · exact failsTo_fail rfl
    · exact failsTo_onStore_bind (.startSession _ _ now _) (fun _ => rfl)
        fun _ _ _ => failsTo_pure _

theorem failsTo_logout (token : String) : (logout token).FailsTo s (Kept s.store) := by
  refine failsTo_look_bind ?_
  split
  · exact failsTo_fail rfl
  · exact failsTo_onStore_bind (.deleteUserSessions _) (fun _ => rfl)
      fun _ _ _ => failsTo_pure _

theorem failsTo_forgotPassword (random : Octets) (now : Instant) (email : String) :
    (forgotPassword setup random now email).FailsTo s fun e s' =>
      Request.Leaves setup s.store s'.store (.forgotPassword random now email) e := by
  refine failsTo_look_bind ?_
  split
  · exact failsTo_fail rfl
  · rename_i user huser
    refine failsTo_onStore_bind (.replaceReset user.id _ _) (fun _ => rfl) fun row t hr => ?_
    obtain ⟨-, -, -, -, -, ht⟩ := Store.replaceReset_eq_ok.1 hr
    dsimp only
    split
    · exact failsTo_fail ⟨user, row, huser, hr, ht⟩
    · unfold send
      split
      · exact failsTo_fail ⟨user, row, huser, hr, ht⟩
      · exact failsTo_alter _

/-- A reset token is looked up in the store, and nothing is changed. -/
theorem run_validateReset (s : System) (now : Instant) (encoded : String) :
    (validateReset now encoded).run s =
      (match (decodeToken? encoded).bind s.store.resetByToken? with
        | none => .error .invalidToken
        | some row => if row.expiresAt < now then .error .expiredToken else .ok row.userId, s) := by
  unfold validateReset
  split
  · simp [*]
  · rename_i token htoken
    simp only [lookStore, run_bind, run_look, htoken, Option.bind_some]
    cases s.store.resetByToken? token with
    | none => rfl
    | some row =>
      dsimp only
      split <;> rfl

/-- A reset token that is accepted has a row. -/
theorem validateReset_eq_ok {now : Instant} {encoded : String} {userId : Int} {s' : System}
    (h : (validateReset now encoded).run s = (.ok userId, s')) : s' = s ∧
      ∃ token row, decodeToken? encoded = some token ∧ s.store.resetByToken? token = some row ∧
        row.userId = userId := by
  rw [run_validateReset] at h
  obtain ⟨hok, rfl⟩ := Prod.mk.inj h
  refine ⟨rfl, ?_⟩
  split at hok
  · cases hok
  · rename_i row hrow
    split_ifs at hok
    obtain ⟨token, htoken, hrow⟩ := Option.bind_eq_some_iff.1 hrow
    exact ⟨token, row, htoken, hrow, Except.ok.inj hok⟩

theorem failsTo_validateReset (now : Instant) (encoded : String) :
    (validateReset now encoded).FailsTo s fun e s' =>
      (e = .invalidToken ∨ e = .expiredToken) ∧ s' = s := by
  intro e s' h
  rw [run_validateReset] at h
  obtain ⟨he, rfl⟩ := Prod.mk.inj h
  refine ⟨?_, rfl⟩
  split at he
  · exact .inl (Except.error.inj he).symm
  · split_ifs at he
    exact .inr (Except.error.inj he).symm

theorem failsTo_changePassword (salt : Octets) (now : Instant) (encoded password : String) :
    (changePassword setup salt now encoded password).FailsTo s fun e s' =>
      Request.Leaves setup s.store s'.store (.changePassword salt now encoded password) e := by
  unfold changePassword
  split_ifs
  · exact failsTo_fail rfl
  · refine FailsTo.bind (fun e s' h => ?_) fun userId s' h => ?_
    · obtain ⟨rfl | rfl, rfl⟩ := failsTo_validateReset now encoded e s' h <;> rfl
    · obtain ⟨rfl, token, row, htoken, hrow, rfl⟩ := validateReset_eq_ok h
      refine failsTo_onStore_bind (.changePassword row.userId _) (fun _ => rfl)
        fun updated t hr => ?_
      obtain ⟨-, rfl, rfl⟩ := Store.changePassword_eq_ok.1 hr
      split_ifs with hn
      -- From here on the new password stands, so a failure leaves it behind.
      · have hn := of_decide_eq_true hn
        obtain ⟨user, huser⟩ := List.exists_mem_of_length_pos (Nat.pos_of_ne_zero hn)
        obtain ⟨hmem, hid⟩ := List.mem_filter.1 huser
        have hid : user.id = row.userId := of_decide_eq_true hid
        exact failsTo_tryStore_bind (.deleteUserResets row.userId)
          (fun e => failsTo_fail ⟨token, row, user, htoken, hrow, hmem, hid, by rw [hid]⟩)
          fun _ _ _ => failsTo_pure _
      · refine failsTo_fail (Store.setPassword_eq_self ?_ _)
        simpa using hn

end Accounts

namespace Provisioning

theorem failsTo_requireUser_bind {who : Caller} {f : Int → Call β}
    (h : ∀ userId, (f userId).FailsTo s (Kept s.store)) :
    (requireUser who >>= f).FailsTo s (Kept s.store) := by
  unfold requireUser
  split
  · exact h _
  · exact failsTo_fail rfl

theorem failsTo_displayName_bind {name : String} {f : String → Call β}
    (h : ∀ name, (f name).FailsTo s (Kept s.store)) :
    (displayName name >>= f).FailsTo s (Kept s.store) := by
  unfold displayName
  dsimp only
  split_ifs
  · exact failsTo_fail rfl
  · exact h _

theorem failsTo_createDevice (random : Octets) (who : Caller) (name : String) :
    (createDevice random who name).FailsTo s (Kept s.store) := by
  refine failsTo_requireUser_bind fun userId => failsTo_displayName_bind fun name => ?_
  exact failsTo_onStore_bind (.createDevice userId name _) (fun _ => rfl)
    fun _ _ _ => failsTo_pure _

/-- A completion that is turned down has committed, and has changed nothing. -/
theorem failsTo_completeDevice (address contract : String) :
    (completeDevice address contract).FailsTo s (Kept s.store) := by
  refine failsTo_onStore_bind (.completeDevice contract address) (fun _ => rfl)
    fun outcome t hr => ?_
  rcases Store.completeDevice_eq_ok.1 hr with _ | _ | _
  · exact failsTo_fail rfl
  · exact failsTo_fail rfl
  · exact failsTo_pure _

theorem failsTo_device (who : Caller) (id : Int) : (device who id).FailsTo s (Kept s.store) := by
  refine failsTo_requireUser_bind fun userId => failsTo_look_bind ?_
  split
  · exact failsTo_pure _
  · exact failsTo_fail rfl

theorem failsTo_rename (who : Caller) (id : Int) (name : String) :
    (rename who id name).FailsTo s (Kept s.store) := by
  refine failsTo_displayName_bind fun name => (failsTo_device who id).bind fun d s' h => ?_
  have hlooks : (device who id).Looks := steps_device (fun _ => rfl) who id
  obtain rfl : s' = s := by simpa [h] using hlooks.run_snd s
  refine failsTo_onStore_bind (.rename id name) (fun _ => rfl) fun renamed t hr => ?_
  obtain ⟨-, rfl, rfl⟩ := Store.rename_eq_ok.1 hr
  split_ifs with hn
  · exact failsTo_pure _
  · refine failsTo_fail (Store.setName_eq_self ?_ _)
    simpa using hn

end Provisioning

/-! ### Every request -/

/-- A request that runs no operation leaves the store, so it does when it fails. -/
theorem Request.failsTo_of_not_uses {r : Request} (h : ∀ op, ¬ r.Uses op) :
    (r.call setup).FailsTo s (Kept s.store) := by
  intro e s' hr
  rw [Kept, ← r.store_kept setup h s, hr]

/-- **A request that fails leaves the store as it was,** but for the two exceptions. -/
theorem Request.failsTo (s : System) (r : Request) :
    (r.call setup).FailsTo s fun e s' => Request.Leaves setup s.store s'.store r e := by
  cases r with
  | forgotPassword random now email => exact Accounts.failsTo_forgotPassword random now email
  | changePassword salt now encoded password =>
    exact Accounts.failsTo_changePassword salt now encoded password
  | createUser => exact Accounts.failsTo_createUser _ _ _ _ _
  | login => exact Accounts.failsTo_login _ _ _ _
  | logout => exact Accounts.failsTo_logout _
  | createDevice => exact Provisioning.failsTo_createDevice _ _ _
  | completeDevice => exact Provisioning.failsTo_completeDevice _ _
  | rename => exact Provisioning.failsTo_rename _ _ _
  | validateToken | validateReset | resetOwner | devices | device | lookupAddress
  | deviceByAddress | record | latest | between =>
    refine failsTo_of_not_uses ?_
    rintro _ ⟨⟩

/-- **What an error leaves behind.**  An operation of the store that fails leaves every row of every
table and every counter as it was, whatever events are refused.  So does a request, whatever becomes
of its mails and pages, except that a reset mail that failed leaves exactly what replacing the reset
tokens of the user leaves, and a cleanup that failed leaves exactly the new password of the owner of
the token. -/
theorem error_leaves_store :
    (∀ (op : Store.Operation) (s s' : Store) (e : Store.Error),
      op.run s = (.error e, s') → s' = s) ∧
    ∀ (setup : Setup) (r : Request) (s s' : System) (e : Error),
      (r.call setup).run s = (.error e, s') → Request.Leaves setup s.store s'.store r e :=
  ⟨fun _ _ _ _ => Store.Operation.run_eq_error, fun _ r s s' e => r.failsTo s e s'⟩

/-- A store with one user. -/
def oneUser : Store :=
  (Store.createUser "ann@example.com" "hash" "Ann" .epoch .empty).2

/-- Surroundings in which no page can be rendered. -/
def withoutPages : Setup :=
  { Setup.standard with renderer := fun _ _ => .error "no page" }

/-- An email cannot be used twice; a reset token is there although its mail could not be made. -/
theorem reset_token_without_mail :
    (Store.Operation.createUser "ann@example.com" "hash" "Bob" .epoch).run oneUser =
      (.error (.aborted "create_user" (.unique .email)), oneUser) ∧
    ((Request.forgotPassword [] .epoch "ann@example.com").call withoutPages).run
        ⟨oneUser, .empty, []⟩ =
      (.error (.template "no page"),
        ⟨oneUser.putReset 1 "" (Instant.epoch.addSeconds 3600), .empty, []⟩) ∧
    Request.Leaves withoutPages oneUser
      (oneUser.putReset 1 "" (Instant.epoch.addSeconds 3600))
      (.forgotPassword [] .epoch "ann@example.com") (.template "no page") := by
  have hoperation : (Store.Operation.createUser "ann@example.com" "hash" "Bob" .epoch).run oneUser =
      (.error (.aborted "create_user" (.unique .email)), oneUser) := by
    have h : ((Store.Operation.createUser "ann@example.com" "hash" "Bob" .epoch).run oneUser).1 =
        .error (.aborted "create_user" (.unique .email)) := by rfl
    exact Prod.ext h (error_leaves_store.1 _ _ _ _ (Prod.ext h rfl))
  have hrequest : ((Request.forgotPassword [] .epoch "ann@example.com").call withoutPages).run
      ⟨oneUser, .empty, []⟩ = (.error (.template "no page"),
        ⟨oneUser.putReset 1 "" (Instant.epoch.addSeconds 3600), .empty, []⟩) := by
    rfl
  exact ⟨hoperation, hrequest, error_leaves_store.2 _ _ _ _ _ hrequest⟩

end Service
end SoilWatch
