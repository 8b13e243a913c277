/-
# What a request can touch

A request takes one step after the other.  A step looks at the state, runs an operation of the
store, hands the mail with a reset link over, or writes a point of a sample; which operations there
are and whether there can be a mail or a point is known from the request (`Request.Step`).  So every
state that a request leaves is the one it found but for what these steps touch: a sample is all that
reaches the series, a forgotten password all that reaches the mails, and a request that runs no
operation leaves the store.

`Request.steps` goes through the calls once.  What holds of every step holds of the call
(`Flow.Every.run_eq`), alone or among others.
-/

import SoilWatch.Proofs.Service.Request
import SoilWatch.Proofs.Store.History

namespace SoilWatch
namespace Flow

variable {σ ε ε' α β : Type} {P : (σ → σ) → Prop}

/-- Every step that a call can take changes the state in a way of that kind. -/
inductive Every (P : (σ → σ) → Prop) : Flow σ ε α → Prop where
  | done (r : Except ε α) : Every P (.done r)
  | step {act : σ → σ} {next : σ → Flow σ ε α} (hact : P act) (hnext : ∀ s, Every P (next s)) :
    Every P (.step act next)

theorem every_pure (a : α) : (pure a : Flow σ ε α).Every P := .done _

theorem every_fail (e : ε) : (fail e : Flow σ ε α).Every P := .done _

theorem every_look (hP : P id) (f : σ → α) : (look f : Flow σ ε α).Every P :=
  .step hP fun _ => .done _

theorem every_examine (hP : P id) (f : σ → Except ε α) : (examine f).Every P :=
  .step hP fun _ => .done _

theorem every_alter {f : σ → σ} (hP : P f) : (alter f : Flow σ ε Unit).Every P :=
  .step hP fun _ => .done _

theorem every_atomically {t : σ → Except ε α × σ} (hP : P fun s => (t s).2) :
    (atomically t).Every P :=
  .step hP fun _ => .done _

theorem Every.mono {Q : (σ → σ) → Prop} {x : Flow σ ε α} (hx : x.Every P) (h : ∀ f, P f → Q f) :
    x.Every Q := by
  induction hx with
  | done r => exact .done r
  | step hact _ ih => exact .step (h _ hact) ih

/-- A composed call takes the steps of its parts. -/
theorem Every.bind {x : Flow σ ε α} {f : α → Flow σ ε β} (hx : x.Every P)
    (hf : ∀ a, (f a).Every P) : (x >>= f).Every P := by
  induction hx with
  | done r =>
    cases r with
    | error e => exact .done _
    | ok a => exact hf a
  | step hact _ ih => exact .step hact ih

/-- A call that is attempted takes the same steps. -/
theorem Every.attempt {x : Flow σ ε α} (hx : x.Every P) :
    (x.attempt : Flow σ ε' (Except ε α)).Every P := by
  induction hx with
  | done r => exact .done _
  | step hact _ ih => exact .step hact ih

/-- Where no step changes what `f` reads off the state, the call does not either. -/
theorem Every.run_eq {γ : Type} {f : σ → γ} {x : Flow σ ε α}
    (hx : x.Every fun act => ∀ s, f (act s) = f s) (s : σ) : f (x.run s).2 = f s := by
  induction hx generalizing s with
  | done r => rfl
  | step hact _ ih => exact (ih s (_)).trans (hact s)

/-- A call that only looks at the state. -/
abbrev Looks (x : Flow σ ε α) : Prop :=
  x.Every fun act => ∀ s, act s = s

theorem Looks.run_snd {x : Flow σ ε α} (hx : x.Looks) (s : σ) : (x.run s).2 = s :=
  Every.run_eq (f := fun s => s) hx s

end Flow

namespace Service

open Time (Instant)
open SoilWatch.Flow

/-! ### Steps -/

/-- The step that runs an operation of the store. -/
def operating (op : Store.Operation) (s : System) : System :=
  { s with store := (op.run s.store).2 }

/-- The step that hands a mail over. -/
def mailing (setup : Setup) (mail : Mail) (s : System) : System :=
  if setup.mailer.keeps then { s with outbox := s.outbox ++ [mail] } else s

/-- The step that writes a point. -/
def writing (deviceId : Int) (key : Measurement) (value : Int) (now : Instant) (s : System) :
    System :=
  { s with series := s.series.write deviceId key value now }

section Calls

variable {α β : Type} {P : (System → System) → Prop} {setup : Setup}

theorem steps_tryStore (op : Store.Operation) (hP : P (operating op)) :
    (tryStore op.run).Every P :=
  every_atomically hP

theorem steps_onStore (operation : String) (op : Store.Operation) (hP : P (operating op)) :
    (onStore operation op.run).Every P := by
  refine (steps_tryStore op hP).bind ?_
  rintro (e | a)
  · exact every_fail _
  · exact every_pure a

theorem steps_guardSeries (operation : String) (call : SeriesCall) :
    (guardSeries setup operation call).Every P := by
  unfold guardSeries
  split
  · exact every_fail _
  · exact every_pure ()

-- Every call of the services looks at the state somewhere.
variable (hlook : P id)
include hlook

/-! ### The calls of the services -/

namespace Accounts

theorem steps_createUser (salt : Octets) (now : Instant) (email password name : String)
    (hP : ∀ hash, P (operating (.createUser email hash name now))) :
    (createUser setup salt now email password name).Every P := by
  unfold createUser
  split_ifs
  · exact every_fail _
  · exact every_fail _
  · refine (every_look hlook _).bind fun known => ?_
    split_ifs
    · exact every_fail _
    · refine (steps_tryStore (.createUser email _ name now) (hP _)).bind ?_
      rintro (e | row)
      · dsimp only
        split_ifs <;> exact every_fail _
      · exact every_pure _

theorem steps_login (random : Octets) (now : Instant) (email password : String)
    (hP : ∀ userId token expiresAt, P (operating (.startSession userId token now expiresAt))) :
    (login setup random now email password).Every P := by
  refine (every_look hlook _).bind ?_
  rintro (_ | user)
  · exact every_fail _
  · dsimp only
    split
    · exact every_fail _
    · exact every_fail _
    · exact (steps_onStore "login" (.startSession user.id _ now _) (hP ..)).bind
        fun _ => every_pure _

theorem steps_validateToken (now : Instant) (token : String) :
    (validateToken now token).Every P := by
  refine (every_look hlook _).bind ?_
  rintro (_ | session)
  · exact every_fail _
  · dsimp only
    split_ifs
    · exact every_fail _
    · refine (every_look hlook _).bind ?_
      rintro (_ | row)
      · exact every_fail _
      · exact every_pure _

theorem steps_logout (token : String)
    (hP : ∀ userId, P (operating (.deleteUserSessions userId))) : (logout token).Every P := by
  refine (every_look hlook _).bind ?_
  rintro (_ | session)
  · exact every_fail _
  · exact (steps_onStore "logout" (.deleteUserSessions session.userId) (hP _)).bind fun _ =>
      every_pure _

theorem steps_forgotPassword (random : Octets) (now : Instant) (email : String)
    (hP : ∀ userId token expiresAt, P (operating (.replaceReset userId token expiresAt)))
    (hmail : ∀ mail, P (mailing setup mail)) :
    (forgotPassword setup random now email).Every P := by
  refine (every_look hlook _).bind ?_
  rintro (_ | user)
  · exact every_fail _
  · refine (steps_onStore "forgot_pw" (.replaceReset user.id _ _) (hP ..)).bind fun _ => ?_
    dsimp only
    split
    · exact every_fail _
    · unfold send
      split
      · exact every_fail _
      · exact every_alter (hmail _)

theorem steps_validateReset (now : Instant) (encoded : String) :
    (validateReset now encoded).Every P := by
  unfold validateReset
  split
  · exact every_fail _
  · refine (every_look hlook _).bind ?_
    rintro (_ | row)
    · exact every_fail _
    · dsimp only
      split_ifs
      · exact every_fail _
      · exact every_pure _

theorem steps_resetOwner (now : Instant) (encoded : String) :
    (resetOwner now encoded).Every P := by
  refine (steps_validateReset hlook now encoded).bind fun userId => (every_look hlook _).bind ?_
  rintro (_ | row)
  · exact every_fail _
  · exact every_pure _

theorem steps_changePassword (salt : Octets) (now : Instant) (encoded password : String)
    (hP : ∀ userId hash, P (operating (.changePassword userId hash)))
    (hP' : ∀ userId, P (operating (.deleteUserResets userId))) :
    (changePassword setup salt now encoded password).Every P := by
  unfold changePassword
  split_ifs
  · exact every_fail _
  · refine (steps_validateReset hlook now encoded).bind fun userId =>
      (steps_onStore "change_pw" (.changePassword userId _) (hP ..)).bind fun updated => ?_
    split_ifs
    · refine (steps_tryStore (.deleteUserResets userId) (hP' _)).bind ?_
      rintro (e | n)
      · exact every_fail _
      · exact every_pure _
    · exact every_fail _

end Accounts

namespace Provisioning

omit hlook in
theorem steps_requireUser (who : Caller) : (requireUser who).Every P := by
  unfold requireUser
  split
  · exact every_pure _
  · exact every_fail _

omit hlook in
theorem steps_displayName (name : String) : (displayName name).Every P := by
  unfold displayName
  dsimp only
  split_ifs
  · exact every_fail _
  · exact every_pure _

omit hlook in
theorem steps_createDevice (random : Octets) (who : Caller) (name : String)
    (hP : ∀ userId name contract, who = some userId →
      P (operating (.createDevice userId name contract))) :
    (createDevice random who name).Every P := by
  cases who with
  | none => exact every_fail _
  | some userId =>
    unfold createDevice requireUser
    rw [pure_bind]
    refine (steps_displayName name).bind fun name => ?_
    exact (steps_onStore "create_device_provision" (.createDevice userId name _)
      (hP _ _ _ rfl)).bind fun _ => every_pure _

omit hlook in
theorem steps_completeDevice (address contract : String)
    (hP : P (operating (.completeDevice contract address))) :
    (completeDevice address contract).Every P := by
  refine (steps_onStore "complete_device_provision" (.completeDevice contract address) hP).bind
    ?_
  rintro (d | _ | id)
  · exact every_pure d
  · exact every_fail _
  · exact every_fail _

theorem steps_devices (who : Caller) : (devices who).Every P :=
  (steps_requireUser who).bind fun _ => every_look hlook _

theorem steps_device (who : Caller) (id : Int) : (device who id).Every P := by
  refine (steps_requireUser who).bind fun userId => (every_look hlook _).bind fun found => ?_
  split
  · exact every_pure _
  · exact every_fail _

theorem steps_rename (who : Caller) (id : Int) (name : String)
    (hP : ∀ name, P (operating (.rename id name))) : (rename who id name).Every P := by
  unfold rename
  refine (steps_displayName name).bind fun name => (steps_device hlook who id).bind fun d => ?_
  refine (steps_onStore "rename_device" (.rename id name) (hP _)).bind fun renamed => ?_
  split_ifs
  · exact every_pure _
  · exact every_fail _

theorem steps_lookupAddress (address : String) : (lookupAddress address).Every P :=
  every_look hlook _

theorem steps_deviceByAddress (address : String) : (deviceByAddress address).Every P := by
  refine (every_look hlook _).bind ?_
  rintro (_ | d)
  · exact every_fail _
  · exact every_pure d

end Provisioning

namespace Telemetry

omit hlook in
theorem steps_write {deviceId : Int} {key : Measurement} {value : Int} {now : Instant}
    (hwrite : P (writing deviceId key value now)) : (write setup deviceId key value now).Every P :=
  (steps_guardSeries _ _).bind fun _ => every_alter hwrite

theorem steps_record (now : Instant) (m : SampleMessage)
    (hwrite : ∀ deviceId key value, P (writing deviceId key value now)) :
    (record setup now m).Every P := by
  refine (every_look hlook _).bind ?_
  rintro (_ | d)
  · exact every_fail _
  · exact (steps_write (hwrite ..)).bind fun _ => steps_write (hwrite ..)

theorem steps_latestPoint (deviceId : Int) (key : Measurement) :
    (latestPoint setup deviceId key).Every P :=
  (steps_guardSeries _ _).bind fun _ => every_examine hlook _

theorem steps_latest (deviceId : Int) : (latest setup deviceId).Every P := by
  refine (steps_latestPoint hlook deviceId _).bind fun c =>
    (steps_latestPoint hlook deviceId _).bind fun t => ?_
  split
  · exact every_pure _
  · exact every_fail _

theorem steps_between (deviceId : Int) (key : Measurement) (start stop : Instant) :
    (between setup deviceId key start stop).Every P :=
  (steps_guardSeries _ _).bind fun _ => every_examine hlook _

end Telemetry

end Calls

/-! ### The steps of a request -/

namespace Request

/-- The operations that a request can run on the store. -/
inductive Uses : Request → Store.Operation → Prop where
  | createUser {salt : Octets} {now : Instant} {email password name : String} (hash : String) :
    Uses (.createUser salt now email password name) (.createUser email hash name now)
  | login {random : Octets} {now : Instant} {email password : String} (userId : Int)
    (token : String) (expiresAt : Instant) :
    Uses (.login random now email password) (.startSession userId token now expiresAt)
  | logout {token : String} (userId : Int) : Uses (.logout token) (.deleteUserSessions userId)
  | forgotPassword {random : Octets} {now : Instant} {email : String} (userId : Int)
    (token : String) (expiresAt : Instant) :
    Uses (.forgotPassword random now email) (.replaceReset userId token expiresAt)
  | changePassword {salt : Octets} {now : Instant} {encoded password : String} (userId : Int)
    (hash : String) :
    Uses (.changePassword salt now encoded password) (.changePassword userId hash)
  | spend {salt : Octets} {now : Instant} {encoded password : String} (userId : Int) :
    Uses (.changePassword salt now encoded password) (.deleteUserResets userId)
  | createDevice {random : Octets} {userId : Int} {name : String} (displayName contract : String) :
    Uses (.createDevice random (some userId) name) (.createDevice userId displayName contract)
  | completeDevice {address contract : String} :
    Uses (.completeDevice address contract) (.completeDevice contract address)
  | rename {who : Provisioning.Caller} {id : Int} {name : String} (displayName : String) :
    Uses (.rename who id name) (.rename id displayName)

/-- **What a step of a request can be.** -/
inductive Step (setup : Setup) : Request → (System → System) → Prop where
  | look (r : Request) : Step setup r id
  | operate {r : Request} {op : Store.Operation} (h : r.Uses op) : Step setup r (operating op)
  | mail {random : Octets} {now : Instant} {email : String} (mail : Mail) :
    Step setup (.forgotPassword random now email) (mailing setup mail)
  | point {now : Instant} {m : SampleMessage} (deviceId : Int) (key : Measurement) (value : Int) :
    Step setup (.record now m) (writing deviceId key value now)

/-- **Every step of a request is one that it can take.** -/
theorem steps (setup : Setup) (r : Request) : (r.call setup).Every (r.Step setup) := by
  have hlook : r.Step setup id := .look r
  cases r with
  | createUser =>
    exact Accounts.steps_createUser hlook _ _ _ _ _ fun hash => .operate (.createUser hash)
  | login => exact Accounts.steps_login hlook _ _ _ _ fun u t e => .operate (.login u t e)
  | validateToken => exact Accounts.steps_validateToken hlook ..
  | logout => exact Accounts.steps_logout hlook _ fun u => .operate (.logout u)
  | forgotPassword =>
    exact Accounts.steps_forgotPassword hlook _ _ _ (fun u t e => .operate (.forgotPassword u t e))
      .mail
  | validateReset => exact Accounts.steps_validateReset hlook ..
  | resetOwner => exact Accounts.steps_resetOwner hlook ..
  | changePassword =>
    exact Accounts.steps_changePassword hlook _ _ _ _
      (fun u hash => .operate (.changePassword u hash)) fun u => .operate (.spend u)
  | createDevice =>
    refine Provisioning.steps_createDevice _ _ _ fun userId name contract hwho => ?_
    subst hwho
    exact .operate (.createDevice name contract)
  | completeDevice => exact Provisioning.steps_completeDevice _ _ (.operate .completeDevice)
  | devices => exact Provisioning.steps_devices hlook ..
  | device => exact Provisioning.steps_device hlook ..
  | rename => exact Provisioning.steps_rename hlook _ _ _ fun name => .operate (.rename name)
  | lookupAddress => exact Provisioning.steps_lookupAddress hlook ..
  | deviceByAddress => exact Provisioning.steps_deviceByAddress hlook ..
  | record => exact Telemetry.steps_record hlook _ _ .point
  | latest => exact Telemetry.steps_latest hlook ..
  | between => exact Telemetry.steps_between hlook ..

/-! ### What a request leaves alone -/

variable (setup : Setup) {r : Request}

/-- Only a sample reaches the series. -/
theorem series_kept (h : ∀ now m, r ≠ .record now m) (s : System) :
    ((r.call setup).run s).2.series = s.series := by
  refine Every.run_eq (f := System.series) ((r.steps setup).mono fun act hact s => ?_) s
  cases hact with
  | look | operate => rfl
  | mail =>
    unfold mailing
    split <;> rfl
  | point => exact (h _ _ rfl).elim

/-- Only a forgotten password reaches the mails. -/
theorem outbox_kept (h : ∀ random now email, r ≠ .forgotPassword random now email) (s : System) :
    ((r.call setup).run s).2.outbox = s.outbox := by
  refine Every.run_eq (f := System.outbox) ((r.steps setup).mono fun act hact s => ?_) s
  cases hact with
  | look | operate | point => rfl
  | mail => exact (h _ _ _ rfl).elim

/-- A request that runs no operation of the store leaves the store. -/
theorem store_kept (h : ∀ op, ¬ r.Uses op) (s : System) :
    ((r.call setup).run s).2.store = s.store := by
  refine Every.run_eq (f := System.store) ((r.steps setup).mono fun act hact s => ?_) s
  cases hact with
  | look | point => rfl
  | operate hop => exact absurd hop (h _)
  | mail =>
    unfold mailing
    split <;> rfl

end Request

end Service
end SoilWatch
