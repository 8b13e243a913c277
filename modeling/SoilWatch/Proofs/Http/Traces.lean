/-
# Requests that leave no trace

A request that only asks, and a request that is turned down, leave everything as it was: the
relational store, the points and the mails.

What only asks takes no step but looks at the state (`steps_serve`).  What is turned down is turned
down in time: a part of the request that cannot be read is answered before any service is called, a
service that fails for a reason that the caller is told has done nothing (`Request.failsCleanly`),
and what comes behind an operation that was carried out ends well or with a failure of the
machinery.  `Clean` puts the three together along a handler.
-/

import SoilWatch.Http.Routes
import SoilWatch.Proofs.Atomicity

namespace SoilWatch
namespace Http

open Time (Instant)
open Service (Call)
open SoilWatch.Flow

/-! ### Answers -/

/-- The answer to the result of a handler. -/
def answerOf : Except Service.Error Response → Response
  | .ok answer => answer
  | .error e => .ofError e

/-- A request is answered by its handler, and the answer is finished. -/
theorem run_respond (setup : Setup) (cx : Context) (r : Request) (s : System) :
    (respond setup cx r).run s =
      (.ok (finish r (answerOf ((serve setup cx r).run s).1)), ((serve setup cx r).run s).2) := by
  rw [respond, run_bind, run_attempt]
  dsimp only
  cases ((serve setup cx r).run s).1 <;> rfl

/-- An answer that turns a request down. -/
def Rejected (answer : Response) : Prop :=
  400 ≤ answer.status ∧ answer.status ≤ 499

/-- A failure of the machinery turns no request down. -/
theorem not_rejected_ofError {e : Service.Error} (h : statusOf e = 500) :
    ¬ Rejected (.ofError e) := by
  rintro ⟨-, hle⟩
  have hle : statusOf e ≤ 499 := hle
  omega

/-! ### Asking -/

section Asking

variable {α : Type} {P : (System → System) → Prop} {setup : Setup} {cx : Context} {r : Request}

theorem steps_withPart {part : Except Response α} {go : α → Call Response}
    (h : ∀ a, (go a).Every P) : (withPart part go).Every P := by
  unfold withPart
  split
  · exact h _
  · exact every_pure _

theorem steps_passwordPage (status : Nat) (name : String) (changed : Bool)
    (error : Option String) : (passwordPage setup status name changed error).Every P := by
  unfold passwordPage
  dsimp only
  split
  · exact every_pure _
  · exact every_fail _

variable (hlook : P id)
include hlook

theorem steps_gate : (gate cx r).Every P := by
  unfold gate
  split
  · exact every_fail _
  · exact (Service.Accounts.steps_validateToken hlook _ _).bind fun _ => every_pure _

theorem steps_getPasswordPage : (getPasswordPage setup cx r).Every P :=
  steps_withPart fun _ => (Service.Accounts.steps_resetOwner hlook _ _).bind fun _ =>
    steps_passwordPage ..

theorem steps_getDevices (user : User) : (getDevices user).Every P :=
  (Service.Provisioning.steps_devices hlook _).bind fun _ => every_pure _

theorem steps_getDevice (user : User) (segment : List Char) : (getDevice user segment).Every P :=
  steps_withPart fun _ => (Service.Provisioning.steps_device hlook _ _).bind fun _ => every_pure _

theorem steps_getLatest (user : User) (segment : List Char) :
    (getLatest setup user segment).Every P :=
  steps_withPart fun _ => (Service.Provisioning.steps_device hlook _ _).bind fun _ =>
    (Service.Telemetry.steps_latest hlook _).bind fun _ => every_pure _

theorem steps_getSeries (user : User) (key : Measurement) :
    (getSeries setup cx user key r).Every P :=
  steps_withPart fun _ => (Service.Provisioning.steps_device hlook _ _).bind fun _ =>
    (Service.Telemetry.steps_between hlook _ _ _ _).bind fun _ => every_pure _

/-- **What asks takes no step but looks.** -/
theorem steps_serve (h : r.method = "GET" ∨ r.method = "HEAD") : (serve setup cx r).Every P := by
  have hmethod : (if r.method = "HEAD" then "GET" else r.method) = "GET" := by
    rcases h with h | h <;> simp [h]
  unfold serve
  dsimp only
  rw [hmethod]
  split
  · rename_i route _
    split_ifs
    · cases route with
      | passwordPage => exact steps_getPasswordPage hlook
      | _ => exact every_pure _
    · refine (steps_gate hlook).bind fun passed => ?_
      cases route with
      | devices => exact steps_getDevices hlook _
      | device => exact steps_getDevice hlook _ _
      | latest => exact steps_getLatest hlook _ _
      | series => exact steps_getSeries hlook _ _
      | _ => exact every_pure _
  · exact (steps_gate hlook).bind fun _ => every_pure _

end Asking

end Http

/-! ### Failures that the caller is told -/

namespace Service

open Time (Instant)
open SoilWatch.Flow
open Http (statusOf)

variable {α β : Type} {setup : Setup} {s : System}

/-- A call that fails for a reason that the caller is told has changed nothing. -/
def FailsCleanly (x : Call α) (s : System) : Prop :=
  x.FailsTo s fun e s' => statusOf e < 500 → s' = s

-- A failure of the machinery is told to nobody.
theorem failsCleanly_forgotPassword (random : Octets) (now : Instant) (email : String) :
    FailsCleanly (Accounts.forgotPassword setup random now email) s := by
  have hmachinery : ¬ 500 < 500 := Nat.lt_irrefl 500
  refine failsTo_look_bind ?_
  split
  · exact failsTo_fail fun _ => rfl
  · rename_i user _
    refine failsTo_onStore_bind (.replaceReset user.id _ _)
      (fun _ hlt => absurd hlt hmachinery) fun _ _ _ => ?_
    dsimp only
    split
    · exact failsTo_fail fun hlt => absurd hlt hmachinery
    · unfold Accounts.send
      split
      · exact failsTo_fail fun hlt => absurd hlt hmachinery
      · exact failsTo_alter _

/-- Where a point cannot be written, the caller is not told why. -/
theorem failsTo_write (deviceId : Int) (key : Measurement) (value : Int) (now : Instant) :
    (Telemetry.write setup deviceId key value now).FailsTo s fun e _ => statusOf e = 500 := by
  unfold Telemetry.write guardSeries
  split
  · exact failsTo_fail rfl
  · exact failsTo_alter _

theorem failsCleanly_record (now : Instant) (m : SampleMessage) :
    FailsCleanly (Telemetry.record setup now m) s := by
  refine failsTo_look_bind ?_
  split
  · exact failsTo_fail fun _ => rfl
  · refine FailsTo.bind (fun e s' h hlt => ?_) fun _ _ _ e s' h hlt => ?_
    all_goals
      have hstatus := failsTo_write _ _ _ _ e s' h
      omega

/-- What a request has left in the store is what it found, if the caller is told. -/
theorem Request.Leaves.eq_of_lt {t t' : Store} {r : Request} {e : Error}
    (h : r.Leaves setup t t' e) (hlt : statusOf e < 500) : t' = t := by
  have hmachinery : ¬ 500 < 500 := Nat.lt_irrefl 500
  cases r with
  | forgotPassword | changePassword => cases e <;> first | exact h | exact absurd hlt hmachinery
  | _ => exact h

/-- **A request that fails for a reason that the caller is told has changed nothing.** -/
theorem Request.failsCleanly (setup : Setup) (r : Request) (s : System) :
    FailsCleanly (r.call setup) s := by
  by_cases hmail : ∃ random now email, r = .forgotPassword random now email
  · obtain ⟨random, now, email, rfl⟩ := hmail
    exact failsCleanly_forgotPassword random now email
  by_cases hpoint : ∃ now m, r = .record now m
  · obtain ⟨now, m, rfl⟩ := hpoint
    exact failsCleanly_record now m
  push Not at hmail hpoint
  intro e s' h hlt
  have hseries := r.series_kept setup hpoint s
  have houtbox := r.outbox_kept setup hmail s
  have hstore := (r.failsTo s e s' h).eq_of_lt hlt
  rw [h] at hseries houtbox
  cases s
  cases s'
  subst hseries houtbox hstore
  rfl

end Service

/-! ### Being turned down -/

namespace Http

open Time (Instant)
open Service (Call FailsCleanly)
open SoilWatch.Flow

variable {α : Type} {setup : Setup} {cx : Context} {r : Request} {s : System}

/-- If the handler turns the request down, everything is as it was. -/
def Clean (x : Call Response) (s : System) : Prop :=
  Rejected (answerOf (x.run s).1) → (x.run s).2 = s

theorem clean_of_looks {x : Call Response} (hx : x.Looks) : Clean x s :=
  fun _ => hx.run_snd s

theorem clean_withPart {part : Except Response α} {go : α → Call Response}
    (h : ∀ a, Clean (go a) s) : Clean (withPart part go) s := by
  unfold withPart
  split
  · exact h _
  · exact fun _ => rfl

/-- Behind a look, the rest has to be clean. -/
theorem clean_look_bind {x : Call α} {f : α → Call Response}
    (hx : x.Looks) (hf : ∀ a, Clean (f a) s) : Clean (x >>= f) s := by
  have hs : (x.run s).2 = s := hx.run_snd s
  unfold Clean
  rw [run_bind]
  rcases hr : x.run s with ⟨e | a, t⟩
  · rw [hr] at hs
    exact fun _ => hs
  · rw [hr] at hs
    obtain rfl : t = s := hs
    exact hf a

/-- Behind an operation that was carried out, nothing is turned down any more. -/
theorem clean_bind {x : Call α} {f : α → Call Response} (hx : FailsCleanly x s)
    (hf : ∀ a t, ¬ Rejected (answerOf ((f a).run t).1)) : Clean (x >>= f) s := by
  unfold Clean
  rw [run_bind]
  rcases hr : x.run s with ⟨e | a, t⟩
  · intro hrejected
    exact hx e t hr (Nat.lt_succ_of_le hrejected.2)
  · exact fun hrejected => absurd hrejected (hf a t)

theorem statusOf_lt_or_eq (e : Service.Error) : statusOf e < 500 ∨ statusOf e = 500 := by
  cases e <;> simp [statusOf]

/-- Behind an operation that was attempted, only a failure that the caller is told is turned down,
and it is answered without another operation. -/
theorem clean_attempt_bind {x : Call α} {f : Except Service.Error α → Call Response}
    (hx : FailsCleanly x s) (hok : ∀ a t, ¬ Rejected (answerOf ((f (.ok a)).run t).1))
    (hlooks : ∀ e, (f (.error e)).Looks)
    (herror : ∀ e t, statusOf e = 500 → ¬ Rejected (answerOf ((f (.error e)).run t).1)) :
    Clean (x.attempt >>= f) s := by
  unfold Clean
  rw [run_bind, run_attempt]
  dsimp only
  rcases hr : x.run s with ⟨e | a, t⟩
  · intro hrejected
    rcases statusOf_lt_or_eq e with hlt | heq
    · obtain rfl := hx e t hr hlt
      exact clean_of_looks (hlooks e) hrejected
    · exact absurd hrejected (herror e t heq)
  · exact fun hrejected => absurd hrejected (hok a t)

/-! ### The handlers -/

theorem not_rejected_pure {answer : Response} {status : Nat} (h : answer.status = status)
    (hlt : status < 400) (t : System) :
    ¬ Rejected (answerOf ((pure answer : Call Response).run t).1) := by
  rintro ⟨hle, -⟩
  have hle : 400 ≤ answer.status := hle
  omega

/-- A page that shows a change is not turned down, whether it can be rendered or not. -/
theorem not_rejected_passwordPage (name : String) (t : System) :
    ¬ Rejected (answerOf ((passwordPage setup 200 name true none).run t).1) := by
  unfold passwordPage
  dsimp only
  split
  · exact not_rejected_pure rfl (by decide : 200 < 400) t
  · exact not_rejected_ofError rfl

theorem clean_postUser : Clean (postUser setup cx r) s :=
  clean_withPart fun req => clean_bind
    ((Service.Request.createUser cx.salt cx.served req.email req.password req.name).failsCleanly
      setup s)
    fun _ => not_rejected_pure rfl (by decide : 201 < 400)

theorem clean_postLogin : Clean (postLogin setup cx r) s :=
  clean_withPart fun req => clean_bind
    ((Service.Request.login cx.secret cx.served req.email req.password).failsCleanly setup s)
    fun _ => not_rejected_pure rfl (by decide : 200 < 400)

theorem clean_postReset : Clean (postReset setup cx r) s := by
  refine clean_withPart fun q => clean_attempt_bind
    ((Service.Request.forgotPassword cx.secret cx.served q.email).failsCleanly setup s)
    (fun _ => not_rejected_pure rfl (by decide : 200 < 400)) (fun e => ?_) fun e t h => ?_
  · split
    · exact every_pure _
    · exact every_pure _
    · exact every_fail _
  · cases e with
    | noUser => cases h
    | _ => exact not_rejected_ofError h

theorem clean_postPassword : Clean (postPassword setup cx r) s := by
  refine clean_withPart fun q => clean_withPart fun form =>
    clean_look_bind (Service.Accounts.steps_resetOwner (fun _ => rfl) _ _) fun user => ?_
  split_ifs
  · exact clean_of_looks (steps_passwordPage ..)
  · refine clean_attempt_bind ((Service.Request.changePassword cx.salt cx.served q.token
      form.first).failsCleanly setup s) (fun _ => not_rejected_passwordPage _) (fun e => ?_)
      fun e t h => ?_
    · split
      · exact steps_passwordPage ..
      · exact steps_passwordPage ..
      · exact steps_passwordPage ..
      · exact every_fail _
    · cases e with
      | invalidInput => cases h
      | resetCleanup => exact not_rejected_passwordPage _ t
      | _ => exact not_rejected_ofError h

theorem clean_postLogout (token : String) : Clean (postLogout token) s :=
  clean_bind ((Service.Request.logout token).failsCleanly .standard s)
    fun _ => not_rejected_pure rfl (by decide : 204 < 400)

theorem clean_postDevice (user : User) : Clean (postDevice cx user r) s :=
  clean_withPart fun q => clean_bind
    ((Service.Request.createDevice cx.contract user.id q.displayName).failsCleanly .standard s)
    fun _ => not_rejected_pure rfl (by decide : 201 < 400)

theorem clean_patchDevice (user : User) (segment : List Char) :
    Clean (patchDevice user segment r) s :=
  clean_withPart fun id => clean_withPart fun req => clean_bind
    ((Service.Request.rename user.id id req.displayName).failsCleanly .standard s)
    fun _ => not_rejected_pure rfl (by decide : 200 < 400)

theorem clean_servePublic (route : Route) (method : String) :
    Clean (servePublic setup cx route method r) s := by
  unfold servePublic
  split
  · exact clean_postUser
  · exact clean_postLogin
  · exact clean_postReset
  · exact clean_of_looks (steps_getPasswordPage (fun _ => rfl))
  · exact clean_postPassword
  · exact fun _ => rfl

theorem clean_serveProtected (token : String) (user : User) (route : Route) (method : String) :
    Clean (serveProtected setup cx token user route method r) s := by
  unfold serveProtected
  split
  · exact clean_postLogout _
  · exact clean_of_looks (steps_getDevices (fun _ => rfl) _)
  · exact clean_postDevice _
  · exact clean_of_looks (steps_getDevice (fun _ => rfl) _ _)
  · exact clean_patchDevice _ _
  · exact clean_of_looks (steps_getLatest (fun _ => rfl) _ _)
  · exact clean_of_looks (steps_getSeries (fun _ => rfl) _ _)
  · exact fun _ => rfl

/-- **What is turned down has changed nothing,** in front of the gate and behind it. -/
theorem clean_serve : Clean (serve setup cx r) s := by
  have hgate : (gate cx r).Looks := steps_gate (fun _ => rfl)
  unfold serve
  dsimp only
  split
  · rename_i route _
    cases route.isPublic with
    | true => exact clean_servePublic _ _
    | false => exact clean_look_bind hgate fun passed => clean_serveProtected _ _ _ _
  · exact clean_look_bind hgate fun _ _ => rfl

/-- **A request that asks or is turned down leaves no trace.**  Every request is answered, and if
its method is `GET` or `HEAD`, or the status of the answer lies between 400 and 499, then no row and
no counter of the relational store, no point and no mail is other than before, whatever events are
refused and whatever becomes of mails and pages. -/
theorem asking_or_rejected_leaves_no_trace (setup : Setup) (cx : Context) (r : Request)
    (s : System) : ∃ answer s', (respond setup cx r).run s = (.ok answer, s') ∧
      (r.method = "GET" ∨ r.method = "HEAD" ∨ 400 ≤ answer.status ∧ answer.status ≤ 499 →
        s' = s) := by
  refine ⟨_, _, run_respond setup cx r s, ?_⟩
  rintro (hget | hhead | hrejected)
  · exact Looks.run_snd (steps_serve (fun _ => rfl) (.inl hget)) s
  · exact Looks.run_snd (steps_serve (fun _ => rfl) (.inr hhead)) s
  · exact clean_serve hrejected

/-- Somebody logs out with a token that no session has. -/
def strayLogout : Request :=
  ⟨"POST", "/logout", [("authorization", "Bearer t")], []⟩

/-- A logout that is turned down leaves the user's row. -/
theorem stray_logout_leaves_no_trace :
    ∃ answer, (respond .standard ⟨.epoch, .epoch, [], [], []⟩ strayLogout).run
        ⟨Service.oneUser, .empty, []⟩ = (.ok answer, ⟨Service.oneUser, .empty, []⟩) ∧
      answer.status = 401 := by
  obtain ⟨answer, s', hrun, hkept⟩ := asking_or_rejected_leaves_no_trace .standard
    ⟨.epoch, .epoch, [], [], []⟩ strayLogout ⟨Service.oneUser, .empty, []⟩
  have hstatus : answer.status = 401 := by
    have h : ((respond .standard ⟨.epoch, .epoch, [], [], []⟩ strayLogout).run
        ⟨Service.oneUser, .empty, []⟩).1.map Response.status = .ok 401 := by rfl
    rw [hrun] at h
    exact Except.ok.inj h
  obtain rfl := hkept (.inr (.inr (by omega)))
  exact ⟨answer, hrun, hstatus⟩

end Http
end SoilWatch
