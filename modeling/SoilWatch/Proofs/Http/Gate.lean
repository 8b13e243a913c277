/-
# The gate

Most paths stand behind a gate.  A request for one of them that carries no token, or a token that is
not good, is answered 401 with the reason (`Refused`), and nothing else of the request is looked at:
the number in its path, its query and its body make no difference.

A request that passes is an errand of the user whose session it is (`errand`): one request to a
service with the user filled in, and the way in which its answer is shown.  Values and points of a
device are asked for only if the user has the device.  An errand touches nothing but devices of the
user, except that a logout closes the sessions of the user.
-/

import SoilWatch.Proofs.Http.Traces
import SoilWatch.Proofs.Isolation
import SoilWatch.Proofs.Service.Turns

namespace SoilWatch
namespace Http

open Time (Instant)
open Service (Call Reachable)
open SoilWatch.Flow

/-- A request for a path behind the gate, by one of the methods of the path. -/
structure Offered (r : Request) (route : Route) : Prop where
  path : r.route? = some route
  gated : route.isPublic = false
  method : r.method ∈ route.methods
  whole : r.method ≠ "HEAD"

/-- The gate turns a request down, and why. -/
inductive Refused (cx : Context) (s : System) (r : Request) : Service.Error → Prop where
  | anonymous (h : r.bearer? = none) : Refused cx s r .unauthenticated
  | stray {token : String} {e : Service.Error} (h : r.bearer? = some token)
    (he : ((Service.Accounts.validateToken cx.opened token).run s).1 = .error e) : Refused cx s r e

/-- The gate lets a request pass that carries that token, and whose it is. -/
structure Passes (cx : Context) (s : System) (r : Request) (token : String) (user : User) :
    Prop where
  bearer : r.bearer? = some token
  valid : ((Service.Accounts.validateToken cx.opened token).run s).1 = .ok user

/-! ### Errands -/

/-- What a request comes to: a request to a service, and how its answer is shown.  It may be about a
device, which the user must have. -/
structure Errand where
  about : Option Int
  request : Service.Request
  shown : request.Answer → Response

/-- The errand of a request, or the answer that it cannot be read. -/
def errand (cx : Context) (token : String) (user : User) (r : Request) :
    Route → Except Response Errand
  | .logout => .ok ⟨none, .logout token, fun _ => .ofStatus 204⟩
  | .devices =>
    .ok ⟨none, .devices user.id, fun ds => .ofJson 200 (.list (ds.map Device.toJson))⟩
  | .provision => do
    let q ← readQuery ProvisionQuery.format r
    .ok ⟨none, .createDevice cx.contract user.id q.displayName,
      fun contract => .ofJson 201 (IssuedContract.toJson ⟨contract⟩)⟩
  | .device segment => do
    let id ← pathId segment
    if r.method = "PATCH" then
      let req ← readJson Renaming.format r
      .ok ⟨none, .rename user.id id req.displayName, fun d => .ofJson 200 d.toJson⟩
    else .ok ⟨none, .device user.id id, fun d => .ofJson 200 d.toJson⟩
  | .latest segment => do
    let id ← pathId segment
    .ok ⟨some id, .latest id, fun sample => .ofJson 200 sample.toJson⟩
  | .series key => do
    let q ← readQuery SeriesQuery.format r
    .ok ⟨some q.deviceId, .between q.deviceId key q.startTime cx.served,
      fun ps => .ofJson 200 (.list (ps.map Point.toJson))⟩
  | _ => .error methodNotAllowed

/-- Whether a user has a device of that number. -/
def owns (s : System) (user : User) (id : Int) : Bool :=
  (s.store.deviceById? id).any (·.userId = user.id)

/-- An errand carried out: the answer, and the state behind it. -/
def Errand.run (setup : Setup) (user : User) (x : Errand) (s : System) : Response × System :=
  if x.about.all (owns s user) then
    (answerOf (((x.request.call setup).run s).1.map x.shown), ((x.request.call setup).run s).2)
  else (.ofError (.notFound "device"), s)

/-- What becomes of a request that passes. -/
def carriedOut (setup : Setup) (user : User) (s : System) :
    Except Response Errand → Response × System
  | .ok x => x.run setup user s
  | .error rejection => (rejection, s)

/-- **What is done for a user:** nothing that others have is touched, and devices that are new or
have a new name are the user's. -/
structure ActsFor (u : Int) (s s' : System) : Prop where
  users : s'.store.users = s.store.users
  resets : s'.store.resets = s.store.resets
  others : s'.store.devices.filter (·.userId ≠ u) = s.store.devices.filter (·.userId ≠ u)
  series : s'.series = s.series
  outbox : s'.outbox = s.outbox

/-- A device that is not as before is the user's. -/
theorem ActsFor.own {u : Int} {s s' : System} (h : ActsFor u s s') {d : Device}
    (hd : d ∈ s'.store.devices) : d ∈ s.store.devices ∨ d.userId = u := by
  by_cases hu : d.userId = u
  · exact .inr hu
  · have hother : d ∈ s'.store.devices.filter (·.userId ≠ u) :=
      List.mem_filter.2 ⟨hd, decide_eq_true hu⟩
    rw [h.others] at hother
    exact .inl (List.mem_filter.1 hother).1

section Gate

variable {setup : Setup} {cx : Context} {s : System} {r : Request} {route : Route}

/-! ### What a handler comes to -/

/-- The answer of a handler, and the state behind it. -/
def handled (x : Call Response) (s : System) : Response × System :=
  (answerOf (x.run s).1, (x.run s).2)

/-- The answer of a service is shown. -/
theorem handled_bind_pure {α : Type} (x : Call α) (shown : α → Response) (s : System) :
    handled (x >>= fun a => pure (shown a)) s =
      (answerOf ((x.run s).1.map shown), (x.run s).2) := by
  rw [handled, run_bind]
  rcases x.run s with ⟨e | a, t⟩ <;> rfl

/-- What is asked about a device is asked if the user has it. -/
theorem handled_device_bind (user : User) (id : Int) (f : Int → Call Response) (s : System) :
    handled (Service.Provisioning.device (some user.id) id >>= fun d => f d.id) s =
      if owns s user id then handled (f id) s else (.ofError (.notFound "device"), s) := by
  rw [handled, run_bind, Service.Provisioning.run_device, owns]
  rcases hfound : s.store.deviceById? id with _ | d
  · rfl
  · have hid : d.id = id := by simpa using List.find?_some hfound
    rw [Option.filter_some, Option.any_some, ← hid]
    by_cases hu : decide (d.userId = user.id) = true
    · rw [if_pos hu, if_pos hu]
      rfl
    · rw [if_neg hu, if_neg hu]
      rfl

/-- An errand about a device. -/
theorem handled_about {α : Type} (user : User) (id : Int) (call : Int → Call α)
    (shown : α → Response) (s : System) :
    handled (Service.Provisioning.device (some user.id) id >>= fun d =>
      call d.id >>= fun a => pure (shown a)) s =
      if owns s user id then (answerOf (((call id).run s).1.map shown), ((call id).run s).2)
      else (.ofError (.notFound "device"), s) := by
  rw [← handled_bind_pure]
  exact handled_device_bind user id (fun id => call id >>= fun a => pure (shown a)) s

theorem handled_withPart {α : Type} (part : Except Response α) (go : α → Call Response)
    (s : System) : handled (withPart part go) s =
      match part with
      | .ok a => handled (go a) s
      | .error rejection => (rejection, s) := by
  cases part <;> rfl

/-- **Behind the gate, a request is the errand of its user.** -/
theorem handled_serveProtected (hr : Offered r route) (token : String) (user : User) :
    handled (serveProtected setup cx token user route r.method r) s =
      carriedOut setup user s (errand cx token user r route) := by
  have hmethod := hr.method
  have hwhole := hr.whole
  cases route with
  | users | login | resetRequest | passwordPage => cases hr.gated
  | logout =>
    have hpost : r.method = "POST" := by simpa [Route.methods] using hmethod
    rw [hpost]
    exact handled_bind_pure _ _ s
  | devices =>
    have hget : r.method = "GET" := by simpa [Route.methods, hwhole] using hmethod
    rw [hget]
    exact handled_bind_pure _ _ s
  | provision =>
    have hpost : r.method = "POST" := by simpa [Route.methods] using hmethod
    rw [errand, hpost]
    refine (handled_withPart _ _ s).trans ?_
    cases readQuery ProvisionQuery.format r with
    | error => rfl
    | ok q => exact handled_bind_pure _ _ s
  | device segment =>
    have hmethod : r.method = "GET" ∨ r.method = "PATCH" := by
      simpa [Route.methods, hwhole] using hmethod
    rcases hmethod with hget | hpatch
    · rw [errand, hget]
      refine (handled_withPart _ _ s).trans ?_
      cases pathId segment with
      | error => rfl
      | ok id => exact handled_bind_pure _ _ s
    · rw [errand, hpatch]
      refine (handled_withPart _ _ s).trans ?_
      cases pathId segment with
      | error => rfl
      | ok id =>
        refine (handled_withPart _ _ s).trans ?_
        cases readJson Renaming.format r with
        | error => rfl
        | ok req => exact handled_bind_pure _ _ s
  | latest segment =>
    have hget : r.method = "GET" := by simpa [Route.methods, hwhole] using hmethod
    rw [errand, hget]
    refine (handled_withPart _ _ s).trans ?_
    cases pathId segment with
    | error => rfl
    | ok id => exact handled_about user id (Service.Telemetry.latest setup) _ s
  | series key =>
    have hget : r.method = "GET" := by simpa [Route.methods, hwhole] using hmethod
    rw [errand, hget]
    refine (handled_withPart _ _ s).trans ?_
    cases readQuery SeriesQuery.format r with
    | error => rfl
    | ok q =>
      exact handled_about user q.deviceId
        (fun id => Service.Telemetry.between setup id key q.startTime cx.served) _ s

/-! ### What an errand touches -/

/-- The requests to the services that are made for a user. -/
inductive MadeFor (u : Int) : Service.Request → Prop where
  | logout (token : String) : MadeFor u (.logout token)
  | devices : MadeFor u (.devices u)
  | createDevice (random : Octets) (name : String) : MadeFor u (.createDevice random u name)
  | device (id : Int) : MadeFor u (.device u id)
  | rename (id : Int) (name : String) : MadeFor u (.rename u id name)
  | latest (id : Int) : MadeFor u (.latest id)
  | between (id : Int) (key : Measurement) (start stop : Instant) :
    MadeFor u (.between id key start stop)

theorem allow_of_readQuery {α : Type} {format : Wire.Format α} {rejection : Response}
    (h : readQuery format r = .error rejection) : rejection.allow = none := by
  unfold readQuery at h
  split at h <;> cases h
  rfl

theorem allow_of_pathId {segment : List Char} {rejection : Response}
    (h : pathId segment = .error rejection) : rejection.allow = none := by
  unfold pathId at h
  dsimp only at h
  split at h
  · cases h
    rfl
  · split at h <;> cases h
    rfl

theorem allow_of_readJson {α : Type} {format : Wire.Format α} {rejection : Response}
    (h : readJson format r = .error rejection) : rejection.allow = none := by
  unfold readJson checkLength at h
  split_ifs at h
  · cases h
    rfl
  · cases hread : format.read r.body with
    | ok a =>
      rw [hread] at h
      cases h
    | error f =>
      rw [hread] at h
      cases h
      unfold jsonRejection
      split <;> rfl
  · cases h
    rfl

/-- An errand is made for its user, closes sessions only if it is a logout, and announces no
methods; nor does the answer to a request that cannot be read. -/
def Proper (u : Int) (route : Route) : Except Response Errand → Prop
  | .ok x => MadeFor u x.request ∧ (route ≠ .logout → ∀ token, x.request ≠ .logout token) ∧
      ∀ answer, (x.shown answer).allow = none
  | .error rejection => rejection.allow = none

theorem errand_proper (token : String) (user : User) :
    Proper user.id route (errand cx token user r route) := by
  cases route with
  | users | login | resetRequest | passwordPage => rfl
  | logout => exact ⟨.logout token, fun hroute => absurd rfl hroute, fun _ => rfl⟩
  | devices => exact ⟨.devices, fun _ _ => nofun, fun _ => rfl⟩
  | provision =>
    rw [errand]
    cases hq : readQuery ProvisionQuery.format r with
    | error => exact allow_of_readQuery hq
    | ok q => exact ⟨.createDevice .., fun _ _ => nofun, fun _ => rfl⟩
  | device segment =>
    rw [errand]
    cases hid : pathId segment with
    | error => exact allow_of_pathId hid
    | ok id =>
      show Proper user.id _ (if r.method = "PATCH" then _ else _)
      split_ifs
      · cases hreq : readJson Renaming.format r with
        | error => exact allow_of_readJson hreq
        | ok req => exact ⟨.rename .., fun _ _ => nofun, fun _ => rfl⟩
      · exact ⟨.device id, fun _ _ => nofun, fun _ => rfl⟩
  | latest segment =>
    rw [errand]
    cases hid : pathId segment with
    | error => exact allow_of_pathId hid
    | ok id => exact ⟨.latest id, fun _ _ => nofun, fun _ => rfl⟩
  | series key =>
    rw [errand]
    cases hq : readQuery SeriesQuery.format r with
    | error => exact allow_of_readQuery hq
    | ok q => exact ⟨.between .., fun _ _ => nofun, fun _ => rfl⟩

/-- A device that is created for a user is no device of somebody else. -/
theorem others_createDevice {u : Int} (random : Octets) (name : String) (s : System) :
    (((Service.Request.createDevice random (some u) name).call setup).run s).2.store.devices.filter
      (·.userId ≠ u) = s.store.devices.filter (·.userId ≠ u) := by
  have hsteps : ((Service.Request.createDevice random (some u) name).call setup).Every
      (Service.Operates fun op => ∃ name contract, op = .createDevice u name contract) := by
    refine Service.Request.operates setup _ ?_
    rintro _ ⟨⟩
    exact ⟨_, _, rfl⟩
  refine hsteps.run_store (J := fun t => t.devices.filter (·.userId ≠ u) =
    s.store.devices.filter (·.userId ≠ u)) ?_ rfl
  rintro t op ⟨name, contract, rfl⟩ ht
  rcases hrun : (Store.Operation.createDevice u name contract).run t with ⟨e | d, t'⟩
  · rwa [Store.Operation.run_eq_error hrun]
  · obtain ⟨-, -, -, -, -, rfl⟩ := Store.createDevice_eq_ok.1 hrun
    simpa [Store.addDevice, Store.newDevice] using ht

/-- **What is made for a user touches nothing that others have.** -/
theorem MadeFor.actsFor {u : Int} {request : Service.Request} (h : MadeFor u request)
    (hs : Reachable s) : ActsFor u s ((request.call setup).run s).2 := by
  have husers : ∀ op, request.Uses op → .users ∉ op.writes := by
    cases h <;> rintro _ ⟨⟩ <;> simp [Store.Operation.writes]
  have hresets : ∀ op, request.Uses op → .resets ∉ op.writes := by
    cases h <;> rintro _ ⟨⟩ <;> simp [Store.Operation.writes]
  refine ⟨(request.run_same setup husers s).1, (request.run_same setup hresets s).1, ?_,
    request.series_kept setup (by cases h <;> rintro _ _ ⟨⟩) s,
    request.outbox_kept setup (by cases h <;> rintro _ _ _ ⟨⟩) s⟩
  cases h with
  | createDevice => exact others_createDevice _ _ s
  | rename id name =>
    obtain ⟨-, -, hkept, -⟩ :=
      Service.Provisioning.alike_rename hs hs (Service.agree_refl u "" s) id name
    simp only [Service.Request.call, Service.Request.Answer]
    exact hkept.devices
  | _ =>
    refine congrArg _ (Service.Request.run_same setup (t := .devices) ?_ s).1
    rintro _ ⟨⟩
    all_goals simp [Store.Operation.writes]

/-- Only a logout closes sessions. -/
theorem MadeFor.sessions_kept {u : Int} {request : Service.Request} (h : MadeFor u request)
    (hlogout : ∀ token, request ≠ .logout token) :
    ((request.call setup).run s).2.store.sessions = s.store.sessions := by
  refine (request.run_same setup (t := .sessions) ?_ s).1
  cases h with
  | logout token => exact absurd rfl (hlogout token)
  | _ =>
    rintro _ ⟨⟩
    all_goals simp [Store.Operation.writes]

/-- A logout that is not refused closes the sessions of the user of the session. -/
theorem run_logout {token : String} {session : SessionRow}
    (hsession : s.store.sessionByToken? token = some session) (hf : s.store.forbidden = []) :
    (Service.Accounts.logout token).run s =
      (.ok (), { s with store := s.store.dropSessions session.userId }) := by
  have hdelete : Store.deleteUserSessions session.userId s.store =
      (.ok (s.store.sessions.filter (·.userId = session.userId)).length,
        s.store.dropSessions session.userId) :=
    Store.deleteUserSessions_eq_ok.2 ⟨.inr (by simp [hf]), rfl, rfl⟩
  simp only [Service.Accounts.logout, Service.lookStore, run_bind, run_look, hsession,
    Service.run_onStore, hdelete]
  rfl

/-! ### In front of the gate and behind it -/

/-- What is carried out announces no methods. -/
theorem Proper.allow {u : Int} {user : User} {x : Except Response Errand} (h : Proper u route x) :
    (carriedOut setup user s x).1.allow = none := by
  cases x with
  | error rejection => exact h
  | ok x =>
    show (x.run setup user s).1.allow = none
    unfold Errand.run
    split_ifs
    · dsimp only
      cases ((x.request.call setup).run s).1 with
      | error => rfl
      | ok answer => exact h.2.2 answer
    · rfl

/-- An answer without methods to announce is sent as it is. -/
theorem finish_of_offered (hr : Offered r route) {answer : Response} (h : answer.allow = none) :
    finish r answer = answer := by
  have hallowed : allowed r = none := by
    unfold allowed
    rw [show r.segments?.bind Route.ofSegments? = some route from hr.path]
    exact if_pos hr.method
  rw [finish, hallowed, if_neg hr.whole, ← h]

theorem run_serve (hr : Offered r route) (s : System) : (serve setup cx r).run s =
    (gate cx r >>= fun passed =>
      serveProtected setup cx passed.1 passed.2 route r.method r).run s := by
  unfold serve
  rw [show r.segments?.bind Route.ofSegments? = some route from hr.path, if_neg hr.whole]
  dsimp only
  rw [hr.gated]
  rfl

/-- The gate lets a request pass or turns it down, and changes nothing. -/
theorem run_gate (cx : Context) (r : Request) (s : System) : (gate cx r).run s =
    ((match r.bearer? with
      | none => .error .unauthenticated
      | some token =>
        ((Service.Accounts.validateToken cx.opened token).run s).1.map (token, ·)), s) := by
  unfold gate
  cases r.bearer? with
  | none => rfl
  | some token =>
    dsimp only
    rw [run_bind, Store.run_validateToken_eq]
    cases s.store.answerTo cx.opened token <;> rfl

/-- **A request that is turned down at the gate is answered with the reason.** -/
theorem respond_of_refused (hr : Offered r route) {e : Service.Error} (h : Refused cx s r e) :
    (respond setup cx r).run s = (.ok (.ofError e), s) := by
  have hgate : (gate cx r).run s = (.error e, s) := by
    rw [run_gate]
    cases h with
    | anonymous h => rw [h]
    | stray h he =>
      rw [h]
      dsimp only
      rw [he]
      rfl
  rw [run_respond, run_serve hr, run_bind, hgate]
  exact Prod.ext (congrArg Except.ok (finish_of_offered hr rfl)) rfl

/-- **A request that passes is answered with what the errand comes to.** -/
theorem respond_of_passes (hr : Offered r route) {token : String} {user : User}
    (h : Passes cx s r token user) : (respond setup cx r).run s =
      (.ok (carriedOut setup user s (errand cx token user r route)).1,
        (carriedOut setup user s (errand cx token user r route)).2) := by
  have hgate : (gate cx r).run s = (.ok (token, user), s) := by
    rw [run_gate, h.bearer]
    dsimp only
    rw [h.valid]
    rfl
  have hhandled : handled (serveProtected setup cx token user route r.method r) s =
      carriedOut setup user s (errand cx token user r route) := handled_serveProtected hr token user
  rw [run_respond, run_serve hr, run_bind, hgate, ← hhandled]
  refine Prod.ext (congrArg Except.ok (finish_of_offered hr ?_)) rfl
  exact (congrArg (·.1.allow) hhandled).trans (errand_proper token user).allow

/-- The reasons of the gate. -/
theorem Refused.reason {e : Service.Error} (h : Refused cx s r e) :
    e = .unauthenticated ∨ e = .invalidToken ∨ e = .expiredToken := by
  cases h with
  | anonymous => exact .inl rfl
  | stray _ he =>
    rw [Store.run_validateToken] at he
    dsimp only at he
    split at he
    · exact .inr (.inl (Except.error.inj he).symm)
    · split_ifs at he
      · exact .inr (.inr (Except.error.inj he).symm)
      · split at he
        · exact .inr (.inl (Except.error.inj he).symm)
        · cases he

/-- The gate looks at nothing but the headers. -/
theorem Refused.congr {e : Service.Error} {r' : Request} (h : Refused cx s r e)
    (hheaders : r'.headers = r.headers) : Refused cx s r' e := by
  have hbearer := bearer?_eq hheaders
  cases h with
  | anonymous h => exact .anonymous (hbearer.trans h)
  | stray h he => exact .stray (hbearer.trans h) he

theorem refused_or_passes (cx : Context) (s : System) (r : Request) :
    (∃ e, Refused cx s r e) ∨ ∃ token user, Passes cx s r token user := by
  cases hbearer : r.bearer? with
  | none => exact .inl ⟨_, .anonymous hbearer⟩
  | some token =>
    cases hvalid : ((Service.Accounts.validateToken cx.opened token).run s).1 with
    | error e => exact .inl ⟨e, .stray hbearer hvalid⟩
    | ok user => exact .inr ⟨token, user, hbearer, hvalid⟩

/-- What is carried out for a user acts for the user. -/
theorem Proper.actsFor {user : User} {x : Except Response Errand} (h : Proper user.id route x)
    (hs : Reachable s) : ActsFor user.id s (carriedOut setup user s x).2 := by
  have hrefl : ActsFor user.id s s := ⟨rfl, rfl, rfl, rfl, rfl⟩
  cases x with
  | error rejection => exact hrefl
  | ok x =>
    show ActsFor user.id s (x.run setup user s).2
    unfold Errand.run
    split_ifs
    · exact h.1.actsFor hs
    · exact hrefl

theorem Proper.sessions_kept {user : User} {x : Except Response Errand}
    (h : Proper user.id route x) (hroute : route ≠ .logout) :
    (carriedOut setup user s x).2.store.sessions = s.store.sessions := by
  cases x with
  | error rejection => rfl
  | ok x =>
    show (x.run setup user s).2.store.sessions = _
    unfold Errand.run
    split_ifs
    · exact h.1.sessions_kept (h.2.1 hroute)
    · rfl

/-- A logout that is not refused closes the sessions of its user. -/
theorem carriedOut_logout {token : String} {user : User} (h : Passes cx s r token user)
    (hf : s.store.forbidden = []) : carriedOut setup user s (errand cx token user r .logout) =
      (.ofStatus 204, { s with store := s.store.dropSessions user.id }) := by
  obtain ⟨session, hsession, hid⟩ := Service.validateToken_eq_ok h.valid
  have hrun := run_logout hsession hf
  rw [hid] at hrun
  show (answerOf (((Service.Accounts.logout token).run s).1.map _),
    ((Service.Accounts.logout token).run s).2) = _
  rw [hrun]
  rfl

end Gate

/-- **Paths behind the gate are for users only.**  A request for one of them is turned down at the
gate or passes.  If it is turned down, for want of a good token, the answer is 401 with the reason,
it is the same for every request with these headers, and nothing is changed.  If it passes, the
answer and the state behind it are those of the errand, a request to a service that is made for the
user of the token; devices that are new or changed are the user's, and the sessions stay, but for a
logout, which closes those of the user and no others. -/
theorem gated_paths_are_for_users (setup : Setup) (cx : Context) (s : System) (hs : Reachable s)
    (r : Request) (route : Route) (hr : Offered r route) :
    ((∃ e, Refused cx s r e) ∨ ∃ token user, Passes cx s r token user) ∧
    (∀ e, Refused cx s r e →
      (e = .unauthenticated ∨ e = .invalidToken ∨ e = .expiredToken) ∧
      Response.ofError e = .ofJson 401 (.object [("error", .text e.message)]) ∧
      ∀ r' route', Offered r' route' → r'.headers = r.headers →
        (respond setup cx r').run s = (.ok (.ofError e), s)) ∧
    ∀ token user, Passes cx s r token user →
      (∀ x, errand cx token user r route = .ok x → MadeFor user.id x.request) ∧
      ∃ answer s', (respond setup cx r).run s = (.ok answer, s') ∧
        (answer, s') = carriedOut setup user s (errand cx token user r route) ∧
        ActsFor user.id s s' ∧
        (∀ d ∈ s'.store.devices, d ∈ s.store.devices ∨ d.userId = user.id) ∧
        (route ≠ .logout → s'.store.sessions = s.store.sessions) ∧
        (route = .logout → s.store.forbidden = [] → answer = .ofStatus 204 ∧
          s' = { s with store := s.store.dropSessions user.id }) := by
  refine ⟨refused_or_passes cx s r, fun e he => ⟨he.reason, ?_, fun r' route' hr' hheaders =>
    respond_of_refused hr' (he.congr hheaders)⟩, fun token user hpasses => ?_⟩
  · rcases he.reason with rfl | rfl | rfl <;> rfl
  · have hproper : Proper user.id route (errand cx token user r route) := errand_proper token user
    have hacts : ActsFor user.id s
        (carriedOut setup user s (errand cx token user r route)).2 := hproper.actsFor hs
    refine ⟨fun x hx => ?_, _, _, respond_of_passes hr hpasses, rfl, hacts,
      fun d hd => hacts.own hd, hproper.sessions_kept, ?_⟩
    · rw [hx] at hproper
      exact hproper.1
    · rintro rfl hf
      rw [carriedOut_logout hpasses hf]
      exact ⟨rfl, rfl⟩

/-- Ann logs out. -/
def annLeaves : Request :=
  ⟨"POST", "/logout", [("authorization", "Bearer t")], []⟩

/-- Ann's device is shown to nobody without a token, and her logout closes her session. -/
theorem nobody_is_refused_and_ann_leaves :
    (respond .standard atEpoch ⟨"GET", "/devices/1", [], []⟩).run annAndBob =
      (.ok (.ofError .unauthenticated), annAndBob) ∧
    (respond .standard atEpoch annLeaves).run annAndBob =
      (.ok (.ofStatus 204), { annAndBob with store := annAndBob.store.dropSessions 1 }) ∧
    annAndBob.store.sessions.length = 1 ∧ (annAndBob.store.dropSessions 1).sessions = [] := by
  have hs : Reachable annAndBob := ⟨⟨_, rfl⟩, ⟨_, rfl⟩⟩
  have hlook : Offered ⟨"GET", "/devices/1", [], []⟩ (.device ['1']) :=
    ⟨rfl, rfl, by decide, by decide⟩
  have hleave : Offered annLeaves .logout := ⟨rfl, rfl, by decide, by decide⟩
  have hpasses : Passes atEpoch annAndBob annLeaves "t"
      ⟨1, "ann@example.com", "Ann", .epoch, some .epoch⟩ := ⟨rfl, rfl⟩
  obtain ⟨-, hrefused, -⟩ := gated_paths_are_for_users .standard atEpoch annAndBob hs _ _ hlook
  obtain ⟨-, -, hpassed⟩ := gated_paths_are_for_users .standard atEpoch annAndBob hs _ _ hleave
  obtain ⟨-, -, hsame⟩ := hrefused _ (.anonymous rfl)
  obtain ⟨-, answer, s', hrun, -, -, -, -, hlogout⟩ := hpassed _ _ hpasses
  obtain ⟨rfl, rfl⟩ := hlogout rfl rfl
  exact ⟨hsame _ _ hlook rfl, hrun, rfl, rfl⟩

end Http
end SoilWatch
