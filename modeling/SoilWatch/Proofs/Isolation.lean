/-
# Users see their own devices only

Two states agree for a user if they hold the same session of the user, the same devices and the same
points of these devices, and the same of the user's own row but for the password hash (`Agree`).  A
request for devices or their points that carries the token of the session is answered alike in both,
and leaves them agreeing (`Alike`): whoever else has devices, and whatever these have measured, makes
no difference.  Reading is blind to the difference.  The only write is a new name for a device; it
comes behind the check whose device it is, so it does the same in both states and touches nobody
else (`KeepsOthers`).

In one state the same check has another consequence: the number of a device of somebody else and a
number that no device has are answered alike.
-/

import SoilWatch.Http.Routes
import SoilWatch.Proofs.Series
import SoilWatch.Proofs.Sessions
import SoilWatch.Proofs.Store.Consistency

namespace SoilWatch
namespace Service

open Time (Instant)
open SoilWatch.Flow

/-- A state that has come from the empty stores: its relational store by some run, its series store
by some writes. -/
structure Reachable (s : System) : Prop where
  store : ∃ run, s.store = Store.empty.after run
  series : ∃ writes, s.series = Series.ofWrites writes

/-- **What a user sees is the same in two states.**  Both refuse the same events, too. -/
structure Agree (u : Int) (token : String) (s s' : System) : Prop where
  user : (s.store.userById? u).map UserRow.user = (s'.store.userById? u).map UserRow.user
  session : s.store.sessionByToken? token = s'.store.sessionByToken? token
  devices : ∀ d : Device, d.userId = u → (d ∈ s.store.devices ↔ d ∈ s'.store.devices)
  points : ∀ d ∈ s.store.devices, d.userId = u → ∀ key millis,
    s.series.value? d.id key millis = s'.series.value? d.id key millis
  forbidden : s.store.forbidden = s'.store.forbidden

/-- **Nothing is changed but devices of a user.** -/
structure KeepsOthers (u : Int) (s s' : System) : Prop where
  users : s'.store.users = s.store.users
  sessions : s'.store.sessions = s.store.sessions
  resets : s'.store.resets = s.store.resets
  devices : s'.store.devices.filter (·.userId ≠ u) = s.store.devices.filter (·.userId ≠ u)
  staging : s'.store.staging = s.store.staging
  counters : s'.store.counters = s.store.counters
  forbidden : s'.store.forbidden = s.store.forbidden
  series : s'.series = s.series
  outbox : s'.outbox = s.outbox

theorem agree_refl (u : Int) (token : String) (s : System) : Agree u token s s :=
  ⟨rfl, rfl, fun _ _ => .rfl, fun _ _ _ _ _ => rfl, rfl⟩

theorem keepsOthers_refl (u : Int) (s : System) : KeepsOthers u s s :=
  ⟨rfl, rfl, rfl, rfl, rfl, rfl, rfl, rfl, rfl⟩

theorem Reachable.sound {s : System} (h : Reachable s) : s.store.Sound := by
  obtain ⟨run, hrun⟩ := h.store
  rw [hrun]
  exact Store.sound_after run

theorem Reachable.keyed {s : System} (h : Reachable s) : s.series.Keyed := by
  obtain ⟨writes, hwrites⟩ := h.series
  rw [hwrites]
  exact Series.keyed_ofWrites writes

/-- The device that a user finds under a number is the one that is the user's. -/
theorem ownDevice_eq_some {store : Store} (hs : store.Sound) {u id : Int} {d : Device} :
    (store.deviceById? id).filter (·.userId = u) = some d ↔
      d ∈ store.devices ∧ d.id = id ∧ d.userId = u := by
  rw [Option.filter_eq_some_iff, decide_eq_true_iff]
  constructor
  · rintro ⟨hd, hu⟩
    exact ⟨List.mem_of_find?_eq_some hd, by simpa using List.find?_some hd, hu⟩
  · rintro ⟨hd, hid, hu⟩
    exact ⟨Store.Unique.find?_eq_some hs.lifecycle.nodup hd hid, hu⟩

section Agree

variable {u : Int} {token : String} {s s' : System} (hs : Reachable s) (hs' : Reachable s')
  (h : Agree u token s s')
include hs hs' h

theorem Agree.devicesOf_eq : s.store.devicesOf u = s'.store.devicesOf u := by
  refine eq_of_increasing (hs.sound.ordered.filter _) (hs'.sound.ordered.filter _) fun d => ?_
  rw [Store.devicesOf, Store.devicesOf, List.mem_filter, List.mem_filter, decide_eq_true_iff]
  exact and_congr_left (h.devices d)

theorem Agree.ownDevice_eq (id : Int) : (s.store.deviceById? id).filter (·.userId = u) =
    (s'.store.deviceById? id).filter (·.userId = u) := by
  refine Option.ext fun d => ?_
  rw [ownDevice_eq_some hs.sound, ownDevice_eq_some hs'.sound]
  constructor
  · rintro ⟨hd, hid, hu⟩
    exact ⟨(h.devices d hu).1 hd, hid, hu⟩
  · rintro ⟨hd, hid, hu⟩
    exact ⟨(h.devices d hu).2 hd, hid, hu⟩

theorem Agree.channel_eq {d : Device} (hd : d ∈ s.store.devices) (hu : d.userId = u)
    (key : Measurement) : s.series.channel d.id key = s'.series.channel d.id key :=
  Series.channel_congr hs.keyed hs'.keyed (h.points d hd hu key)

end Agree

/-! ### Looking -/

section Calls

variable {u : Int} {token : String} {s s' : System}

/-- **A session token is answered alike,** because the hash of the password is not part of the
answer. -/
theorem blind_validateToken (h : Agree u token s s') {session : SessionRow}
    (hsession : s.store.sessionByToken? token = some session) (hu : session.userId = u)
    (now : Instant) : (Accounts.validateToken now token).Blind s s' := by
  refine ⟨_, Store.run_validateToken s now token, ?_⟩
  rw [Store.run_validateToken, ← h.session, hsession]
  subst hu
  have huser := h.user
  dsimp only
  cases hrow : s.store.userById? session.userId with
  | none =>
    rw [hrow, eq_comm, Option.map_none, Option.map_eq_none_iff] at huser
    rw [huser]
  | some row =>
    rw [hrow, eq_comm, Option.map_some, Option.map_eq_some_iff] at huser
    obtain ⟨row', hrow', heq⟩ := huser
    rw [hrow']
    dsimp only
    rw [heq]

/-- Who passes with a token is the user of its session. -/
theorem validateToken_eq_ok {now : Instant} {user : User}
    (h : ((Accounts.validateToken now token).run s).1 = .ok user) :
    ∃ session, s.store.sessionByToken? token = some session ∧ session.userId = user.id := by
  rw [Store.run_validateToken] at h
  dsimp only at h
  split at h
  · cases h
  · rename_i session hsession
    refine ⟨session, hsession, ?_⟩
    split_ifs at h
    split at h
    · cases h
    · rename_i row hrow
      obtain rfl := Except.ok.inj h
      exact (show row.id = session.userId by simpa using List.find?_some hrow).symm

namespace Provisioning

/-- A device is looked up among those of the user. -/
theorem run_device (s : System) (u id : Int) : (device (some u) id).run s =
    (match (s.store.deviceById? id).filter (·.userId = u) with
      | some d => .ok d
      | none => .error (.notFound "device"), s) := by
  simp only [device, requireUser, lookStore, run_bind, run_pure, run_look]
  cases (s.store.deviceById? id).filter (·.userId = u) <;> rfl

/-- A device that a user is given is the user's. -/
theorem device_eq_ok (hs : s.store.Sound) {id : Int} {d : Device}
    (h : (device (some u) id).run s = (.ok d, s)) :
    d ∈ s.store.devices ∧ d.id = id ∧ d.userId = u := by
  rw [run_device] at h
  have hok := (Prod.mk.inj h).1
  split at hok
  · rename_i hfound
    obtain rfl := Except.ok.inj hok
    exact (ownDevice_eq_some hs).1 hfound
  · cases hok

theorem blind_displayName (name : String) : (displayName name).Blind s s' := by
  unfold displayName
  dsimp only
  split_ifs
  · exact blind_fail _
  · exact blind_pure _

section Looking

variable (hs : Reachable s) (hs' : Reachable s') (h : Agree u token s s')
include hs hs' h

theorem blind_devices : (devices (some u)).Blind s s' :=
  blind_look (h.devicesOf_eq hs hs')

theorem blind_device (id : Int) : (device (some u) id).Blind s s' :=
  ⟨_, run_device s u id, by rw [run_device, h.ownDevice_eq hs hs']⟩

end Looking

/-! ### Renaming -/

/-- A device with a new name, if it has that number. -/
def named (id : Int) (name : String) (d : Device) : Device :=
  if d.id = id then { d with displayName := name } else d

theorem named_userId (id : Int) (name : String) (d : Device) :
    (named id name d).userId = d.userId := by
  unfold named
  split <;> rfl

theorem named_id (id : Int) (name : String) (d : Device) : (named id name d).id = d.id := by
  unfold named
  split <;> rfl

/-- The state with a new name for a device. -/
def setName (s : System) (id : Int) (name : String) : System :=
  { s with store := s.store.setName id name }

theorem setName_devices (s : System) (id : Int) (name : String) :
    (setName s id name).store.devices = s.store.devices.map (named id name) := rfl

/-- A new name for a device of a user changes no device of somebody else. -/
theorem keepsOthers_setName (hs : s.store.Sound) {d : Device} (hd : d ∈ s.store.devices)
    (hu : d.userId = u) (name : String) : KeepsOthers u s (setName s d.id name) := by
  refine ⟨rfl, rfl, rfl, ?_, rfl, rfl, rfl, rfl, rfl⟩
  have hkept : ∀ d' ∈ s.store.devices.filter (·.userId ≠ u), named d.id name d' = d' := by
    intro d' hd'
    obtain ⟨hd', hne⟩ := List.mem_filter.1 hd'
    refine if_neg fun hid => of_decide_eq_true hne ?_
    rw [hs.lifecycle.eq_of_id_eq hd' hd hid, hu]
  have howner : (fun d' : Device => decide (d'.userId ≠ u)) ∘ named d.id name =
      fun d' => decide (d'.userId ≠ u) :=
    funext fun d' => by rw [Function.comp_apply, named_userId]
  rw [setName_devices, List.filter_map, howner, List.map_congr_left hkept]
  exact List.map_id _

/-- Two states that agree for a user still do when a device has a new name in both. -/
theorem agree_setName (h : Agree u token s s') (id : Int) (name : String) :
    Agree u token (setName s id name) (setName s' id name) := by
  refine ⟨h.user, h.session, fun d hu => ?_, fun d hd hu => ?_, h.forbidden⟩
  · rw [setName_devices, setName_devices, List.mem_map, List.mem_map]
    refine exists_congr fun d' => and_congr_left fun hd' => h.devices d' ?_
    rw [← named_userId id name, hd', hu]
  · rw [setName_devices] at hd
    obtain ⟨d', hd', rfl⟩ := List.mem_map.1 hd
    rw [named_userId] at hu
    rw [named_id]
    exact h.points d' hd' hu

/-- A device that is there gets its new name, unless that is refused. -/
theorem run_renameDevice (s : System) {d : Device} (hd : d ∈ s.store.devices) (name : String) :
    (onStore "rename_device" (Store.rename d.id name)).run s =
      if (.devices, .update) ∈ s.store.forbidden then
        (.error (.persistence "rename_device"
          (Store.Error.aborted "rename_device" (.forbidden .update .devices)).message), s)
      else (.ok true, setName s d.id name) := by
  have hn : Store.Transaction.devicesWithId d.id s.store ≠ 0 :=
    Nat.ne_of_gt (List.length_pos_of_mem (List.mem_filter.2 ⟨hd, by simp⟩))
  have hrun : s.store.rename d.id name =
      if (.devices, .update) ∈ s.store.forbidden then
        (.error (.aborted "rename_device" (.forbidden .update .devices)), s.store)
      else (.ok true, s.store.setName d.id name) := by
    split_ifs with hf
    · have hfails : Store.Transaction.renameDevice d.id name s.store =
          .error (.forbidden .update .devices) := if_pos ⟨hn, hf⟩
      rw [Store.rename, Store.transact, Store.bind_eq_error.2 (.inl hfails)]
    · exact Store.rename_eq_ok.2 ⟨.inr hf, by simp [hn], rfl⟩
  rw [run_onStore, hrun]
  split_ifs <;> rfl

/-- What becomes of two states that agree for a user: they agree again, and each has changed in
nothing but devices of the user. -/
def Isolated (u : Int) (token : String) (s s' t t' : System) : Prop :=
  Agree u token t t' ∧ KeepsOthers u s t ∧ KeepsOthers u s' t'

theorem isolated_refl (h : Agree u token s s') : Isolated u token s s' s s' :=
  ⟨h, keepsOthers_refl u s, keepsOthers_refl u s'⟩

/-- **A device is renamed alike,** because it is looked up among those of the user first. -/
theorem alike_rename (hs : Reachable s) (hs' : Reachable s') (h : Agree u token s s') (id : Int)
    (name : String) : (rename (some u) id name).Alike (Isolated u token s s') s s' := by
  have hrefl := isolated_refl h
  refine (blind_displayName name).bind_alike hrefl fun name _ =>
    (blind_device hs hs' h id).bind_alike hrefl fun d hrun => ?_
  obtain ⟨hd, rfl, hu⟩ := device_eq_ok hs.sound hrun
  have hd' := (h.devices d hu).1 hd
  refine Alike.bind_blind ?_ fun renamed t t' => ?_
  · rw [Alike, run_renameDevice s hd, run_renameDevice s' hd', ← h.forbidden]
    split_ifs
    · exact ⟨rfl, hrefl⟩
    · exact ⟨rfl, agree_setName h d.id name, keepsOthers_setName hs.sound hd hu name,
        keepsOthers_setName hs'.sound hd' hu name⟩
  · split_ifs
    · exact blind_pure _
    · exact blind_fail _

end Provisioning

end Calls

end Service

/-! ### Requests -/

namespace Http

open Time (Instant)
open Service (Reachable Agree KeepsOthers Call)
open Service.Provisioning (Isolated isolated_refl)
open SoilWatch.Flow

/-- The path that a request is for, if there is one. -/
def Request.route? (r : Request) : Option Route :=
  r.segments?.bind Route.ofSegments?

/-- Whether a path shows devices of a user, or what they have measured. -/
def Route.showsDevices : Route → Bool
  | .devices | .device _ | .latest _ | .series _ => true
  | _ => false

section Alike

variable {u : Int} {token : String} {s s' : System} {setup : Setup} {cx : Context} {r : Request}
  {route : Route}

theorem alike_withPart {α : Type} {J : System → System → Prop} {part : Except Response α}
    {go : α → Call Response} (h : J s s') (hgo : ∀ a, (go a).Alike J s s') :
    (withPart part go).Alike J s s' := by
  unfold withPart
  split
  · exact hgo _
  · exact (blind_pure _).alike h

/-- Behind the gate stands the user of the session. -/
theorem gate_eq_ok {session : SessionRow} (ht : r.bearer? = some token)
    (hsession : s.store.sessionByToken? token = some session) (hu : session.userId = u)
    {passed : String × User} (h : (gate cx r).run s = (.ok passed, s)) : passed.2.id = u := by
  unfold gate at h
  rw [ht] at h
  dsimp only at h
  rw [run_bind] at h
  rcases hv : (Service.Accounts.validateToken cx.opened token).run s with ⟨e | user, t⟩ <;>
    rw [hv] at h
  · cases h
  · obtain ⟨found, hfound, hid⟩ := Service.validateToken_eq_ok (congrArg Prod.fst hv)
    obtain rfl := Option.some.inj (hsession.symm.trans hfound)
    rw [← Except.ok.inj (congrArg Prod.fst h)]
    exact hid.symm.trans hu

theorem blind_gate (h : Agree u token s s') {session : SessionRow} (ht : r.bearer? = some token)
    (hsession : s.store.sessionByToken? token = some session) (hu : session.userId = u) :
    (gate cx r).Blind s s' := by
  unfold gate
  rw [ht]
  exact (Service.blind_validateToken h hsession hu _).bind fun _ _ => blind_pure _

variable (hs : Reachable s) (hs' : Reachable s') (h : Agree u token s s')
include hs hs' h

/-- **What is behind the gate answers alike.** -/
theorem alike_serveProtected (hroute : route.showsDevices) {user : User} (hu : user.id = u)
    (shown method : String) : (serveProtected setup cx shown user route method r).Alike
      (Isolated u token s s') s s' := by
  have hrefl := isolated_refl h
  subst hu
  have hpoints : ∀ id d, (Service.Provisioning.device (some user.id) id).run s = (.ok d, s) →
      ∀ key, s.series.channel d.id key = s'.series.channel d.id key := by
    intro id d hd key
    obtain ⟨hd, -, hu⟩ := Service.Provisioning.device_eq_ok hs.sound hd
    exact h.channel_eq hs hs' hd hu key
  unfold serveProtected
  split
  · cases hroute
  · exact ((Service.Provisioning.blind_devices hs hs' h).bind fun _ _ => blind_pure _).alike hrefl
  · cases hroute
  · exact alike_withPart hrefl fun id => ((Service.Provisioning.blind_device hs hs' h id).bind
      fun _ _ => blind_pure _).alike hrefl
  · exact alike_withPart hrefl fun id => alike_withPart hrefl fun req =>
      (Service.Provisioning.alike_rename hs hs' h id req.displayName).bind_blind
        fun _ _ _ => blind_pure _
  · exact alike_withPart hrefl fun id => ((Service.Provisioning.blind_device hs hs' h id).bind
      fun d hd => (Service.Telemetry.blind_latest setup (hpoints id d hd)).bind
        fun _ _ => blind_pure _).alike hrefl
  · exact alike_withPart hrefl fun q =>
      ((Service.Provisioning.blind_device hs hs' h q.deviceId).bind fun d hd =>
        (Service.Telemetry.blind_between setup (hpoints _ d hd _) _ _).bind
          fun _ _ => blind_pure _).alike hrefl
  · exact (blind_pure _).alike hrefl

/-- **A request is answered alike.** -/
theorem alike_respond {session : SessionRow}
    (hsession : s.store.sessionByToken? token = some session) (hu : session.userId = u)
    (ht : r.bearer? = some token) (hr : r.route? = some route) (hroute : route.showsDevices) :
    (respond setup cx r).Alike (Isolated u token s s') s s' := by
  have hserve : (serve setup cx r).Alike (Isolated u token s s') s s' := by
    have hprotected : route.isPublic = false := by
      cases route <;> first | rfl | cases hroute
    unfold serve
    rw [show r.segments?.bind Route.ofSegments? = some route from hr]
    dsimp only
    rw [hprotected]
    refine (blind_gate h ht hsession hu).bind_alike (isolated_refl h) fun passed hpassed => ?_
    exact alike_serveProtected hs hs' h hroute (gate_eq_ok ht hsession hu hpassed) _ _
  refine hserve.attempt.bind_blind fun a t t' => ?_
  cases a <;> exact blind_pure _

end Alike

/-! ### Numbers of devices that are not the user's -/

/-- The numbers that two requests name under paths of the same kind. -/
inductive Names (r r' : Request) (a b : Int) : Route → Route → Prop where
  | device {p p' : List Char} (h : pathId p = .ok a) (h' : pathId p' = .ok b) :
    Names r r' a b (.device p) (.device p')
  | latest {p p' : List Char} (h : pathId p = .ok a) (h' : pathId p' = .ok b) :
    Names r r' a b (.latest p) (.latest p')
  | series (key : Measurement) {start start' : Instant}
    (h : readQuery SeriesQuery.format r = .ok ⟨a, start⟩)
    (h' : readQuery SeriesQuery.format r' = .ok ⟨b, start'⟩) :
    Names r r' a b (.series key) (.series key)

/-- **Two requests that differ in the device that they name.** -/
structure Twins (r r' : Request) (a b : Int) : Prop where
  method : r.method = r'.method
  headers : r.headers = r'.headers
  body : r.body = r'.body
  named : ∃ route route', r.route? = some route ∧ r'.route? = some route' ∧
    Names r r' a b route route'

/-- Whether a user has no device of that number, be it somebody else's or nobody's. -/
def Absent (u : Int) (s : System) (id : Int) : Prop :=
  ∀ d ∈ s.store.devices, d.userId = u → d.id ≠ id

section Absent

variable {u a b : Int} {s : System} {setup : Setup} {cx : Context} {r r' : Request}
  {route route' : Route} {α β : Type}

/-- Two calls that end alike in a state and leave it as it was. -/
def Same (s : System) (x y : Call α) : Prop :=
  ∃ answer, x.run s = (answer, s) ∧ y.run s = (answer, s)

theorem same_refl {x : Call α} (h : x.Blind s s) : Same s x x := by
  obtain ⟨answer, h, -⟩ := h
  exact ⟨answer, h, h⟩

/-- What follows a common beginning. -/
theorem Same.bind {x : Call α} {f g : α → Call β} (hx : x.Blind s s)
    (h : ∀ a, x.run s = (.ok a, s) → Same s (f a) (g a)) : Same s (x >>= f) (x >>= g) := by
  obtain ⟨answer, hx, -⟩ := hx
  rw [Same]
  simp only [run_bind, hx]
  cases answer with
  | error e => exact ⟨.error e, rfl, rfl⟩
  | ok a => exact h a hx

/-- What follows a device that is absent is never begun. -/
theorem same_device_bind (hs : s.store.Sound) (ha : Absent u s a) (hb : Absent u s b)
    (f g : Device → Call α) : Same s (Service.Provisioning.device (some u) a >>= f)
      (Service.Provisioning.device (some u) b >>= g) := by
  have hnone : ∀ id, Absent u s id → (Service.Provisioning.device (some u) id).run s =
      (.error (.notFound "device"), s) := by
    intro id hid
    have hown : (s.store.deviceById? id).filter (·.userId = u) = none := by
      refine Option.eq_none_iff_forall_ne_some.2 fun d hd => ?_
      obtain ⟨hmem, heq, hu⟩ := (Service.ownDevice_eq_some hs).1 hd
      exact hid d hmem hu heq
    rw [Service.Provisioning.run_device, hown]
  exact ⟨.error (.notFound "device"), by rw [run_bind, hnone a ha], by rw [run_bind, hnone b hb]⟩

/-- A body is read from the headers and the body of a request. -/
theorem readJson_eq {format : Wire.Format α} (hh : r.headers = r'.headers) (hb : r.body = r'.body) :
    readJson format r = readJson format r' := by
  have hheader : r.header? = r'.header? :=
    funext fun name => by rw [Request.header?, Request.header?, hh]
  rw [readJson, readJson, hheader, checkLength, checkLength, hb]

/-- A path that shows devices has no other methods. -/
theorem serveProtected_of_ne (hroute : route.showsDevices) {user : User} {shown method : String}
    (hget : method ≠ "GET") (hpatch : ∀ p, route = .device p → method ≠ "PATCH") :
    serveProtected setup cx shown user route method r = pure methodNotAllowed := by
  unfold serveProtected
  split
  · cases hroute
  · exact absurd rfl hget
  · cases hroute
  · exact absurd rfl hget
  · exact absurd rfl (hpatch _ rfl)
  · exact absurd rfl hget
  · exact absurd rfl hget
  · rfl

/-- **Behind the gate, devices that are absent are told apart by nothing.** -/
theorem same_serveProtected (hs : s.store.Sound) (ha : Absent u s a) (hb : Absent u s b)
    (hh : r.headers = r'.headers) (hbody : r.body = r'.body) (hn : Names r r' a b route route')
    {user : User} (hu : user.id = u) (shown method : String) :
    Same s (serveProtected setup cx shown user route method r)
      (serveProtected setup cx shown user route' method r') := by
  subst hu
  have hrest : Same s (pure methodNotAllowed) (pure methodNotAllowed) := same_refl (blind_pure _)
  cases hn with
  | @device p p' h h' =>
    by_cases hget : method = "GET"
    · subst hget
      show Same s (getDevice user p) (getDevice user p')
      unfold getDevice withPart
      rw [h, h']
      exact same_device_bind hs ha hb _ _
    by_cases hpatch : method = "PATCH"
    · subst hpatch
      show Same s (patchDevice user p r) (patchDevice user p' r')
      unfold patchDevice withPart
      rw [h, h', readJson_eq hh hbody]
      dsimp only
      split
      · unfold Service.Provisioning.rename
        simp only [LawfulMonad.bind_assoc]
        exact Same.bind (Service.Provisioning.blind_displayName _) fun name _ =>
          same_device_bind hs ha hb _ _
      · exact same_refl (blind_pure _)
    · rw [serveProtected_of_ne rfl hget fun _ _ => hpatch,
        serveProtected_of_ne rfl hget fun _ _ => hpatch]
      exact hrest
  | @latest p p' h h' =>
    by_cases hget : method = "GET"
    · subst hget
      show Same s (getLatest setup user p) (getLatest setup user p')
      unfold getLatest withPart
      rw [h, h']
      exact same_device_bind hs ha hb _ _
    · rw [serveProtected_of_ne rfl hget (by nofun), serveProtected_of_ne rfl hget (by nofun)]
      exact hrest
  | series key h h' =>
    by_cases hget : method = "GET"
    · subst hget
      show Same s (getSeries setup cx user key r) (getSeries setup cx user key r')
      unfold getSeries withPart
      rw [h, h']
      exact same_device_bind hs ha hb _ _
    · rw [serveProtected_of_ne rfl hget (by nofun), serveProtected_of_ne rfl hget (by nofun)]
      exact hrest

/-- Paths that name a device are behind the gate, and twins have the same methods. -/
theorem Names.gated (h : Names r r' a b route route') :
    route.isPublic = false ∧ route'.isPublic = false ∧ route.methods = route'.methods := by
  cases h <;> exact ⟨rfl, rfl, rfl⟩

theorem bearer?_eq (hh : r.headers = r'.headers) : r.bearer? = r'.bearer? := by
  rw [Request.bearer?, Request.bearer?, Request.header?, Request.header?, hh]

/-- Twins are sent the same answer when they are given the same. -/
theorem finish_eq (hm : r.method = r'.method) (hr : r.route? = some route)
    (hr' : r'.route? = some route') (hmethods : route.methods = route'.methods) :
    finish r = finish r' := by
  have hallowed : allowed r = allowed r' := by
    unfold allowed
    rw [show r.segments?.bind Route.ofSegments? = some route from hr,
      show r'.segments?.bind Route.ofSegments? = some route' from hr', hm]
    dsimp only
    rw [hmethods]
  funext answer
  rw [finish, finish, hallowed, hm]

/-- **Twins that name absent devices are answered alike.** -/
theorem same_respond (hs : s.store.Sound) {token : String} {session : SessionRow}
    (hsession : s.store.sessionByToken? token = some session) (hu : session.userId = u)
    (ht : r.bearer? = some token) (htwins : Twins r r' a b) (ha : Absent u s a)
    (hb : Absent u s b) : ∃ answer, (respond setup cx r).run s = (.ok answer, s) ∧
      (respond setup cx r').run s = (.ok answer, s) := by
  obtain ⟨hmethod, hheaders, hbody, route, route', hr, hr', hn⟩ := htwins
  obtain ⟨hprotected, hprotected', hmethods⟩ := hn.gated
  have hserve : Same s (serve setup cx r) (serve setup cx r') := by
    have hgate : gate cx r' = gate cx r := by rw [gate, gate, bearer?_eq hheaders]
    unfold serve
    rw [show r.segments?.bind Route.ofSegments? = some route from hr,
      show r'.segments?.bind Route.ofSegments? = some route' from hr', ← hmethod]
    dsimp only
    rw [hprotected, hprotected', hgate]
    exact Same.bind (blind_gate (Service.agree_refl u token s) ht hsession hu) fun passed hpassed =>
      same_serveProtected hs ha hb hheaders hbody hn (gate_eq_ok ht hsession hu hpassed) _ _
  obtain ⟨answer, h, h'⟩ := hserve
  rw [respond, respond, ← finish_eq hmethod hr hr' hmethods, run_bind, run_bind, run_attempt,
    run_attempt, h, h']
  cases answer <;> exact ⟨_, rfl, rfl⟩

end Absent

/-! ### Isolation -/

/-- **Users see their own devices only.**  If two states that have come from the empty stores agree
for a user, every request for devices or their points that carries the token of the user's session
is answered alike in both, leaves them agreeing, and changes nothing in either but devices of the
user.  In one state, two requests that differ in the device that they name are answered alike if the
user has neither of the two, and change nothing. -/
theorem users_see_own_devices (setup : Setup) (cx : Context) (u : Int) (token : String)
    (s : System) (hs : Reachable s) (session : SessionRow)
    (hsession : s.store.sessionByToken? token = some session) (hu : session.userId = u) (r : Request)
    (ht : r.bearer? = some token) :
    (∀ (s' : System) (route : Route), Reachable s' → Agree u token s s' →
      r.route? = some route → route.showsDevices →
      ((respond setup cx r).run s).1 = ((respond setup cx r).run s').1 ∧
      Agree u token ((respond setup cx r).run s).2 ((respond setup cx r).run s').2 ∧
      KeepsOthers u s ((respond setup cx r).run s).2 ∧
      KeepsOthers u s' ((respond setup cx r).run s').2) ∧
    ∀ (r' : Request) (a b : Int), Twins r r' a b → Absent u s a → Absent u s b →
      ∃ answer, (respond setup cx r).run s = (.ok answer, s) ∧
        (respond setup cx r').run s = (.ok answer, s) :=
  ⟨fun _ _ hs' h hr hroute => alike_respond hs hs' h hsession hu ht hr hroute,
    fun _ _ _ htwins ha hb => same_respond hs.sound hsession hu ht htwins ha hb⟩

/-- Ann signs up, logs in and creates a device. -/
def annRun : List Store.Action :=
  [.call (.createUser "ann@example.com" "hash" "Ann" .epoch),
    .call (.startSession 1 "t" .epoch (Instant.epoch.addSeconds 60)),
    .call (.createDevice 1 "Fern" "c1")]

/-- Bob signs up and creates a device. -/
def bobRun : List Store.Action :=
  [.call (.createUser "bob@example.com" "hash" "Bob" .epoch), .call (.createDevice 2 "Ivy" "c2")]

/-- Ann's device has measured. -/
def annOnly : System :=
  ⟨Store.empty.after annRun, .ofWrites [⟨1, .capacitance, 5, .epoch⟩], []⟩

/-- Bob's device has measured, too. -/
def annAndBob : System :=
  ⟨Store.empty.after (annRun ++ bobRun),
    .ofWrites [⟨1, .capacitance, 5, .epoch⟩, ⟨2, .capacitance, 7, .epoch⟩], []⟩

/-- Ann asks for a device. -/
def annAsks (path : String) : Request :=
  ⟨"GET", path, [("authorization", "Bearer t")], []⟩

/-- What is known while Ann's request is served. -/
def atEpoch : Context :=
  ⟨.epoch, .epoch, [], [], []⟩

theorem id_of_anns {d : Device} (hd : d ∈ annAndBob.store.devices) (hu : d.userId = 1) :
    d.id = 1 := by
  have hdevices : annAndBob.store.devices = [⟨1, 1, none, "Fern"⟩, ⟨2, 2, none, "Ivy"⟩] := rfl
  rw [hdevices] at hd
  simp only [List.mem_cons, List.not_mem_nil, or_false] at hd
  rcases hd with rfl | rfl
  · rfl
  · cases hu

theorem agree_annAndBob : Agree 1 "t" annAndBob annOnly := by
  refine ⟨rfl, rfl, fun d hu => ?_, fun d hd hu key millis => ?_, rfl⟩
  · have hbob : annAndBob.store.devices = annOnly.store.devices ++ [⟨2, 2, none, "Ivy"⟩] := rfl
    rw [hbob, List.mem_append, List.mem_singleton, or_iff_left]
    rintro rfl
    cases hu
  · rw [id_of_anns hd hu, annAndBob, annOnly, Series.value?_ofWrites, Series.value?_ofWrites]
    exact (Series.lastValue?_append_singleton [⟨1, .capacitance, 5, .epoch⟩] _).trans
      (if_neg (by simp [Series.Write.isOf]))

/-- Ann asks for Bob's device: whether Bob is there makes no difference, and neither does it whether
she names his device or one that nobody has. -/
theorem bobs_device_is_hidden :
    Reachable annAndBob ∧ Reachable annOnly ∧ Agree 1 "t" annAndBob annOnly ∧
    ((respond .standard atEpoch (annAsks "/devices/2")).run annAndBob).1 =
      ((respond .standard atEpoch (annAsks "/devices/2")).run annOnly).1 ∧
    ∃ answer, (respond .standard atEpoch (annAsks "/devices/2")).run annAndBob =
        (.ok answer, annAndBob) ∧
      (respond .standard atEpoch (annAsks "/devices/3")).run annAndBob =
        (.ok answer, annAndBob) := by
  have hs : Reachable annAndBob := ⟨⟨_, rfl⟩, ⟨_, rfl⟩⟩
  have hs' : Reachable annOnly := ⟨⟨_, rfl⟩, ⟨_, rfl⟩⟩
  obtain ⟨hagree, hhidden⟩ := users_see_own_devices .standard atEpoch 1 "t" annAndBob hs
    ⟨1, 1, "t", Instant.epoch.addSeconds 60, .epoch⟩ rfl rfl (annAsks "/devices/2") rfl
  have htwins : Twins (annAsks "/devices/2") (annAsks "/devices/3") 2 3 :=
    ⟨rfl, rfl, rfl, .device ['2'], .device ['3'], rfl, rfl, .device rfl rfl⟩
  have habsent : ∀ id, id ≠ 1 → Absent 1 annAndBob id :=
    fun id hne d hd hu hid => hne (hid.symm.trans (id_of_anns hd hu))
  exact ⟨hs, hs', agree_annAndBob, (hagree annOnly _ hs' agree_annAndBob rfl rfl).1,
    hhidden _ 2 3 htwins (habsent 2 (by decide)) (habsent 3 (by decide))⟩

end Http
end SoilWatch
