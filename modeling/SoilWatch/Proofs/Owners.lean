/-
# Owners do not vanish

Sessions, reset tokens and contracts lead to a user or a device, and several calls follow them in a
step of its own.  In between the others may do what they like; but a user who was there is there for
good, so a call that has seen a session or a reset token finds its user (`Later`).  The answers for
the case that an owner has gone are therefore never given: not by a store that is at rest, and not
under any schedule of requests and messages.

The last theorem says this together with what holds of the tables at all times.
-/

import SoilWatch.Proofs.Service.Amid
import SoilWatch.Proofs.Store.Consistency

namespace SoilWatch
namespace Service

open Time (Instant)
open SoilWatch.Flow

variable {setup : Setup} {s s' : System}

/-! ### What the others can do -/

/-- A store that is sound stays so, and keeps its users. -/
def Later (s s' : System) : Prop :=
  s.store.Sound → s'.store.Sound ∧ s.store.users.map (·.id) ⊆ s'.store.users.map (·.id)

theorem later_refl (s : System) : Later s s :=
  fun hs => ⟨hs, List.Subset.refl _⟩

theorem Later.trans {a b c : System} (h : Later a b) (h' : Later b c) : Later a c := by
  intro ha
  obtain ⟨hb, hab⟩ := h ha
  obtain ⟨hc, hbc⟩ := h' hb
  exact ⟨hc, List.Subset.trans hab hbc⟩

/-- An operation of the store leads to a later state, also when it fails. -/
theorem later_run {op : Store.Operation} (h : s'.store = (op.run s.store).2) : Later s s' := by
  intro hs
  rw [h]
  rcases hr : op.run s.store with ⟨e | a, t⟩
  · obtain rfl := Store.Operation.run_eq_error hr
    exact ⟨hs, List.Subset.refl _⟩
  · exact ⟨hs.step hr, Store.Operation.users_kept hr⟩

theorem later_of_store_eq (h : s'.store = s.store) : Later s s' := by
  intro hs
  rw [h]
  exact ⟨hs, List.Subset.refl _⟩

/-- **Every move of a pool leads to a later state.** -/
theorem follows_later (setup : Setup) : Pool.Follows setup Later := by
  refine ⟨later_refl, fun _ _ _ => Later.trans, fun {p} hp m => ?_⟩
  obtain ⟨steps, hm⟩ := hp.takes setup m
  have hstore := hm.store
  cases hm with
  | started | idle | elsewhere | reopened => exact later_of_store_eq hstore
  | operated op => exact later_run hstore
  | refused events =>
    intro hs
    rw [hstore]
    exact ⟨hs.refused events, List.Subset.refl _⟩

/-! ### Calls that follow a token -/

namespace Accounts

/-- The user of a reset token is there when the token has been accepted. -/
theorem amid_validateReset (hs : s.store.Sound) (now : Instant) (encoded : String) :
    (validateReset now encoded).Amid Later s fun r t => t.store.Sound ∧
      ((∃ userId ∈ t.store.users.map (·.id), r = .ok userId) ∨ r = .error .invalidToken ∨
        r = .error .expiredToken) := by
  unfold validateReset
  split
  · exact amid_fail ⟨hs, .inr (.inl rfl)⟩
  · refine amid_look_bind fun t ht => ?_
    have ht := (ht hs).1
    split
    · exact amid_fail ⟨ht, .inr (.inl rfl)⟩
    · rename_i row hrow
      have huser := ht.consistent.resetUser
        (List.mem_map_of_mem (List.mem_of_find?_eq_some hrow))
      split_ifs
      · exact amid_fail ⟨ht, .inr (.inr rfl)⟩
      · exact amid_pure ⟨ht, .inl ⟨row.userId, huser, rfl⟩⟩

/-- A number of the table is found. -/
theorem isSome_of_mem_numbers {store : Store} {id : Int} (h : id ∈ store.users.map (·.id)) :
    (store.userById? id).isSome := by
  obtain ⟨user, hu, rfl⟩ := List.mem_map.1 h
  exact List.find?_isSome.2 ⟨user, hu, by simp⟩

/-- **The owner of a reset token is never missing.** -/
theorem amid_resetOwner (hs : s.store.Sound) (now : Instant) (encoded : String) :
    (resetOwner now encoded).Amid Later s fun r _ => r ≠ .error .noUser := by
  refine (amid_validateReset hs now encoded).bind ?_ ?_
  · rintro userId t ⟨ht, hr⟩
    obtain ⟨_, huser, rfl⟩ : ∃ id ∈ t.store.users.map (·.id), userId = id := by
      simpa using hr
    refine amid_look_bind fun t' ht' => ?_
    have hfound := isSome_of_mem_numbers ((ht' ht).2 huser)
    split
    · rename_i hnone
      exact absurd hnone (Option.isSome_iff_ne_none.1 hfound)
    · exact amid_pure nofun
  · rintro e t ⟨-, hr⟩ h
    rw [Except.error.inj h] at hr
    simp at hr

/-- **The owner of a reset token is there when the password is changed.** -/
theorem amid_changePassword (hs : s.store.Sound) (setup : Setup) (salt : Octets) (now : Instant)
    (encoded password : String) : (changePassword setup salt now encoded password).Amid Later s
      fun r _ => r ≠ .error .noUser := by
  unfold changePassword
  split_ifs
  · exact amid_fail nofun
  refine (amid_validateReset hs now encoded).bind ?_ ?_
  · rintro userId t ⟨ht, hr⟩
    obtain ⟨_, huser, rfl⟩ : ∃ id ∈ t.store.users.map (·.id), userId = id := by
      simpa using hr
    refine amid_onStore_bind (fun t' updated u ht' hrun => ?_) fun _ _ => nofun
    -- The user was there when the token was accepted, and so is there when the row is changed.
    obtain ⟨-, rfl, -⟩ := Store.changePassword_eq_ok.1 hrun
    have hfound := Store.usersWithId_ne_zero ((ht' ht).2 huser)
    rw [if_pos (by simpa using hfound)]
    refine amid_tryStore_bind fun t'' _ => ?_
    split
    · exact amid_pure nofun
    · exact amid_fail nofun
  · rintro e t ⟨-, hr⟩ h
    rw [Except.error.inj h] at hr
    simp at hr

/-- **The owner of a session is there** behind the step that has found the session. -/
theorem atOnce_validateToken (hs : s.store.Sound) (now : Instant) {token : String}
    {session : SessionRow} (h : s.store.sessionByToken? token = some session) :
    (validateToken now token).AtOnce Later s fun r _ => r ≠ .error .invalidToken := by
  have huser := hs.consistent.sessionUser (List.mem_map_of_mem (List.mem_of_find?_eq_some h))
  refine atOnce_look_bind ?_
  dsimp only
  rw [h]
  dsimp only
  split_ifs
  · exact amid_fail nofun
  · refine amid_look_bind fun t ht => ?_
    have hfound := isSome_of_mem_numbers ((ht hs).2 huser)
    split
    · rename_i hnone
      exact absurd hnone (Option.isSome_iff_ne_none.1 hfound)
    · exact amid_pure nofun

end Accounts

/-! ### At rest -/

open Accounts (validateToken resetOwner changePassword)

/-- **No owner is missing:** the answers for that case are not given. -/
structure OwnersStay (setup : Setup) (s : System) : Prop where
  session : ∀ now token, (s.store.sessionByToken? token).isSome →
    ((validateToken now token).run s).1 ≠ .error .invalidToken
  reset : ∀ now encoded, ((resetOwner now encoded).run s).1 ≠ .error .noUser
  password : ∀ salt now encoded password,
    ((changePassword setup salt now encoded password).run s).1 ≠ .error .noUser
  staged : ∀ contract address transaction id, (s.store.completeDevice contract address).1 ≠
    .error (.aborted transaction (.missingDevice id))

theorem ownersStay (setup : Setup) (hs : s.store.Sound) : OwnersStay setup s where
  session now token h := by
    obtain ⟨session, h⟩ := Option.isSome_iff_exists.1 h
    exact (Accounts.atOnce_validateToken hs now h).run later_refl
  reset now encoded := (Accounts.amid_resetOwner hs now encoded).run later_refl
  password salt now encoded password :=
    (Accounts.amid_changePassword hs setup salt now encoded password).run later_refl
  staged := hs.consistent.completeDevice_ne_missingDevice

/-! ### Under every schedule -/

/-- Whether a request follows a reset token to its user. -/
def Request.followsReset : Request → Bool
  | resetOwner .. | changePassword .. => true
  | _ => false

/-- A task does not end with the answer that the user of its reset token has gone. -/
def Task.FindsOwner : (t : Task) → Except Empty t.Result → Prop
  | .request r, a => r.followsReset → a ≠ .ok (.error .noUser)
  | .message .., _ => True

theorem Request.amid_findsOwner (hs : s.store.Sound) {r : Request} (hr : r.followsReset) :
    (r.call setup).Amid Later s fun a _ => a ≠ .error .noUser := by
  cases r with
  | resetOwner => exact Accounts.amid_resetOwner hs _ _
  | changePassword => exact Accounts.amid_changePassword hs setup _ _ _ _
  | _ => cases hr

theorem Task.amid_findsOwner (hs : s.store.Sound) (t : Task) :
    (t.call setup).Amid Later s fun r _ => t.FindsOwner r := by
  cases t with
  | request r =>
    by_cases hr : r.followsReset
    · exact (r.amid_findsOwner hs hr).attempt_ne.mono fun _ _ h _ => h
    · exact amid_of_forall fun _ _ h => absurd h hr
  | message => exact amid_of_forall fun _ _ => trivial

namespace Pool

/-- The pool behind a schedule. -/
abbrev after (setup : Setup) (schedule : List Move) : Pool :=
  Pool.empty.run setup schedule

theorem sound_after (setup : Setup) (schedule : List Move) :
    (Pool.after setup schedule).system.store.Sound := by
  obtain ⟨run, hrun⟩ := stepwise_empty.runs setup schedule
  rw [hrun.store]
  exact Store.sound_after run

/-- No task that has ended found that the user of its reset token had gone. -/
theorem findsOwner_after {schedule : List Move} {i : Nat} {t : Task} {r : Except Empty t.Result}
    (h : (Pool.after setup schedule).calls[i]? = some ⟨t, .done r⟩) : t.FindsOwner r := by
  have hkeeps : (Pool.after setup schedule).Keeps Later Task.FindsOwner :=
    Keeps.run (follows_later setup) (J := fun s => s.store.Sound) (fun h ha => (h ha).1)
      (fun s t hs => t.amid_findsOwner hs) stepwise_empty Store.sound_empty
      (fun i t x h => absurd h (by simp [Pool.empty])) schedule
  exact (hkeeps i t _ h).result h

/-- A token whose session is there when it is looked at is not found invalid, whatever the others do
until its user is looked at. -/
theorem session_found {past future : List Move} {i : Nat} {now : Instant} {token : String}
    (hi : (Pool.after setup past).calls[i]? =
      some ⟨.request (.validateToken now token), (Task.request (.validateToken now token)).call setup⟩)
    (h : ((Pool.after setup past).system.store.sessionByToken? token).isSome) :
    (Pool.after setup (past ++ .advance i :: future)).calls[i]? ≠
      some ⟨.request (.validateToken now token), .done (.ok (.error .invalidToken))⟩ := by
  obtain ⟨session, h⟩ := Option.isSome_iff_exists.1 h
  have hs := sound_after setup past
  have hp := stepwise_empty.run setup past
  have hpromise : ((Pool.after setup past).move setup (.advance i)).Promises Later i
      (.request (.validateToken now token)) fun r => r ≠ .ok (.error .invalidToken) :=
    promises_of_atOnce hi (Accounts.atOnce_validateToken hs now h).attempt_ne
  rw [Pool.after, run_append]
  intro hend
  exact (hpromise.run (follows_later setup) (hp.move setup _) future).result hend rfl

end Pool

/-- Surroundings in which every password belongs to every hash. -/
def trusting : Setup :=
  { Setup.standard with hasher := ⟨fun _ password => password, fun _ _ => .ok true⟩ }

/-- A user signs up and logs in, and asks who the token stands for. -/
def askAfterLogin : List Move :=
  [.start (.request (.createUser [] .epoch "ann@example.com" "secret" "Ann")), .advance 0, .advance 0,
    .start (.request (.login [1] .epoch "ann@example.com" "secret")), .advance 1, .advance 1,
    .start (.request (.validateToken .epoch "01"))]

end Service
end SoilWatch
