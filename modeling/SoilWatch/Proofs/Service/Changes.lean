/-
# A change of a password through a mailed token

A change looks its token up, sets the password, and removes the reset tokens of the user, each in a
transaction of its own (`PasswordChange.call_task`).  `Stage` says where an entry of a pool of changes
through one token stands, and `Pool.Changing` what is known of such a pool: the token stands for what
it stood for at first until a change has succeeded, and for nothing from then on.

So what a change is answered is decided when it looks the token up (`Pool.Changing.answer_eq`): one
that finds the token good goes through, whatever the others do.
-/

import SoilWatch.Proofs.Owners
import SoilWatch.Proofs.Service.Deeds
import SoilWatch.Proofs.Service.Moves

namespace SoilWatch
namespace Service

open Time (Instant)
open SoilWatch.Flow

/-! ### The three steps of a change -/

/-- A change of password; through which token is said elsewhere. -/
structure PasswordChange where
  salt : Octets
  now : Instant
  password : String

/-- Whose password may be changed, by the row of a reset token. -/
def verdict (now : Instant) : Option ResetRow → Except Error Int
  | none => .error .invalidToken
  | some row => if row.expiresAt < now then .error .expiredToken else .ok row.userId

namespace PasswordChange

variable {setup : Setup} {token : String} {d : PasswordChange} {userId : Int} {store : Store}

/-- The change through a token as a task. -/
abbrev task (token : String) (d : PasswordChange) : Task :=
  .request (.changePassword d.salt d.now (Accounts.encodeToken token) d.password)

theorem task_inj {d d' : PasswordChange} (h : d.task token = d'.task token) : d = d' := by
  obtain ⟨hsalt, hnow, -, hpassword⟩ := Request.changePassword.inj (Task.request.inj h)
  cases d
  cases d'
  congr

/-- The hash of the new password. -/
def hash (setup : Setup) (d : PasswordChange) : String :=
  setup.hasher.hash d.salt d.password

/-- The third step, which removes the reset tokens of the user. -/
def clearing (token : String) (d : PasswordChange) (userId : Int) :
    Flow System Empty (d.task token).Result :=
  .step (operating (.deleteUserResets userId)) fun s => .done <| .ok <|
    match (s.store.deleteUserResets userId).1 with
    | .ok _ => .ok ()
    | .error e => .error (.resetCleanup e.message)

/-- The second step, which sets the password. -/
def setting (setup : Setup) (token : String) (d : PasswordChange) (userId : Int) :
    Flow System Empty (d.task token).Result :=
  .step (operating (.changePassword userId (d.hash setup))) fun s =>
    match (s.store.changePassword userId (d.hash setup)).1 with
    | .ok true => d.clearing token userId
    | .ok false => .done (.ok (.error .noUser))
    | .error e => .done (.ok (.error (.persistence "change_pw" e.message)))

/-- How a change goes on that has looked its token up. -/
def looked (setup : Setup) (token : String) (d : PasswordChange) :
    Option ResetRow → Flow System Empty (d.task token).Result := fun row? =>
  match verdict d.now row? with
  | .error e => .done (.ok (.error e))
  | .ok userId => d.setting setup token userId

/-- A change that has looked its token up has failed, or is to set the password of the user of the
token. -/
theorem looked_cases (setup : Setup) (token : String) (d : PasswordChange) (row? : Option ResetRow) :
    (∃ e, verdict d.now row? = .error e ∧ d.looked setup token row? = .done (.ok (.error e))) ∨
      ∃ row, row? = some row ∧ verdict d.now row? = .ok row.userId ∧
        d.looked setup token row? = d.setting setup token row.userId := by
  unfold looked
  cases row? with
  | none => exact .inl ⟨.invalidToken, rfl, rfl⟩
  | some row =>
    by_cases hlate : row.expiresAt < d.now
    · exact .inl ⟨.expiredToken, by simp [verdict, hlate]⟩
    · exact .inr ⟨row, rfl, by simp [verdict, hlate]⟩

/-- **A change looks its token up, sets the password and removes the reset tokens.** -/
theorem call_task (hd : d.password.isEmpty = false) : (d.task token).call setup =
    .step id fun s => d.looked setup token (s.store.resetByToken? token) := by
  show Flow.attempt (Accounts.changePassword setup d.salt d.now (Accounts.encodeToken token) _) = _
  unfold Accounts.changePassword Accounts.validateReset
  rw [if_neg (by simp [hd]), Accounts.decodeToken?_eq_some.2 rfl]
  refine congrArg (Flow.step id) (funext fun s => ?_)
  unfold looked verdict
  dsimp only
  cases s.store.resetByToken? token with
  | none => rfl
  | some row =>
    simp only [Flow.bind]
    split_ifs
    · rfl
    · refine congrArg (Flow.step _) (funext fun s => ?_)
      show Flow.attempt (Flow.bind (Flow.bind (.done (.ok (s.store.changePassword _ _).1)) _) _) = _
      unfold hash
      rcases (s.store.changePassword row.userId (setup.hasher.hash d.salt d.password)).1 with e | _ | _
      · rfl
      · rfl
      · refine congrArg (Flow.step _) (funext fun s => ?_)
        show Flow.attempt (Flow.bind (.done (.ok (s.store.deleteUserResets _).1)) _) = _
        cases (s.store.deleteUserResets row.userId).1 <;> rfl

/-- Without a password nothing is looked up. -/
theorem call_task_of_empty (hd : d.password.isEmpty = true) : (d.task token).call setup =
    .done (.ok (.error (.invalidInput "password must not be empty"))) := by
  show Flow.attempt (Accounts.changePassword setup d.salt d.now (Accounts.encodeToken token) _) = _
  rw [Accounts.changePassword, if_pos hd]
  rfl

/-- The password of a user is set if that is not refused. -/
theorem run_setting (hallowed : (.users, .update) ∉ store.forbidden)
    (huser : userId ∈ store.users.map (·.id)) (hash : String) :
    store.changePassword userId hash = (.ok true, store.setPassword userId hash) :=
  Store.changePassword_eq_ok.2
    ⟨.inr hallowed, (decide_eq_true (Store.usersWithId_ne_zero huser)).symm, rfl⟩

/-- The reset tokens of a user are removed if that is not refused. -/
theorem run_clearing (hallowed : (.resets, .delete) ∉ store.forbidden) (userId : Int) :
    ∃ n, store.deleteUserResets userId = (.ok n, store.dropResets userId) :=
  ⟨_, Store.deleteUserResets_eq_ok.2 ⟨.inr hallowed, rfl, rfl⟩⟩

/-- A change that is to set the password is not at its beginning: it leaves another state. -/
theorem setting_ne_call : d.setting setup token userId ≠ (d.task token).call setup := by
  intro h
  cases hd : d.password.isEmpty with
  | true =>
    rw [call_task_of_empty hd] at h
    cases h
  | false =>
    rw [call_task hd] at h
    have hact := (Flow.step.inj h).1
    have hhash (hash : String) : d.hash setup = hash := by
      let user : UserRow := ⟨userId, "", "", hash, .epoch, none⟩
      have hrun := congrFun hact ⟨{ Store.empty with users := [user] }, .empty, []⟩
      have husers := congrArg (fun s => s.store.users.map (·.passwordHash)) hrun
      rw [operating, show (Store.Operation.changePassword userId (d.hash setup)).run _ =
        _ from run_setting List.not_mem_nil (List.mem_singleton_self _) _] at husers
      simpa [Store.setPassword, user] using husers
    exact absurd ((hhash "a").symm.trans (hhash "b")) (by decide)

/-- A change that is to remove the reset tokens is not at its beginning: it leaves another state. -/
theorem clearing_ne_call : d.clearing token userId ≠ (d.task token).call setup := by
  intro h
  cases hd : d.password.isEmpty with
  | true =>
    rw [call_task_of_empty hd] at h
    cases h
  | false =>
    rw [call_task hd] at h
    let store : Store := { Store.empty with resets := [⟨1, userId, "", .epoch⟩] }
    have hact := congrFun (Flow.step.inj h).1 ⟨store, .empty, []⟩
    have hresets := congrArg (fun s => s.store.resets) hact
    have hallowed : (.resets, .delete) ∉ store.forbidden := List.not_mem_nil
    obtain ⟨n, hrun⟩ := run_clearing hallowed userId
    rw [operating, show (Store.Operation.deleteUserResets userId).run store = _ from hrun] at hresets
    simp [Store.dropResets, store] at hresets

/-- A change takes three steps at most. -/
theorem endsWithin_task (d : PasswordChange) : ((d.task token).call setup).EndsWithin 3 := by
  cases hd : d.password.isEmpty with
  | true =>
    rw [call_task_of_empty hd]
    exact .done 3 _
  | false =>
    rw [call_task hd]
    refine .step fun s => ?_
    unfold looked
    split
    · exact .done 2 _
    · refine .step fun s => ?_
      split
      · exact .step fun s => .done 0 _
      · exact .done 1 _
      · exact .done 1 _

end PasswordChange

/-! ### Where a change stands -/

/-- Where an entry of a pool of changes stands, by what the token stood for at first: a change is at
its beginning, is to set the password or to remove the tokens of the user of the token, or has ended;
that it has succeeded is possible only once the token is spent. -/
inductive Stage (setup : Setup) (token : String) (first : Store) (spent : Prop) (c : Entry) : Prop where
  | asking (d : PasswordChange) (hd : d.password.isEmpty = false)
    (h : c = ⟨d.task token, (d.task token).call setup⟩)
  | setting (d : PasswordChange) (row : ResetRow) (hrow : first.resetByToken? token = some row)
    (h : c = ⟨d.task token, d.setting setup token row.userId⟩)
  | clearing (d : PasswordChange) (row : ResetRow) (hrow : first.resetByToken? token = some row)
    (h : c = ⟨d.task token, d.clearing token row.userId⟩)
  | failed (d : PasswordChange) (e : Error) (h : c = ⟨d.task token, .done (.ok (.error e))⟩)
  | succeeded (d : PasswordChange) (hs : spent) (h : c = ⟨d.task token, .done (.ok (.ok ()))⟩)

section Stage

variable {setup : Setup} {token : String} {first : Store} {spent spent' : Prop} {c : Entry}

theorem stage_start (d : PasswordChange) :
    Stage setup token first spent ⟨d.task token, (d.task token).call setup⟩ := by
  cases hd : d.password.isEmpty with
  | true => exact .failed d _ (by rw [d.call_task_of_empty hd])
  | false => exact .asking d hd rfl

/-- A change that has looked up what the token stood for at first, or nothing, has failed or is to set
the password. -/
theorem stage_looked (d : PasswordChange) {row? : Option ResetRow}
    (hrow : row? = first.resetByToken? token ∨ row? = none) :
    Stage setup token first spent ⟨d.task token, d.looked setup token row?⟩ := by
  rcases d.looked_cases setup token row? with ⟨e, -, hlooked⟩ | ⟨row, rfl, -, hlooked⟩
  · exact .failed d e (by rw [hlooked])
  · exact .setting d row (by simpa [eq_comm] using hrow) (by rw [hlooked])

theorem Stage.mono (h : Stage setup token first spent c) (hs : spent → spent') :
    Stage setup token first spent' c := by
  rcases h with ⟨d, hd, h⟩ | ⟨d, row, hrow, h⟩ | ⟨d, row, hrow, h⟩ | ⟨d, e, h⟩ | ⟨d, hspent, h⟩
  · exact .asking d hd h
  · exact .setting d row hrow h
  · exact .clearing d row hrow h
  · exact .failed d e h
  · exact .succeeded d (hs hspent) h

/-- A change that has succeeded has spent the token. -/
theorem Stage.of_succeeded {d : PasswordChange}
    (h : Stage setup token first spent ⟨d.task token, .done (.ok (.ok ()))⟩) : spent := by
  rcases h with ⟨d', hd, h⟩ | ⟨d', row, -, h⟩ | ⟨d', row, -, h⟩ | ⟨d', e, h⟩ | ⟨d', hs, -⟩
  · rw [d'.call_task hd] at h
    exact absurd h.symm entry_step_ne_done
  · exact absurd h.symm entry_step_ne_done
  · exact absurd h.symm entry_step_ne_done
  · obtain rfl := PasswordChange.task_inj (congrArg Sigma.fst h)
    cases entry_done_inj h
  · exact hs

end Stage

namespace Pool

variable {setup : Setup} {token : String} {first : Store} {p : Pool} {m : Move}
  {schedule : List Move} {i : Nat} {d : PasswordChange} {row : ResetRow}

/-- Some change through the token has succeeded. -/
def Spent (token : String) (p : Pool) : Prop :=
  ∃ (i : Nat) (d : PasswordChange), p.Ended i (d.task token) (.ok ())

/-- A pool of changes through a token, none of which is refused; `first` is the store at first. -/
structure Changing (setup : Setup) (token : String) (first : Store) (p : Pool) : Prop where
  stepwise : p.Stepwise
  sound : p.system.store.Sound
  owner : ∀ row, first.resetByToken? token = some row →
    row.userId ∈ p.system.store.users.map (·.id)
  updatable : (.users, .update) ∉ p.system.store.forbidden
  deletable : (.resets, .delete) ∉ p.system.store.forbidden
  stages : p.Each fun _ => Stage setup token first (p.Spent token)
  unspent : ¬ p.Spent token → p.system.store.resetByToken? token = first.resetByToken? token
  spent : p.Spent token → p.system.store.resetByToken? token = none

/-- A change that asks for the token looks it up in its next step. -/
theorem move_asking (hd : d.password.isEmpty = false)
    (hi : p.calls[i]? = some ⟨d.task token, (d.task token).call setup⟩) :
    p.move setup (.advance i) = ⟨p.system, p.calls.set i
      ⟨d.task token, d.looked setup token (p.system.store.resetByToken? token)⟩⟩ := by
  rw [d.call_task hd] at hi
  exact move_advance hi

namespace Changing

variable (h : p.Changing setup token first)
include h

/-- A change that is to set the password does so. -/
theorem move_setting (hrow : first.resetByToken? token = some row)
    (hi : p.calls[i]? = some ⟨d.task token, d.setting setup token row.userId⟩) :
    p.move setup (.advance i) =
      ⟨{ p.system with store := p.system.store.setPassword row.userId (d.hash setup) },
        p.calls.set i ⟨d.task token, d.clearing token row.userId⟩⟩ := by
  have hrun := PasswordChange.run_setting h.updatable (h.owner row hrow) (d.hash setup)
  rw [move_advance hi, hrun]
  show Pool.mk { p.system with store := (p.system.store.changePassword _ _).2 } _ = _
  rw [hrun]

/-- A change that is to remove the reset tokens does so, and has succeeded. -/
theorem move_clearing {userId : Int}
    (hi : p.calls[i]? = some ⟨d.task token, d.clearing token userId⟩) :
    p.move setup (.advance i) =
      ⟨{ p.system with store := p.system.store.dropResets userId },
        p.calls.set i ⟨d.task token, .done (.ok (.ok ()))⟩⟩ := by
  obtain ⟨n, hrun⟩ := PasswordChange.run_clearing h.deletable userId
  rw [move_advance hi, hrun]
  show Pool.mk { p.system with store := (p.system.store.deleteUserResets _).2 } _ = _
  rw [hrun]

/-- A token that is found stands for what it stood for at first. -/
theorem first_of_found (hrow : p.system.store.resetByToken? token = some row) :
    first.resetByToken? token = some row := by
  refine (h.unspent fun hspent => ?_).symm.trans hrow
  cases hrow.symm.trans (h.spent hspent)

/-- The reset tokens of the user of the token are removed with the token. -/
theorem gone_of_dropResets (hrow : first.resetByToken? token = some row) :
    (p.system.store.dropResets row.userId).resetByToken? token = none := by
  refine List.find?_eq_none.2 fun r hr => ?_
  obtain ⟨hr, hne⟩ := List.mem_filter.1 hr
  intro htoken
  have hfound : p.system.store.resetByToken? token = some r :=
    h.sound.consistent.resetTokens.find?_eq_some hr (by simpa using htoken)
  by_cases hs : p.Spent token
  · cases (h.spent hs).symm.trans hfound
  · obtain rfl := Option.some.inj ((hrow.symm.trans (h.unspent hs).symm).trans hfound)
    simp at hne

/-- **What a move does to a pool of changes:** the token stays what it is, or a change has removed it
and has succeeded. -/
theorem step (hstart : ∀ t, m = .start t → ∃ d : PasswordChange, t = d.task token) :
    ((p.move setup m).Each (fun _ => Stage setup token first (p.Spent token)) ∧
      (p.move setup m).system.store.resetByToken? token = p.system.store.resetByToken? token) ∨
    ((p.move setup m).Each (fun _ => Stage setup token first True) ∧ (p.move setup m).Spent token ∧
      (p.move setup m).system.store.resetByToken? token = none) := by
  cases m with
  | start t =>
    obtain ⟨d, rfl⟩ := hstart t rfl
    exact .inl ⟨h.stages.append _ fun _ => stage_start d, rfl⟩
  | reopen | refuse => exact .inl ⟨h.stages, rfl⟩
  | advance i =>
    cases hc : p.calls[i]? with
    | none =>
      rw [move_none hc]
      exact .inl ⟨h.stages, rfl⟩
    | some c =>
      rcases h.stages i c hc with ⟨d, hd, rfl⟩ | ⟨d, row, hrow, rfl⟩ | ⟨d, row, hrow, rfl⟩ |
        ⟨d, e, rfl⟩ | ⟨d, hs, rfl⟩
      · have hfound : p.system.store.resetByToken? token = first.resetByToken? token ∨
            p.system.store.resetByToken? token = none :=
          (Classical.em (p.Spent token)).elim (fun hs => .inr (h.spent hs)) fun hs =>
            .inl (h.unspent hs)
        rw [move_asking hd hc]
        exact .inl ⟨h.stages.set _ (stage_looked d hfound), rfl⟩
      · rw [h.move_setting hrow hc]
        exact .inl ⟨h.stages.set _ (.clearing d row hrow rfl), rfl⟩
      · rw [h.move_clearing hc]
        have hlt := (List.getElem?_eq_some_iff.1 hc).1
        refine .inr ⟨?_, ⟨i, d, List.getElem?_set_self hlt⟩, h.gone_of_dropResets hrow⟩
        exact Each.set (fun j c hj => (h.stages j c hj).mono fun _ => trivial) _
          (.succeeded d trivial rfl)
      · rw [move_done hc]
        exact .inl ⟨h.stages, rfl⟩
      · rw [move_done hc]
        exact .inl ⟨h.stages, rfl⟩

/-- **A pool of changes stays one** under every move that begins a change through the token, or
refuses nothing that a change needs. -/
theorem move (hstart : ∀ t, m = .start t → ∃ d : PasswordChange, t = d.task token)
    (hrefuse : ∀ events, m = .refuse events →
      (.users, .update) ∉ events ∧ (.resets, .delete) ∉ events) :
    (p.move setup m).Changing setup token first := by
  obtain ⟨hsound, husers⟩ := (follows_later setup).move h.stepwise m h.sound
  have hforbidden : (.users, .update) ∉ (p.move setup m).system.store.forbidden ∧
      (.resets, .delete) ∉ (p.move setup m).system.store.forbidden :=
    h.stepwise.forbidden_move
      (P := fun events => (.users, .update) ∉ events ∧ (.resets, .delete) ∉ events)
      ⟨h.updatable, h.deletable⟩ hrefuse
  have hkept : p.Spent token → (p.move setup m).Spent token :=
    fun ⟨i, d, hi⟩ => ⟨i, d, ended_kept hi m⟩
  refine ⟨h.stepwise.move setup m, hsound, fun row hrow => husers (h.owner row hrow), hforbidden.1,
    hforbidden.2, ?_, ?_, ?_⟩
  all_goals rcases h.step hstart with ⟨hstages, htoken⟩ | ⟨hstages, hspent, htoken⟩
  · exact fun i c hi => (hstages i c hi).mono hkept
  · exact fun i c hi => (hstages i c hi).mono fun _ => hspent
  · exact fun hs => htoken.trans (h.unspent fun hp => hs (hkept hp))
  · exact fun hs => absurd hspent hs
  · exact fun ⟨i, d, hi⟩ => htoken.trans (h.spent (hstages i _ hi).of_succeeded)
  · exact fun _ => htoken

end Changing

/-! ### Under every schedule -/

/-- A schedule of changes through a token: it begins nothing else, and refuses nothing that a change
needs. -/
structure OnlyChanges (token : String) (schedule : List Move) : Prop where
  start : ∀ t, .start t ∈ schedule → ∃ d : PasswordChange, t = d.task token
  refuse : ∀ events, .refuse events ∈ schedule →
    (.users, .update) ∉ events ∧ (.resets, .delete) ∉ events

variable {before after : List Move}

theorem OnlyChanges.move (hs : OnlyChanges token schedule) (hm : m ∈ schedule)
    (h : p.Changing setup token first) : (p.move setup m).Changing setup token first :=
  h.move (fun t ht => hs.start t (ht ▸ hm)) fun events he => hs.refuse events (he ▸ hm)

theorem OnlyChanges.tail (hs : OnlyChanges token (m :: schedule)) : OnlyChanges token schedule :=
  ⟨fun t ht => hs.start t (List.mem_cons_of_mem _ ht),
    fun events he => hs.refuse events (List.mem_cons_of_mem _ he)⟩

theorem OnlyChanges.of_append (hs : OnlyChanges token (before ++ after)) :
    OnlyChanges token before ∧ OnlyChanges token after :=
  ⟨⟨fun t ht => hs.start t (List.mem_append_left _ ht),
      fun events he => hs.refuse events (List.mem_append_left _ he)⟩,
    ⟨fun t ht => hs.start t (List.mem_append_right _ ht),
      fun events he => hs.refuse events (List.mem_append_right _ he)⟩⟩

theorem Changing.run (h : p.Changing setup token first) (hs : OnlyChanges token schedule) :
    (p.run setup schedule).Changing setup token first :=
  run_induction h fun before m after hsplit hp => hs.move (by simp [hsplit]) hp

/-- A change has found the token good: it is to set the password or to remove the tokens of the user,
or it has succeeded. -/
inductive GoesThrough (setup : Setup) (token : String) (first : Store) (i : Nat) (d : PasswordChange)
    (p : Pool) : Prop where
  | setting (row : ResetRow) (hrow : first.resetByToken? token = some row)
    (hi : p.calls[i]? = some ⟨d.task token, d.setting setup token row.userId⟩)
  | clearing (row : ResetRow) (hrow : first.resetByToken? token = some row)
    (hi : p.calls[i]? = some ⟨d.task token, d.clearing token row.userId⟩)
  | succeeded (hi : p.Ended i (d.task token) (.ok ()))

/-- **A change that has found the token good goes through,** whatever the others do. -/
theorem GoesThrough.move (h : p.Changing setup token first)
    (hi : p.GoesThrough setup token first i d) (m : Move) :
    (p.move setup m).GoesThrough setup token first i d := by
  by_cases hm : m = .advance i
  · subst hm
    rcases hi with ⟨row, hrow, hi⟩ | ⟨row, hrow, hi⟩ | hi
    all_goals have hlt := (List.getElem?_eq_some_iff.1 hi).1
    · rw [h.move_setting hrow hi]
      exact .clearing row hrow (List.getElem?_set_self hlt)
    · rw [h.move_clearing hi]
      exact .succeeded (List.getElem?_set_self hlt)
    · exact .succeeded (ended_kept hi _)
  · rcases hi with ⟨row, hrow, hi⟩ | ⟨row, hrow, hi⟩ | hi
    · exact .setting row hrow (entry_kept hi hm)
    · exact .clearing row hrow (entry_kept hi hm)
    · exact .succeeded (ended_kept hi m)

theorem GoesThrough.answer_eq (hi : p.GoesThrough setup token first i d) {r : Except Error Unit}
    (hr : p.Ended i (d.task token) r) : r = .ok () := by
  rcases hi with ⟨row, -, hi⟩ | ⟨row, -, hi⟩ | hi
  · exact absurd (Option.some.inj (hi.symm.trans hr)) entry_step_ne_done
  · exact absurd (Option.some.inj (hi.symm.trans hr)) entry_step_ne_done
  · exact hr.unique hi

/-- A change is at its beginning and has a password, so its next step looks the token up. -/
def Asks (setup : Setup) (token : String) (i : Nat) (d : PasswordChange) (p : Pool) : Prop :=
  d.password.isEmpty = false ∧ p.calls[i]? = some ⟨d.task token, (d.task token).call setup⟩

theorem Asks.entry_looked (h : p.Asks setup token i d) : (p.move setup (.advance i)).calls[i]? =
    some ⟨d.task token, d.looked setup token (p.system.store.resetByToken? token)⟩ := by
  rw [move_asking h.1 h.2]
  exact List.getElem?_set_self (List.getElem?_eq_some_iff.1 h.2).1

/-- **What a change is answered is decided when it looks the token up.** -/
theorem Changing.answer_eq (h : p.Changing setup token first) (hs : OnlyChanges token schedule)
    (hi : p.Asks setup token i d) {r : Except Error Unit}
    (hr : (p.run setup (.advance i :: schedule)).Ended i (d.task token) r) :
    r = (verdict d.now (p.system.store.resetByToken? token)).map fun _ => () := by
  have hnext := hi.entry_looked
  rcases d.looked_cases setup token (p.system.store.resetByToken? token) with
    ⟨e, hverdict, hlooked⟩ | ⟨row, hrow, hverdict, hlooked⟩ <;> rw [hlooked] at hnext <;> rw [hverdict]
  · exact hr.unique (ended_kept_run hnext schedule)
  · have hfirst := h.first_of_found hrow
    have hmove : (p.move setup (.advance i)).Changing setup token first :=
      h.move (fun _ ht => nomatch ht) fun _ he => nomatch he
    have hthrough : ((p.move setup (.advance i)).run setup schedule).Changing setup token first ∧
        ((p.move setup (.advance i)).run setup schedule).GoesThrough setup token first i d :=
      run_induction (P := fun p => p.Changing setup token first ∧ p.GoesThrough setup token first i d)
        ⟨hmove, .setting row hfirst hnext⟩
        fun before m after hsplit ⟨hp, hi⟩ => ⟨hs.move (by simp [hsplit]) hp, hi.move hp m⟩
    exact hthrough.2.answer_eq hr

end Pool
end Service
end SoilWatch
