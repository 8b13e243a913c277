/-
# Changes of a password side by side

A change of password through a mailed token takes three steps: it looks the token up, sets the
password, and removes the reset tokens of the user.  The token is good until one of the changes has
removed it, so every change goes through that has looked it up before (`token_good_until_removed`).

Hence a token is spent once if no change looks it up while another is under way, and it can be spent
twice if one does (`reset_token_spent_twice`).
-/

import SoilWatch.Proofs.Service.Changes

namespace SoilWatch
namespace Service

open Time (Instant)
open SoilWatch.Flow

namespace Pool

variable {setup : Setup} {token : String} {first : Store} {p : Pool} {m : Move}
  {schedule before after : List Move} {i : Nat} {d : PasswordChange}

/-! ### One change after the other -/

/-- A task has taken a step and is to take more. -/
def UnderWay (setup : Setup) (p : Pool) : Prop :=
  ∃ (i : Nat) (t : Task) (act : System → System) (next : System → Flow System Empty t.Result),
    p.calls[i]? = some ⟨t, .step act next⟩ ∧ .step act next ≠ t.call setup

/-- Who is past the beginning does not ask. -/
theorem Asks.eq_call {e : PasswordChange} {x : Flow System Empty (e.task token).Result}
    (h : p.Asks setup token i d) (hi : p.calls[i]? = some ⟨e.task token, x⟩) :
    x = (e.task token).call setup := by
  have heq := Option.some.inj (hi.symm.trans h.2)
  obtain rfl := PasswordChange.task_inj (congrArg Sigma.fst heq)
  exact entry_inj heq

theorem not_underWay (h : ∀ c ∈ p.calls, c.2 = c.1.call setup ∨ ∃ r, c.2 = .done r) :
    ¬ p.UnderWay setup := by
  rintro ⟨i, t, act, next, hi, hne⟩
  rcases h _ (List.mem_of_getElem? hi) with hcall | ⟨r, hr⟩
  · exact hne hcall
  · cases hr

/-- In a schedule from a pool on, no change looks the token up while another is under way. -/
def Apart (setup : Setup) (token : String) : Pool → List Move → Prop
  | _, [] => True
  | p, m :: schedule =>
    (∀ i d, m = .advance i → p.Asks setup token i d → ¬ p.UnderWay setup) ∧
      Apart setup token (p.move setup m) schedule

theorem Apart.of_append {p : Pool} (h : p.Apart setup token (before ++ after)) :
    p.Apart setup token before ∧ (p.run setup before).Apart setup token after := by
  induction before generalizing p with
  | nil => exact ⟨trivial, h⟩
  | cons m before ih =>
    obtain ⟨hbefore, hafter⟩ := ih h.2
    exact ⟨⟨h.1, hbefore⟩, hafter⟩

/-- A change is at its beginning, or has failed. -/
inductive Resting (setup : Setup) (token : String) (c : Entry) : Prop where
  | asking (d : PasswordChange) (hd : d.password.isEmpty = false)
    (h : c = ⟨d.task token, (d.task token).call setup⟩)
  | failed (d : PasswordChange) (e : Error) (h : c = ⟨d.task token, .done (.ok (.error e))⟩)

theorem resting_start (d : PasswordChange) :
    Resting setup token ⟨d.task token, (d.task token).call setup⟩ := by
  cases hd : d.password.isEmpty with
  | true => exact .failed d _ (by rw [d.call_task_of_empty hd])
  | false => exact .asking d hd rfl

/-- A change that rests does nothing when it is advanced, or it looks the token up. -/
theorem Resting.move {c : Entry} (h : Resting setup token c) (hc : p.calls[i]? = some c) :
    p.move setup (.advance i) = p ∨ ∃ d, p.Asks setup token i d ∧
      p.move setup (.advance i) = ⟨p.system, p.calls.set i
        ⟨d.task token, d.looked setup token (p.system.store.resetByToken? token)⟩⟩ := by
  rcases h with ⟨d, hd, rfl⟩ | ⟨d, e, rfl⟩
  · exact .inr ⟨d, ⟨hd, hc⟩, move_asking hd hc⟩
  · exact .inl (move_done hc)

/-- No change has set the password yet, and at most one has looked the token up. -/
inductive Unset (setup : Setup) (token : String) (first : Store) (p : Pool) : Prop where
  | nobody (husers : p.system.store.users = first.users) (hrest : p.Each fun _ => Resting setup token)
  | somebody (w : Nat) (d : PasswordChange) (row : ResetRow)
    (hrow : first.resetByToken? token = some row) (husers : p.system.store.users = first.users)
    (hw : p.calls[w]? = some ⟨d.task token, d.setting setup token row.userId⟩)
    (hrest : p.Each fun i c => i ≠ w → Resting setup token c)

/-- One change has set the password, and all others rest. -/
structure SetBy (setup : Setup) (token : String) (users : List UserRow) (w : Nat) (p : Pool) :
    Prop where
  users_eq : p.system.store.users = users
  setter : ∃ (d : PasswordChange) (userId : Int),
    p.calls[w]? = some ⟨d.task token, d.clearing token userId⟩ ∨ p.Ended w (d.task token) (.ok ())
  rest : p.Each fun i c => i ≠ w → Resting setup token c

/-- While one change at most is under way, the password is not set, or it is set by that change. -/
theorem Unset.move (hu : p.Unset setup token first) (h : p.Changing setup token first)
    (hstart : ∀ t, m = .start t → ∃ d : PasswordChange, t = d.task token)
    (hapart : ∀ i d, m = .advance i → p.Asks setup token i d → ¬ p.UnderWay setup) :
    (p.move setup m).Unset setup token first ∨
      ∃ users w, (p.move setup m).SetBy setup token users w := by
  cases m with
  | start t =>
    obtain ⟨d, rfl⟩ := hstart t rfl
    rcases hu with ⟨husers, hrest⟩ | ⟨w, d', row, hrow, husers, hw, hrest⟩
    · exact .inl (.nobody husers (hrest.append _ fun _ => resting_start d))
    · exact .inl (.somebody w d' row hrow husers (entry_kept hw nofun)
        (hrest.append _ fun _ _ => resting_start d))
  | reopen | refuse =>
    rcases hu with ⟨husers, hrest⟩ | ⟨w, d', row, hrow, husers, hw, hrest⟩
    · exact .inl (.nobody husers hrest)
    · exact .inl (.somebody w d' row hrow husers hw hrest)
  | advance i =>
    cases hc : p.calls[i]? with
    | none =>
      rw [move_none hc]
      exact .inl hu
    | some c =>
      rcases hu with ⟨husers, hrest⟩ | ⟨w, d, row, hrow, husers, hw, hrest⟩
      · have hothers : p.Each fun j c => j ≠ i → Resting setup token c := fun j c hj _ => hrest j c hj
        rcases (hrest i c hc).move hc with hidle | ⟨d, hasks, hmove⟩
        · rw [hidle]
          exact .inl (.nobody husers hrest)
        · rw [hmove]
          rcases d.looked_cases setup token (p.system.store.resetByToken? token) with
            ⟨e, -, hlooked⟩ | ⟨row, hrow, -, hlooked⟩ <;> rw [hlooked]
          · exact .inl (.nobody husers (hrest.set _ (.failed d e rfl)))
          · exact .inl (.somebody i d row (h.first_of_found hrow) husers
              (List.getElem?_set_self (List.getElem?_eq_some_iff.1 hc).1)
              (hothers.set _ fun hi => absurd rfl hi))
      · by_cases hi : i = w
        · subst hi
          rw [h.move_setting hrow hw]
          exact .inr ⟨_, i, rfl, ⟨d, row.userId,
            .inl (List.getElem?_set_self (List.getElem?_eq_some_iff.1 hw).1)⟩,
            hrest.set _ fun hi => absurd rfl hi⟩
        · rcases (hrest i c hc hi).move hc with hidle | ⟨d', hasks, -⟩
          · rw [hidle]
            exact .inl (.somebody w d row hrow husers hw hrest)
          · exact absurd ⟨w, _, _, _, hw, d.setting_ne_call⟩ (hapart i d' rfl hasks)

/-- Once a change has set the password, no other does. -/
theorem SetBy.move {users : List UserRow} {w : Nat} (hw : p.SetBy setup token users w)
    (h : p.Changing setup token first)
    (hstart : ∀ t, m = .start t → ∃ d : PasswordChange, t = d.task token)
    (hapart : ∀ i d, m = .advance i → p.Asks setup token i d → ¬ p.UnderWay setup) :
    (p.move setup m).SetBy setup token users w := by
  obtain ⟨husers, ⟨d, userId, hsetter⟩, hrest⟩ := hw
  cases m with
  | start t =>
    obtain ⟨d', rfl⟩ := hstart t rfl
    exact ⟨husers, ⟨d, userId, hsetter.imp (entry_kept · nofun) (ended_kept · _)⟩,
      hrest.append _ fun _ _ => resting_start d'⟩
  | reopen | refuse => exact ⟨husers, ⟨d, userId, hsetter⟩, hrest⟩
  | advance i =>
    cases hc : p.calls[i]? with
    | none =>
      rw [move_none hc]
      exact ⟨husers, ⟨d, userId, hsetter⟩, hrest⟩
    | some c =>
      have hlt := (List.getElem?_eq_some_iff.1 hc).1
      by_cases hi : i = w
      · subst hi
        rcases hsetter with hclearing | hended
        · rw [h.move_clearing hclearing]
          exact ⟨husers, ⟨d, userId, .inr (List.getElem?_set_self hlt)⟩,
            hrest.set _ fun hi => absurd rfl hi⟩
        · rw [move_done hended]
          exact ⟨husers, ⟨d, userId, .inr hended⟩, hrest⟩
      · rcases (hrest i c hc hi).move hc with hidle | ⟨d', hasks, hmove⟩
        · rw [hidle]
          exact ⟨husers, ⟨d, userId, hsetter⟩, hrest⟩
        · rcases hsetter with hclearing | hended
          · exact absurd ⟨w, _, _, _, hclearing, d.clearing_ne_call⟩ (hapart i d' rfl hasks)
          · -- The token is gone, so who asks for it now fails.
            rw [hmove, h.spent ⟨w, d, hended⟩]
            refine ⟨husers, ⟨d, userId, .inr ?_⟩, hrest.set _ fun _ => .failed d' _ rfl⟩
            exact (List.getElem?_set_ne hi).trans hended

/-- A change that rests has not spent the token. -/
theorem Resting.stage {c : Entry} (h : Resting setup token c) (first : Store) :
    Stage setup token first False c := by
  rcases h with ⟨d, hd, h⟩ | ⟨d, e, h⟩
  · exact .asking d hd h
  · exact .failed d e h

theorem Unset.not_spent (hu : p.Unset setup token first) : ¬ p.Spent token := by
  rintro ⟨i, d, hi⟩
  rcases hu with ⟨-, hrest⟩ | ⟨w, d', row, -, -, hw, hrest⟩
  · exact ((hrest i _ hi).stage first).of_succeeded
  · by_cases hiw : i = w
    · subst hiw
      exact absurd (Option.some.inj (hw.symm.trans hi)) entry_step_ne_done
    · exact ((hrest i _ hi hiw).stage first).of_succeeded

/-- The change that has set the password is the only one that can have succeeded. -/
theorem SetBy.eq_of_succeeded {users : List UserRow} {w : Nat} (hw : p.SetBy setup token users w)
    (hi : p.Ended i (d.task token) (.ok ())) : i = w := by
  by_contra hiw
  exact ((hw.rest i _ hi hiw).stage .empty).of_succeeded

theorem SetBy.run {users : List UserRow} {w : Nat} (hs : OnlyChanges token schedule)
    (hapart : p.Apart setup token schedule) (h : p.Changing setup token first)
    (hw : p.SetBy setup token users w) : (p.run setup schedule).SetBy setup token users w := by
  induction schedule generalizing p with
  | nil => exact hw
  | cons m schedule ih =>
    exact ih hs.tail hapart.2 (hs.move List.mem_cons_self h)
      (hw.move h (fun t ht => hs.start t (ht ▸ List.mem_cons_self)) hapart.1)

/-- **Of changes one after the other, at most one sets the password.** -/
theorem Unset.run (hs : OnlyChanges token schedule) (hapart : p.Apart setup token schedule)
    (h : p.Changing setup token first) (hu : p.Unset setup token first) :
    (p.run setup schedule).Unset setup token first ∨
      ∃ users w, (p.run setup schedule).SetBy setup token users w := by
  induction schedule generalizing p with
  | nil => exact .inl hu
  | cons m schedule ih =>
    have hm := hs.move List.mem_cons_self h
    rcases hu.move h (fun t ht => hs.start t (ht ▸ List.mem_cons_self)) hapart.1 with
      hu | ⟨users, w, hw⟩
    · exact ih hs.tail hapart.2 hm hu
    · have hend := hw.run hs.tail hapart.2 hm
      exact .inr ⟨users, w, hend⟩

theorem Unset.users_eq (hu : p.Unset setup token first) : p.system.store.users = first.users := by
  rcases hu with ⟨husers, -⟩ | ⟨w, d, row, -, husers, -, -⟩ <;> exact husers

end Pool

/-- What a reset token is answered with, by its row. -/
theorem run_validateReset_encodeToken (now : Instant) (token : String) (s : System) :
    ((Accounts.validateReset now (Accounts.encodeToken token)).run s).1 =
      verdict now (s.store.resetByToken? token) := by
  rw [Accounts.run_validateReset, Accounts.decodeToken?_eq_some.2 rfl]
  rfl

/-- **A reset token is good until a change through it has ended, and all changes that look it up
before then go through.**  From every store at which a run can arrive, under every schedule of
changes through one token in which nothing is refused that they need: what a change is answered is
decided when it looks the token up.  If none has succeeded before, it is answered as the token was
good at first, else that the token is invalid.  If no change looks the token up while another is
under way, at most one succeeds, and once a password has been set none is set again.  A change that
is advanced three times has ended. -/
theorem token_good_until_removed (setup : Setup) (past : List Store.Action) (series : Series)
    (outbox : List Mail) (token : String) (schedule : List Move)
    (hupdate : (.users, .update) ∉ (Store.empty.after past).forbidden)
    (hdelete : (.resets, .delete) ∉ (Store.empty.after past).forbidden)
    (hs : Pool.OnlyChanges token schedule) :
    let start := Pool.fresh ⟨Store.empty.after past, series, outbox⟩
    let pool := start.run setup schedule
    (∀ before after i d r, schedule = before ++ .advance i :: after →
      (start.run setup before).Asks setup token i d → pool.Ended i (d.task token) r →
      ((start.run setup before).Spent token → r = .error .invalidToken) ∧
      (¬ (start.run setup before).Spent token →
        r = ((Accounts.validateReset d.now (Accounts.encodeToken token)).run start.system).1.map
          fun _ => ())) ∧
    (start.Apart setup token schedule →
      (∀ i j (d e : PasswordChange), pool.Ended i (d.task token) (.ok ()) →
        pool.Ended j (e.task token) (.ok ()) → i = j) ∧
      ∀ before after, schedule = before ++ after →
        (start.run setup before).system.store.users ≠ start.system.store.users →
        pool.system.store.users = (start.run setup before).system.store.users) ∧
    ∀ before after i (d : PasswordChange), schedule = before ++ after →
      (start.run setup before).calls[i]? = some ⟨d.task token, (d.task token).call setup⟩ →
      3 ≤ after.countP (Move.advances i) → ∃ r, pool.Ended i (d.task token) r := by
  intro start pool
  have hsound : start.system.store.Sound := Store.sound_after past
  have hnone (I : Nat → Entry → Prop) : start.Each I := Pool.each_fresh I _
  have hunspent : ¬ start.Spent token := fun ⟨i, d, hi⟩ => hnone (fun _ _ => False) i _ hi
  have hstart : start.Changing setup token start.system.store :=
    { stepwise := Pool.stepwise_fresh _
      sound := hsound
      owner := fun row hrow =>
        hsound.consistent.resetUser (List.mem_map_of_mem (List.mem_of_find?_eq_some hrow))
      updatable := hupdate
      deletable := hdelete
      stages := hnone _
      unspent := fun _ => rfl
      spent := fun h => absurd h hunspent }
  refine ⟨?_, fun hapart => ?_, ?_⟩
  · rintro before after i d r rfl hasks hr
    obtain ⟨hsbefore, hsafter⟩ := hs.of_append
    have hbefore := hstart.run hsbefore
    have hanswer := hbefore.answer_eq hsafter.tail hasks (r := r) (by rwa [← Pool.run_append])
    rw [run_validateReset_encodeToken]
    refine ⟨fun hspent => ?_, fun hspent => ?_⟩
    · rw [hanswer, hbefore.spent hspent]
      rfl
    · rw [hanswer, hbefore.unspent hspent]
  · have hu : start.Unset setup token start.system.store := .nobody rfl (hnone _)
    constructor
    · intro i j d e hi hj
      rcases hu.run hs hapart hstart with hu | ⟨users, w, hw⟩
      · exact absurd ⟨i, d, hi⟩ hu.not_spent
      · rw [hw.eq_of_succeeded hi, hw.eq_of_succeeded hj]
    · rintro before after rfl hset
      obtain ⟨hsbefore, hsafter⟩ := hs.of_append
      obtain ⟨hbefore, hafter⟩ := hapart.of_append
      rcases hu.run hsbefore hbefore hstart with hu | ⟨users, w, hw⟩
      · exact absurd hu.users_eq hset
      · have hend := hw.run hsafter hafter (hstart.run hsbefore)
        rw [← Pool.run_append] at hend
        exact hend.users_eq.trans hw.users_eq.symm
  · rintro before after i d rfl hi hn
    exact Pool.ended_of_advanced_since d.endsWithin_task hi hn

/-- Ann has forgotten her password and has got a token. -/
def annForgetful : List Store.Action :=
  [.call (.createUser "ann@example.com" "secret" "Ann" .epoch),
    .call (.replaceReset 1 "02" (Instant.epoch.addSeconds 3600))]

/-- The change that Ann asks for. -/
def annsChange : PasswordChange := ⟨[], .epoch, "new"⟩

/-- The change that somebody asks for who has seen the mail. -/
def thiefsChange : PasswordChange := ⟨[], .epoch, "stolen"⟩

/-- The changes follow each other. -/
def oneAfterTheOther : List Move :=
  [.start (annsChange.task "02"), .start (thiefsChange.task "02"), .advance 0, .advance 0, .advance 0,
    .advance 1]

/-- Both changes look the token up before either of them removes it. -/
def bothAtOnce : List Move :=
  [.start (annsChange.task "02"), .start (thiefsChange.task "02"), .advance 0, .advance 1, .advance 0,
    .advance 0, .advance 1, .advance 1]

/-- No change begins before the one before it has ended. -/
theorem apart_oneAfterTheOther : (Pool.fresh ⟨Store.empty.after annForgetful, .empty, []⟩).Apart
    trusting "02" oneAfterTheOther := by
  show _ ∧ _ ∧ _ ∧ _ ∧ _ ∧ _ ∧ True
  refine ⟨fun _ _ hi => (nomatch hi), fun _ _ hi => (nomatch hi), fun _ _ _ _ => ?asks,
    fun i d hi hasks => ?sets, fun i d hi hasks => ?removes, fun _ _ _ _ => ?asksThen, trivial⟩
  case asks =>
    refine Pool.not_underWay fun c hc => .inl ?_
    rcases List.mem_pair.1 hc with rfl | rfl <;> rfl
  case sets =>
    obtain rfl := Move.advance.inj hi
    have hnext : annsChange.setting trusting "02" 1 = _ :=
      hasks.eq_call (Pool.Asks.entry_looked (d := annsChange) ⟨rfl, rfl⟩)
    exact absurd hnext annsChange.setting_ne_call
  case removes =>
    obtain rfl := Move.advance.inj hi
    have hsetting : (((Pool.fresh ⟨Store.empty.after annForgetful, .empty, []⟩).run trusting
        (oneAfterTheOther.take 2)).move trusting (.advance 0)).calls[0]? = some
          ⟨annsChange.task "02", annsChange.setting trusting "02" 1⟩ :=
      Pool.Asks.entry_looked (d := annsChange) ⟨rfl, rfl⟩
    have hnext : annsChange.clearing "02" 1 = _ := hasks.eq_call (Pool.entry_stepped hsetting)
    exact absurd hnext annsChange.clearing_ne_call
  case asksThen =>
    refine Pool.not_underWay fun c hc => ?_
    rcases List.mem_pair.1 hc with rfl | rfl
    · exact .inr ⟨_, rfl⟩
    · exact .inl rfl

theorem onlyChanges_of_ann {schedule : List Move} (h : ∀ m ∈ schedule,
    m = .start (annsChange.task "02") ∨ m = .start (thiefsChange.task "02") ∨ ∃ i, m = .advance i) :
    Pool.OnlyChanges "02" schedule := by
  constructor
  · intro t ht
    rcases h _ ht with heq | heq | ⟨i, heq⟩
    · exact ⟨annsChange, Move.start.inj heq⟩
    · exact ⟨thiefsChange, Move.start.inj heq⟩
    · cases heq
  · intro events he
    rcases h _ he with heq | heq | ⟨i, heq⟩ <;> cases heq

/-- Whoever comes when a change has ended is turned down, and the password stays. -/
theorem late_change_turned_down :
    let start := Pool.fresh ⟨Store.empty.after annForgetful, .empty, []⟩
    let pool := start.run trusting oneAfterTheOther
    (.users, .update) ∉ (Store.empty.after annForgetful).forbidden ∧
    (.resets, .delete) ∉ (Store.empty.after annForgetful).forbidden ∧
    Pool.OnlyChanges "02" oneAfterTheOther ∧ start.Apart trusting "02" oneAfterTheOther ∧
    pool.Ended 0 (annsChange.task "02") (.ok ()) ∧
    (∀ r, pool.Ended 1 (thiefsChange.task "02") r → r = .error .invalidToken) ∧
    pool.system.store.users =
      (start.run trusting (oneAfterTheOther.take 4)).system.store.users := by
  intro start pool
  have honly : Pool.OnlyChanges "02" oneAfterTheOther := by
    refine onlyChanges_of_ann ?_
    simp [oneAfterTheOther]
  obtain ⟨hdecided, hapart, -⟩ := token_good_until_removed trusting annForgetful .empty [] "02"
    oneAfterTheOther List.not_mem_nil List.not_mem_nil honly
  refine ⟨List.not_mem_nil, List.not_mem_nil, honly, apart_oneAfterTheOther, rfl, ?_, ?_⟩
  · intro r hr
    exact (hdecided (oneAfterTheOther.take 5) [] 1 thiefsChange r rfl ⟨rfl, rfl⟩ hr).1
      ⟨0, annsChange, rfl⟩
  · refine (hapart apart_oneAfterTheOther).2 (oneAfterTheOther.take 4) _ rfl fun h => ?_
    have hhash := congrArg (List.map (·.passwordHash)) h
    change ["new"] = ["secret"] at hhash
    simp at hhash

/-- **A reset token can be spent twice,** when two changes look it up before either of them removes
it: both succeed, and the second password replaces the first. -/
theorem reset_token_spent_twice :
    let start := Pool.fresh ⟨Store.empty.after annForgetful, .empty, []⟩
    let pool := start.run trusting bothAtOnce
    Pool.OnlyChanges "02" bothAtOnce ∧
    pool.Ended 0 (annsChange.task "02") (.ok ()) ∧ pool.Ended 1 (thiefsChange.task "02") (.ok ()) ∧
    (start.run trusting (bothAtOnce.take 6)).system.store.users.map (·.passwordHash) = ["new"] ∧
    pool.system.store.users.map (·.passwordHash) = ["stolen"] := by
  refine ⟨onlyChanges_of_ann ?_, rfl, rfl, rfl, rfl⟩
  simp [bothAtOnce]

end Service
end SoilWatch
