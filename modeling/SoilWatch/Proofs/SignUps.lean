/-
# Sign-ups side by side

A sign-up looks its email up first and adds the user in a second step, so sign-ups under one email
can all have found it free before any of them adds a user.  The table lets the first of them through
that adds one, and refuses all that come behind; a refusal is answered like an email that is found
taken, and never as a failure of the store.

`Rival` says where an entry of a pool stands in the race for an email.  While the email is free no
sign-up has ended (`Pool.Open`), and the step that takes it ends the sign-up that has won
(`Pool.Open.win`).  From then on every other sign-up loses, whatever is interleaved (`Pool.Taken`).
-/

import SoilWatch.Proofs.Owners
import SoilWatch.Proofs.Service.Moves
import SoilWatch.Proofs.Store.Holders

namespace SoilWatch

open Time (Instant)

/-- Of rows that a column tells apart, one has a value of it. -/
theorem Store.Unique.filter_eq_singleton {α β : Type} [DecidableEq β] {rows : List α} {row : α}
    {column : α → β} {value : β} (h : Store.Unique rows column) (hrow : row ∈ rows)
    (hvalue : column row = value) : rows.filter (column · = value) = [row] := by
  induction rows with
  | nil => cases hrow
  | cons r rows ih =>
    obtain ⟨hfresh, h⟩ := List.nodup_cons.1 h
    rcases List.mem_cons.1 hrow with rfl | hrow
    · rw [List.filter_cons_of_pos (by simpa using hvalue), List.filter_eq_nil_iff.2]
      intro r hr
      have hne : column r ≠ column row := fun heq => hfresh (heq ▸ List.mem_map_of_mem hr)
      simpa [← hvalue] using hne
    · have hne : column r ≠ value := by
        rintro rfl
        exact hfresh (hvalue ▸ List.mem_map_of_mem hrow)
      rw [List.filter_cons_of_neg (by simpa using hne)]
      exact ih h hrow

/-- Who has an email is the only user under it. -/
theorem Store.Consistent.holders_eq {s : Store} (hs : s.Consistent) {email : String} {old : UserRow}
    (h : s.userByEmail? email = some old) : s.holders email = [old] :=
  hs.emails.filter_eq_singleton (List.mem_of_find?_eq_some h) (by simpa using List.find?_some h)

namespace Service

open SoilWatch.Flow

/-! ### The two steps of a sign-up -/

/-- A sign-up with a password; under which email is said elsewhere. -/
structure SignUp where
  salt : Octets
  now : Instant
  password : String
  name : String
  filled : password.isEmpty = false

namespace SignUp

variable {setup : Setup} {email : String} {s : System}

/-- The sign-up under an email as a task. -/
abbrev task (email : String) (u : SignUp) : Task :=
  .request (.createUser u.salt u.now email u.password u.name)

theorem task_inj {u v : SignUp} (h : u.task email = v.task email) : u = v := by
  obtain ⟨hsalt, hnow, -, hpassword, hname⟩ := Request.createUser.inj (Task.request.inj h)
  cases u
  cases v
  congr

/-- The user that a sign-up adds, with the number that the user gets. -/
def row (setup : Setup) (email : String) (u : SignUp) (id : Int) : UserRow :=
  ⟨id, email, u.name, setup.hasher.hash u.salt u.password, u.now, none⟩

/-- The operation with which a sign-up adds a user. -/
def operation (setup : Setup) (email : String) (u : SignUp) : Store.Operation :=
  .createUser email (setup.hasher.hash u.salt u.password) u.name u.now

/-- What a sign-up is answered with, by how its operation went. -/
def answer : Except Store.Error UserRow → Except Error User
  | .ok row => .ok row.user
  | .error e => .error (if e.isConstraint then .userExists else .persistence "create_user" e.message)

/-- The second step of a sign-up, which adds the user. -/
def insertion (setup : Setup) (email : String) (u : SignUp) : Flow System Empty (u.task email).Result :=
  .step (operating (u.operation setup email)) fun s =>
    .done (.ok (answer ((u.operation setup email).run s.store).1))

/-- **A sign-up looks its email up, and then adds the user.** -/
theorem call_task (hemail : (Text.trim email).isEmpty = false) (u : SignUp) :
    (u.task email).call setup = .step id fun s =>
      if (s.store.userByEmail? email).isSome then .done (.ok (.error .userExists))
      else u.insertion setup email := by
  have hcall : Accounts.createUser setup u.salt u.now email u.password u.name =
      .step id fun s =>
        if (s.store.userByEmail? email).isSome then .done (.error .userExists)
        else .step (operating (u.operation setup email)) fun s =>
          .done (answer ((u.operation setup email).run s.store).1) := by
    unfold Accounts.createUser
    rw [if_neg (by simp [hemail]), if_neg (by simp [u.filled])]
    refine congrArg (Flow.step id) (funext fun s => ?_)
    dsimp only [Flow.bind]
    split
    · rfl
    · refine congrArg (Flow.step _) (funext fun s => ?_)
      show Flow.bind (.done (.ok (s.store.createUser _ _ _ _).1)) _ = .done (answer (s.store.createUser _ _ _ _).1)
      cases (s.store.createUser email (setup.hasher.hash u.salt u.password) u.name u.now).1 with
      | ok row => rfl
      | error e => cases hc : e.isConstraint <;> simp [Flow.bind, answer, hc, fail]
  show Flow.attempt (Accounts.createUser setup u.salt u.now email u.password u.name) = _
  rw [hcall]
  refine congrArg (Flow.step id) (funext fun s => ?_)
  dsimp only
  split <;> rfl

/-- A sign-up takes two steps at most. -/
theorem endsWithin_task (hemail : (Text.trim email).isEmpty = false) (u : SignUp) :
    ((u.task email).call setup).EndsWithin 2 := by
  rw [call_task hemail]
  refine .step fun s => ?_
  split
  · exact .done 1 _
  · exact .step fun s => .done 0 _

/-- A free email is taken by the user that is added. -/
theorem run_operation (setup : Setup) {store : Store}
    (hallowed : (.users, .insert) ∉ store.forbidden) (hfree : store.userByEmail? email = none)
    (u : SignUp) :
    let row := u.row setup email (store.counters.users + 1)
    ((u.operation setup email).run store).1 = .ok row ∧
      ((u.operation setup email).run store).2.holders email = [row] := by
  intro row
  have hrun : (u.operation setup email).run store =
      (.ok row, { store with
        users := store.users ++ [row], counters := { store.counters with users := row.id } }) :=
    Store.createUser_eq_ok.2 ⟨hallowed, hfree, rfl, rfl⟩
  rw [hrun]
  refine ⟨rfl, ?_⟩
  show (store.users ++ [row]).filter (·.email = email) = [row]
  rw [List.filter_append, show store.users.filter (·.email = email) = [] from
    Store.holders_eq_nil.2 hfree, List.nil_append, List.filter_singleton]
  simp [row, SignUp.row]

/-- **Who comes behind is told that the email is taken,** and not that the store has failed: the
table refuses the row by a constraint. -/
theorem answer_of_taken {store : Store} (htaken : store.userByEmail? email ≠ none) (u : SignUp) :
    answer ((u.operation setup email).run store).1 = .error .userExists := by
  show answer (store.createUser ..).1 = _
  unfold Store.createUser Store.transact Store.Transaction.insertUser Store.guardEvent
  by_cases hforbidden : (.users, .insert) ∈ store.forbidden
  · rw [if_pos hforbidden]
    rfl
  · rw [if_neg hforbidden]
    dsimp only
    rw [if_pos (Option.isSome_iff_ne_none.2 htaken)]
    rfl

end SignUp

/-! ### The race for an email -/

/-- Where an entry of a pool stands in the race for an email: a sign-up is at its beginning, has
found the email free, or has lost, which happens only once the email is taken; every other entry
leaves the email alone. -/
inductive Rival (setup : Setup) (email : String) (taken : Prop) (c : Entry) : Prop where
  | asking (u : SignUp) (h : c = ⟨u.task email, (u.task email).call setup⟩)
  | inserting (u : SignUp) (h : c = ⟨u.task email, u.insertion setup email⟩)
  | lost (u : SignUp) (ht : taken) (h : c = ⟨u.task email, .done (.ok (.error .userExists))⟩)
  | bystander (ht : ∀ u : SignUp, c.1 ≠ u.task email)
      (h : c.2.Every (Operates fun op => op.signsUp email = false))

/-- Every task takes its place in the race when it begins. -/
theorem rival_start (setup : Setup) (email : String) (taken : Prop) (t : Task) :
    Rival setup email taken ⟨t, t.call setup⟩ := by
  by_cases hu : ∃ u : SignUp, t = u.task email
  · obtain ⟨u, rfl⟩ := hu
    exact .asking u rfl
  refine .bystander (fun u h => hu ⟨u, h⟩) ?_
  -- A sign-up without a password takes no step; any other task that adds a user does so elsewhere.
  by_cases hempty : ∃ salt now name, t = .request (.createUser salt now email "" name)
  · obtain ⟨salt, now, name, rfl⟩ := hempty
    have hcall : ∃ e, Accounts.createUser setup salt now email "" name = .fail e := by
      unfold Accounts.createUser
      split_ifs with h h'
      · exact ⟨_, rfl⟩
      · exact ⟨_, rfl⟩
      · exact absurd rfl h'
    obtain ⟨e, he⟩ := hcall
    show (Flow.attempt (Accounts.createUser setup salt now email "" name)).Every _
    rw [he]
    exact .done _
  · refine t.operates setup fun op hop => ?_
    cases hop with
    | message => rfl
    | request h =>
      cases h with
      | @createUser salt now email' password name hash =>
        refine decide_eq_false ?_
        rintro rfl
        by_cases hp : password = ""
        · exact hempty ⟨salt, now, name, by rw [hp]⟩
        · exact hu ⟨⟨salt, now, password, name, by simpa using hp⟩, rfl⟩
      | _ => rfl

/-- A sign-up has ended only if it has lost. -/
theorem Rival.ended {setup : Setup} {email : String} {taken : Prop} {u : SignUp}
    {r : Except Error User} (hemail : (Text.trim email).isEmpty = false)
    (h : Rival setup email taken ⟨u.task email, .done (.ok r)⟩) : taken ∧ r = .error .userExists := by
  rcases h with ⟨v, hv⟩ | ⟨v, hv⟩ | ⟨v, ht, hv⟩ | ⟨hne, -⟩
  · rw [v.call_task hemail] at hv
    exact absurd hv.symm entry_step_ne_done
  · exact absurd hv.symm entry_step_ne_done
  · obtain rfl := SignUp.task_inj (congrArg Sigma.fst hv)
    exact ⟨ht, entry_done_inj hv⟩
  · exact absurd rfl (hne u)

namespace Pool

variable {setup : Setup} {email : String} {p : Pool} {m : Move} {schedule : List Move} {w : Nat}
  {old : UserRow} {done steps : List Store.Action} {won : Nat → Prop}

/-- The email is free, may be taken, and no sign-up under it has ended. -/
structure Open (setup : Setup) (email : String) (p : Pool) : Prop where
  allowed : (.users, .insert) ∉ p.system.store.forbidden
  free : p.system.store.userByEmail? email = none
  rivals : p.Each fun _ => Rival setup email False

/-- A user has had the email since before a run, and every sign-up that has ended has lost, but for
the one that has won. -/
structure Taken (setup : Setup) (email : String) (old : UserRow) (done : List Store.Action)
    (won : Nat → Prop) (p : Pool) : Prop where
  row : ∃ row, p.system.store.holders email = [row] ∧ old.Becomes done row
  rivals : p.Each fun i c => ¬ won i → Rival setup email True c

theorem Taken.taken (h : p.Taken setup email old done won) :
    p.system.store.userByEmail? email ≠ none := by
  obtain ⟨row, hrow, -⟩ := h.row
  intro hfree
  rw [Store.holders_eq_nil.2 hfree] at hrow
  cases hrow

/-- **Once the email is taken it stays so, and every sign-up that ends has lost.** -/
theorem Taken.move (hemail : (Text.trim email).isEmpty = false)
    (h : p.Taken setup email old done won) (ht : p.Takes setup m steps) :
    (p.move setup m).Taken setup email old (done ++ steps) won where
  row := by
    obtain ⟨row, hrow, hold⟩ := h.row
    obtain ⟨row', hrow', hnew⟩ := Store.holders_after hrow steps
    exact ⟨row', ht.store ▸ hrow', hold.trans hnew⟩
  rivals := by
    refine h.rivals.move (fun i t _ _ => rival_start ..) fun i t act next _ hi hw => ?_
    rcases h.rivals i _ hi hw with ⟨u, hu⟩ | ⟨u, hu⟩ | ⟨u, -, hu⟩ | ⟨hne, hx⟩
    · rw [u.call_task hemail] at hu
      refine .lost u trivial ((entry_step_inj hu p.system).2.trans ?_)
      rw [if_pos (Option.isSome_iff_ne_none.2 h.taken)]
    · refine .lost u trivial ((entry_step_inj hu p.system).2.trans ?_)
      rw [u.answer_of_taken h.taken]
    · cases hu
    · obtain ⟨-⟩ | ⟨-, hnext⟩ := hx
      exact .bystander hne (hnext p.system)

/-- **The first sign-up that adds a user wins.** -/
theorem Open.win (h : p.Open setup email) {u : SignUp}
    (hi : p.calls[w]? = some ⟨u.task email, u.insertion setup email⟩) :
    let row := u.row setup email (p.system.store.counters.users + 1)
    (p.move setup (.advance w)).calls[w]? = some ⟨u.task email, .done (.ok (.ok row.user))⟩ ∧
      (p.move setup (.advance w)).Taken setup email row done (· = w) := by
  intro row
  obtain ⟨hanswer, hholders⟩ := u.run_operation setup h.allowed h.free
  refine ⟨?_, ⟨row, ?_, .refl _ _⟩, ?_⟩
  · rw [entry_stepped hi, hanswer]
    rfl
  · rw [move_advance hi]
    exact hholders
  · refine Each.move (fun i c hc _ => ?_) (fun i t hm => nomatch hm) fun i t act next hm hi' hw => ?_
    · rcases h.rivals i c hc with ⟨u, hu⟩ | ⟨u, hu⟩ | ⟨u, ht, -⟩ | ⟨hne, hx⟩
      · exact .asking u hu
      · exact .inserting u hu
      · exact ht.elim
      · exact .bystander hne hx
    · exact absurd (Move.advance.inj hm).symm hw

/-- While no sign-up takes the step that adds a user, the email stays free. -/
theorem Open.move (hemail : (Text.trim email).isEmpty = false) (h : p.Open setup email)
    (hrefuse : ∀ events, m = .refuse events → (.users, .insert) ∉ events)
    (hm : ∀ w (u : SignUp), m = .advance w →
      p.calls[w]? ≠ some ⟨u.task email, u.insertion setup email⟩) :
    (p.move setup m).Open setup email := by
  -- Of the entries that take a step only those that ask, and those that leave the email alone.
  have hstep : ∀ i t act next, m = .advance i → p.calls[i]? = some ⟨t, .step act next⟩ →
      Rival setup email False ⟨t, next p.system⟩ ∧
        (.users, .insert) ∉ (act p.system).store.forbidden ∧
        (act p.system).store.userByEmail? email = none := by
    intro i t act next hi hc
    rcases h.rivals i _ hc with ⟨u, hu⟩ | ⟨u, hu⟩ | ⟨u, ht, -⟩ | ⟨hne, hx⟩
    · rw [u.call_task hemail] at hu
      obtain ⟨hact, hnext⟩ := entry_step_inj hu p.system
      rw [hact, hnext, h.free]
      exact ⟨.inserting u rfl, h.allowed, h.free⟩
    · exact absurd (hu ▸ hc) (hm i u hi)
    · exact ht.elim
    · obtain ⟨-⟩ | ⟨hact, hnext⟩ := hx
      refine ⟨.bystander hne (hnext p.system), ?_⟩
      rcases hact with hact | ⟨op, hop, hact⟩ <;> rw [hact]
      · exact ⟨h.allowed, h.free⟩
      · obtain ⟨f, -, hholders⟩ := Store.holders_run (s := p.system.store) op (.inl hop)
        rw [op.forbidden_kept, ← Store.holders_eq_nil, hholders, Store.holders_eq_nil.2 h.free]
        exact ⟨h.allowed, rfl⟩
  have hrivals : (p.move setup m).Each fun _ => Rival setup email False :=
    h.rivals.move (fun i t _ => rival_start ..) fun i t act next hi hc => (hstep i t act next hi hc).1
  have hmoves := moves setup p m
  generalize p.move setup m = q at hmoves hrivals
  cases hmoves with
  | started | idle | reopened => exact ⟨h.allowed, h.free, hrivals⟩
  | stepped hi =>
    obtain ⟨-, hallowed, hfree⟩ := hstep _ _ _ _ rfl hi
    exact ⟨hallowed, hfree, hrivals⟩
  | refused events => exact ⟨hrefuse events rfl, h.free, hrivals⟩

/-- A sign-up in a place has won, and its user has had the email since. -/
def Won (setup : Setup) (email : String) (done : List Store.Action) (w : Nat) (u : SignUp) (id : Int)
    (p : Pool) : Prop :=
  p.calls[w]? = some ⟨u.task email, .done (.ok (.ok (u.row setup email id).user))⟩ ∧
    p.Taken setup email (u.row setup email id) done (· = w)

/-- **While an email is free no sign-up under it has ended, and when it is taken one has won.** -/
theorem Open.run (hemail : (Text.trim email).isEmpty = false) (h : p.Open setup email)
    (hrefuse : ∀ events, .refuse events ∈ schedule → (.users, .insert) ∉ events)
    (hrun : Runs setup p schedule done) : (p.run setup schedule).Open setup email ∨
      ∃ w u id, (p.run setup schedule).Won setup email done w u id := by
  refine hrun.induction (P := fun p done => p.Open setup email ∨
    ∃ w u id, p.Won setup email done w u id) (.inl h) fun p done m steps hm ht hp => ?_
  rcases hp with hp | ⟨w, u, id, hended, htaken⟩
  · by_cases hwin : ∃ (w : Nat) (u : SignUp), m = .advance w ∧
        p.calls[w]? = some ⟨u.task email, u.insertion setup email⟩
    · obtain ⟨w, u, rfl, hi⟩ := hwin
      exact .inr ⟨w, u, _, hp.win hi⟩
    · exact .inl (hp.move hemail (fun events h => hrefuse events (h ▸ hm))
        fun w u hm hi => hwin ⟨w, u, hm, hi⟩)
  · exact .inr ⟨w, u, id, ended_kept hended m, htaken.move hemail ht⟩

/-- An email that is taken stays so under every schedule. -/
theorem Taken.run (hemail : (Text.trim email).isEmpty = false)
    (h : p.Taken setup email old [] won) (hrun : Runs setup p schedule done) :
    (p.run setup schedule).Taken setup email old done won :=
  hrun.induction (P := fun p done => p.Taken setup email old done won) h
    fun _ _ _ _ _ ht hp => hp.move hemail ht

end Pool

/-- **Of sign-ups side by side one wins, if the email is free.**  From every store at which a run can
arrive, under every schedule of any tasks that does not refuse the insertion of users: if the email
is taken, all sign-ups under it end with the answer that the user exists, and the user who had it is
the only one.  If it is free, either none of them has ended or one has won and all others end with
that answer; the only user under the email is then the one whom the winner has added, as the winner
has asked.  What other tasks can have changed of that user is the password, and the time of the last
login (`UserRow.Becomes`).  A sign-up that is advanced twice has ended. -/
theorem one_sign_up_wins (setup : Setup) (past : List Store.Action) (series : Series)
    (outbox : List Mail) (email : String) (schedule : List Move)
    (hemail : (Text.trim email).isEmpty = false)
    (hallowed : (.users, .insert) ∉ (Store.empty.after past).forbidden)
    (hrefuse : ∀ events, .refuse events ∈ schedule → (.users, .insert) ∉ events) :
    let start := Pool.fresh ⟨Store.empty.after past, series, outbox⟩
    let pool := start.run setup schedule
    (∃ done, Pool.Runs setup start schedule done) ∧
    (∀ done, Pool.Runs setup start schedule done →
      (∀ old, start.system.store.userByEmail? email = some old →
        (∀ i (u : SignUp) r, pool.Ended i (u.task email) r → r = .error .userExists) ∧
        ∃ row, pool.system.store.users.filter (·.email = email) = [row] ∧ old.Becomes done row) ∧
      (start.system.store.userByEmail? email = none →
        ((∀ i (u : SignUp) r, ¬ pool.Ended i (u.task email) r) ∧
          pool.system.store.users.filter (·.email = email) = []) ∨
        ∃ (w : Nat) (winner : SignUp) (id : Int),
          pool.Ended w (winner.task email) (.ok (winner.row setup email id).user) ∧
          (∀ i (u : SignUp) r, pool.Ended i (u.task email) r → i ≠ w → r = .error .userExists) ∧
          ∃ row, pool.system.store.users.filter (·.email = email) = [row] ∧
            (winner.row setup email id).Becomes done row)) ∧
    ∀ before after i (u : SignUp), schedule = before ++ after →
      (start.run setup before).calls[i]? = some ⟨u.task email, (u.task email).call setup⟩ →
      2 ≤ after.countP (Move.advances i) → ∃ r, pool.Ended i (u.task email) r := by
  intro start pool
  have hconsistent : start.system.store.Consistent := (Store.sound_after past).consistent
  have hrivals (taken : Prop) : start.Each fun _ => Rival setup email taken := Pool.each_fresh _ _
  refine ⟨(Pool.stepwise_fresh _).runs setup schedule, fun done hdone => ⟨?_, ?_⟩, ?_⟩
  · intro old hold
    have htaken : start.Taken setup email old [] fun _ => False :=
      ⟨⟨old, hconsistent.holders_eq hold, .refl _ _⟩, fun i c hc _ => hrivals True i c hc⟩
    have hend := htaken.run hemail hdone
    exact ⟨fun i u r hi => ((hend.rivals i _ hi id).ended hemail).2, hend.row⟩
  · intro hfree
    have hopen : start.Open setup email := ⟨hallowed, hfree, hrivals False⟩
    rcases hopen.run hemail hrefuse hdone with hend | ⟨w, winner, id, hended, hend⟩
    · exact .inl ⟨fun i u r hi => ((hend.rivals i _ hi).ended hemail).1,
        Store.holders_eq_nil.2 hend.free⟩
    · exact .inr ⟨w, winner, id, hended,
        fun i u r hi hw => ((hend.rivals i _ hi hw).ended hemail).2, hend.row⟩
  · rintro before after i u rfl hi hn
    exact Pool.ended_of_advanced_since (u.endsWithin_task hemail) hi hn

/-- Two people who sign up under one email. -/
def ann : SignUp := ⟨[], .epoch, "secret", "Ann", rfl⟩

@[inherit_doc ann]
def anna : SignUp := ⟨[], .epoch, "hidden", "Anna", rfl⟩

/-- Both look the email up before either of them adds a user, and the second is the first to do
so. -/
def bothSignUp : List Move :=
  [.start (ann.task "ann@example.com"), .start (anna.task "ann@example.com"), .advance 0, .advance 1,
    .advance 1, .advance 0]

/-- Who comes first to add a user wins, and the other is told that the user exists. -/
theorem second_to_ask_wins :
    (Text.trim "ann@example.com").isEmpty = false ∧
    (.users, .insert) ∉ (Store.empty.after []).forbidden ∧
    (∀ events, .refuse events ∈ bothSignUp → (.users, .insert) ∉ events) ∧
    let pool := (Pool.fresh .empty).run trusting bothSignUp
    pool.Ended 1 (anna.task "ann@example.com") (.ok ⟨1, "ann@example.com", "Anna", .epoch, none⟩) ∧
    (∀ i (u : SignUp) r, pool.Ended i (u.task "ann@example.com") r → i ≠ 1 →
      r = .error .userExists) ∧
    pool.system.store.users.filter (·.email = "ann@example.com") =
      [anna.row trusting "ann@example.com" 1] := by
  have hemail : (Text.trim "ann@example.com").isEmpty = false := by decide
  have hrefuse : ∀ events, .refuse events ∈ bothSignUp → (.users, .insert) ∉ events := by
    simp [bothSignUp]
  refine ⟨hemail, List.not_mem_nil, hrefuse, ?_⟩
  intro pool
  have hanna : pool.Ended 1 (anna.task "ann@example.com")
    (.ok ⟨1, "ann@example.com", "Anna", .epoch, none⟩) := rfl
  obtain ⟨⟨done, hdone⟩, hall, -⟩ := one_sign_up_wins trusting [] .empty [] "ann@example.com"
    bothSignUp hemail List.not_mem_nil hrefuse
  rcases (hall done hdone).2 rfl with ⟨hnone, -⟩ | ⟨w, winner, id, -, hlost, -⟩
  · exact absurd hanna (hnone 1 anna _)
  · obtain rfl : 1 = w := by
      by_contra hw
      cases hlost 1 anna _ hanna hw
    exact ⟨hanna, hlost, rfl⟩

end Service
end SoilWatch
