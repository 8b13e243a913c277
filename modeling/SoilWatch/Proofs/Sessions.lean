/-
# Who a session token stands for

What a token is answered with can be read off the history alone.  A session is standing if its
login is the last committed login of the user and no committed logout of the user came after it
(`Standing`), and the table of sessions holds exactly the standing sessions of the history
(`Tracks`): a login puts one row in the place of all rows of the user, a logout takes them away, and
whatever fails or concerns another user leaves them alone.  Beside each row stands the user, stamped
with the time of that login.

The three answers of a token are read off from this (`Authority`), for every token, every time and
every run.  If every login of a run draws a token of its own, a token that has stopped standing
never stands again, because only a login with the same token could bring it back
(`Standing.of_append`).
-/

import SoilWatch.Proofs.Service.Interleaving

namespace SoilWatch
namespace Store

open Time (Instant)

variable {s s' : Store} {h : List Record} {u u' : Int} {t t' : String} {c c' e e' : Instant}

/-- The user whose sessions an operation opens or closes. -/
def Operation.sessionOwner? : Operation → Option Int
  | .startSession userId .. | .deleteUserSessions userId => some userId
  | _ => none

/-- Whether an operation was committed that ended the sessions of a user. -/
def Record.Ends (r : Record) (userId : Int) : Prop :=
  r.operation.sessionOwner? = some userId ∧ ∃ a, r.answer = .ok a

/-- Whether an operation was the login of a user with that token and these times, and was
committed. -/
def Record.Opens (r : Record) (userId : Int) (token : String) (createdAt expiresAt : Instant) :
    Prop :=
  ∃ row, r = ⟨.startSession userId token createdAt expiresAt, .ok row⟩

/-- **A session is standing** if the history has its login, and no login and no logout of the user
behind it. -/
def Standing (h : List Record) (userId : Int) (token : String) (createdAt expiresAt : Instant) :
    Prop :=
  ∃ before r after, h = before ++ r :: after ∧ r.Opens userId token createdAt expiresAt ∧
    ∀ r' ∈ after, ¬ r'.Ends userId

theorem not_standing_nil : ¬ Standing [] u t c e := by
  rintro ⟨before, r, after, h, -⟩
  simp at h

theorem Record.Opens.ends {r : Record} (hr : r.Opens u t c e) : r.Ends u := by
  obtain ⟨row, rfl⟩ := hr
  exact ⟨rfl, row, rfl⟩

/-- One more operation: it opens the session, or the session was standing and is not ended by it. -/
theorem standing_append_singleton {r : Record} :
    Standing (h ++ [r]) u t c e ↔ r.Opens u t c e ∨ (Standing h u t c e ∧ ¬ r.Ends u) := by
  constructor
  · rintro ⟨before, x, after, heq, hx, hafter⟩
    -- The last record is the login itself, or stands behind it.
    rcases List.eq_nil_or_concat after with rfl | ⟨after, y, rfl⟩
    · obtain ⟨-, hr⟩ := List.append_inj' heq rfl
      obtain rfl := List.singleton_inj.1 hr
      exact .inl hx
    · rw [List.concat_eq_append, ← List.cons_append, ← List.append_assoc] at heq
      obtain ⟨hh, hr⟩ := List.append_inj' heq rfl
      obtain rfl := List.singleton_inj.1 hr
      refine .inr ⟨⟨before, x, after, hh, hx, fun r' h' => ?_⟩, ?_⟩
      · exact hafter r' (by simp [h'])
      · exact hafter r (by simp)
  · rintro (hr | ⟨⟨before, x, after, rfl, hx, hafter⟩, hr⟩)
    · exact ⟨h, r, [], rfl, hr, fun _ h' => absurd h' List.not_mem_nil⟩
    · refine ⟨before, x, after ++ [r], by simp, hx, fun r' h' => ?_⟩
      rcases List.mem_append.1 h' with h' | h'
      · exact hafter r' h'
      · rw [List.mem_singleton.1 h']
        exact hr

/-- An operation that ends nobody's sessions leaves those that are standing. -/
theorem standing_append_of_not_ends {r : Record} (hr : ∀ u, ¬ r.Ends u) :
    Standing (h ++ [r]) u t c e ↔ Standing h u t c e := by
  rw [standing_append_singleton]
  constructor
  · rintro (ho | ⟨hs, -⟩)
    · exact absurd ho.ends (hr u)
    · exact hs
  · exact fun hs => .inr ⟨hs, hr u⟩

/-! ### The table of sessions -/

/-- Whether the table has a session of that user, token and times. -/
def HasSession (s : Store) (userId : Int) (token : String) (createdAt expiresAt : Instant) : Prop :=
  ∃ row ∈ s.sessions, row.userId = userId ∧ row.token = token ∧ row.createdAt = createdAt ∧
    row.expiresAt = expiresAt

theorem hasSession_openSession :
    (s.openSession u t c e).HasSession u' t' c' e' ↔
      (u' = u ∧ t' = t ∧ c' = c ∧ e' = e) ∨ (s.HasSession u' t' c' e' ∧ u' ≠ u) := by
  constructor
  · rintro ⟨row, hrow, rfl, rfl, rfl, rfl⟩
    rcases List.mem_append.1 hrow with hm | hm
    · obtain ⟨hm, hne⟩ := List.mem_filter.1 hm
      exact .inr ⟨⟨row, hm, rfl, rfl, rfl, rfl⟩, by simpa using hne⟩
    · rw [List.mem_singleton.1 hm]
      exact .inl ⟨rfl, rfl, rfl, rfl⟩
  · rintro (⟨rfl, rfl, rfl, rfl⟩ | ⟨⟨row, hm, rfl, rfl, rfl, rfl⟩, hne⟩)
    · exact ⟨_, List.mem_append_right _ (List.mem_singleton_self _), rfl, rfl, rfl, rfl⟩
    · refine ⟨row, List.mem_append_left _ (List.mem_filter.2 ⟨hm, ?_⟩), rfl, rfl, rfl, rfl⟩
      simpa using hne

theorem hasSession_dropSessions :
    (s.dropSessions u).HasSession u' t' c' e' ↔ s.HasSession u' t' c' e' ∧ u' ≠ u := by
  constructor
  · rintro ⟨row, hrow, rfl, rfl, rfl, rfl⟩
    obtain ⟨hm, hne⟩ := List.mem_filter.1 hrow
    exact ⟨⟨row, hm, rfl, rfl, rfl, rfl⟩, by simpa using hne⟩
  · rintro ⟨⟨row, hm, rfl, rfl, rfl, rfl⟩, hne⟩
    exact ⟨row, List.mem_filter.2 ⟨hm, by simpa using hne⟩, rfl, rfl, rfl, rfl⟩

/-! ### What a run keeps -/

/-- **The table of sessions is that of the history.**  Tokens tell the rows apart, and beside each
row stands its user, stamped with the time of the login. -/
structure Tracks (h : List Record) (s : Store) : Prop where
  standing : ∀ u t c e, Standing h u t c e ↔ s.HasSession u t c e
  distinct : (s.sessions.map (·.token)).Nodup
  stamped : ∀ row ∈ s.sessions, ∃ user,
    s.userById? row.userId = some user ∧ user.lastLogin = some row.createdAt

theorem userById?_setPassword (s : Store) (id : Int) (passwordHash : String) (u : Int) :
    (s.setPassword id passwordHash).userById? u =
      (s.userById? u).map fun r => if r.id = id then { r with passwordHash } else r :=
  find?_map_eq (fun r => by split <;> rfl) s.users

theorem userById?_openSession (s : Store) (u u' : Int) (t : String) (c e : Instant) :
    (s.openSession u t c e).userById? u' =
      (s.userById? u').map fun r => if r.id = u then { r with lastLogin := some c } else r :=
  find?_map_eq (fun r => by split <;> rfl) s.users

/-- A user who is there is found when there is one more, too. -/
theorem userById?_append {user : UserRow} {rows : List UserRow} {n : Counters}
    (hu : s.userById? u = some user) :
    { s with users := s.users ++ rows, counters := n }.userById? u = some user := by
  show (s.users ++ rows).find? _ = _
  rw [List.find?_append, show s.users.find? _ = some user from hu, Option.some_or]

/-- A login leaves one row for the user, whose token nobody else has. -/
theorem nodup_tokens_openSession (hs : (s.sessions.map (·.token)).Nodup)
    (ht : (s.dropSessions u).sessionByToken? t = none) :
    ((s.openSession u t c e).sessions.map (·.token)).Nodup := by
  show ((s.sessions.filter (·.userId ≠ u) ++ [s.newSession u t c e]).map (·.token)).Nodup
  rw [List.map_append, List.nodup_append]
  refine ⟨hs.sublist (List.filter_sublist.map _), List.nodup_singleton _, ?_⟩
  intro a ha b hb hab
  obtain ⟨row, hrow, rfl⟩ := List.mem_map.1 ha
  have hb : b = t := List.mem_singleton.1 hb
  exact absurd (List.find?_eq_none.1 ht row hrow) (by simp [hab, hb])

theorem tracks_empty : Tracks [] Store.empty := by
  refine ⟨fun u t c e => iff_of_false not_standing_nil ?_, List.nodup_nil,
    fun _ h => absurd h List.not_mem_nil⟩
  rintro ⟨row, hrow, -⟩
  cases hrow

/-- **A user whose sessions are not ended** is given out as before. -/
theorem Operation.user_kept {op : Operation} {a : op.Answer} {user : UserRow}
    (hr : op.run s = (.ok a, s')) (hends : ¬ Record.Ends ⟨op, .ok a⟩ u)
    (hu : s.userById? u = some user) : ∃ user', s'.userById? u = some user' ∧
      user'.user = user.user := by
  have hid : user.id = u := by simpa using List.find?_some hu
  cases op with
  | startSession u' t c e =>
    obtain ⟨-, -, -, -, -, -, -, rfl⟩ := startSession_eq_ok.1 hr
    have hne : user.id ≠ u' := by
      rintro rfl
      exact hends ⟨congrArg some hid, a, rfl⟩
    exact ⟨user, by rw [userById?_openSession, hu, Option.map_some, if_neg hne], rfl⟩
  | createUser =>
    obtain ⟨-, -, -, rfl⟩ := createUser_eq_ok.1 hr
    exact ⟨user, userById?_append hu, rfl⟩
  | changePassword id hash =>
    obtain ⟨-, -, rfl⟩ := changePassword_eq_ok.1 hr
    refine ⟨_, by rw [userById?_setPassword, hu]; rfl, ?_⟩
    dsimp only
    split <;> rfl
  | _ =>
    refine ⟨user, ?_, rfl⟩
    rwa [userById?, (Operation.run_same (t := .users) hr (by simp [Operation.writes])).1]

/-- **A committed operation leaves the sessions of the history.** -/
theorem Tracks.done {op : Operation} {a : op.Answer} (hs : Tracks h s)
    (hr : op.run s = (.ok a, s')) : Tracks (h ++ [⟨op, .ok a⟩]) s' := by
  -- A row that is still there belongs to a user whose sessions were not ended.
  have hstamped : ∀ row ∈ s.sessions, ¬ Record.Ends ⟨op, .ok a⟩ row.userId →
      ∃ user, s'.userById? row.userId = some user ∧ user.lastLogin = some row.createdAt := by
    intro row hrow hends
    obtain ⟨user, hfound, hlast⟩ := hs.stamped row hrow
    obtain ⟨user', hfound', heq⟩ := Operation.user_kept hr hends hfound
    exact ⟨user', hfound', (congrArg User.lastLogin heq).trans hlast⟩
  cases op with
  | startSession u t c e =>
    obtain ⟨-, -, -, -, ht, hsome, rfl, rfl⟩ := startSession_eq_ok.1 hr
    refine ⟨fun u' t' c' e' => ?_, nodup_tokens_openSession hs.distinct ht, fun row hrow => ?_⟩
    · rw [standing_append_singleton, hasSession_openSession, hs.standing]
      refine or_congr ⟨?_, ?_⟩ (and_congr_right fun _ => ?_)
      · rintro ⟨row, h⟩
        cases h
        exact ⟨rfl, rfl, rfl, rfl⟩
      · rintro ⟨rfl, rfl, rfl, rfl⟩
        exact ⟨_, rfl⟩
      · simp [Record.Ends, Operation.sessionOwner?, eq_comm]
    · rcases List.mem_append.1 hrow with hm | hm
      · obtain ⟨hm, hne⟩ := List.mem_filter.1 hm
        refine hstamped row hm fun ⟨hu, _⟩ => ?_
        simp [(Option.some.inj hu).symm] at hne
      · obtain ⟨user, hfound⟩ := Option.isSome_iff_exists.1 hsome
        have hid : user.id = u := by simpa using List.find?_some hfound
        rw [List.mem_singleton.1 hm, userById?_openSession]
        exact ⟨_, by rw [show (s.newSession u t c e).userId = u from rfl, hfound, Option.map_some,
          if_pos hid], rfl⟩
  | deleteUserSessions u =>
    obtain ⟨-, -, rfl⟩ := deleteUserSessions_eq_ok.1 hr
    refine ⟨fun u' t' c' e' => ?_, hs.distinct.sublist (List.filter_sublist.map _),
      fun row hrow => ?_⟩
    · rw [standing_append_singleton, hasSession_dropSessions, hs.standing]
      constructor
      · rintro (⟨row, h⟩ | ⟨hrow, hne⟩)
        · cases h
        · exact ⟨hrow, fun h => hne ⟨by rw [h]; rfl, _, rfl⟩⟩
      · rintro ⟨hrow, hne⟩
        exact .inr ⟨hrow, fun ⟨h, _⟩ => hne (Option.some.inj h).symm⟩
    · exact hs.stamped row (List.mem_of_mem_filter hrow)
  | _ =>
    have hends : ∀ u, ¬ Record.Ends ⟨_, .ok a⟩ u := fun u h => by cases h.1
    have hsame := (Operation.run_same (t := .sessions) hr (by simp [Operation.writes])).1
    refine ⟨fun u t c e => ?_, by rw [hsame]; exact hs.distinct, fun row hrow => ?_⟩
    · rw [standing_append_of_not_ends hends, hs.standing, HasSession, HasSession, hsame]
    · exact hstamped row (hsame ▸ hrow) (hends _)

/-- **The table of sessions is that of the history after every run.** -/
theorem tracks_after (run : List Action) :
    Tracks (Store.empty.history run) (Store.empty.after run) := by
  refine history_induction tracks_empty (fun h s op a s' hs hr => hs.done hr) ?_ ?_ run
  · intro h s op e hs
    have hends : ∀ u, ¬ Record.Ends ⟨op, .error e⟩ u := fun u ⟨_, a, h⟩ => by cases h
    exact ⟨fun u t c e' => (standing_append_of_not_ends hends).trans (hs.standing ..), hs.distinct,
      hs.stamped⟩
  · exact fun h s events hs => ⟨hs.standing, hs.distinct, hs.stamped⟩

/-! ### What a token is answered with -/

open Service.Accounts (validateToken)

/-- What the store answers a session token with at a time. -/
def answerTo (s : Store) (now : Instant) (token : String) : Except Service.Error User :=
  ((validateToken now token).run { System.empty with store := s }).1

/-- The answer is read off the session with the token and off its user, and nothing is changed. -/
theorem run_validateToken (system : System) (now : Instant) (t : String) :
    (validateToken now t).run system =
      (match system.store.sessionByToken? t with
        | none => .error .invalidToken
        | some session =>
          if session.expiresAt < now then .error .expiredToken
          else
            match system.store.userById? session.userId with
            | none => .error .invalidToken
            | some row => .ok row.user, system) := by
  simp only [validateToken, Service.lookStore, Flow.run_bind, Flow.run_look]
  cases system.store.sessionByToken? t with
  | none => rfl
  | some session =>
    dsimp only
    split
    · rfl
    · simp only [Flow.run_bind, Flow.run_look]
      cases system.store.userById? session.userId <;> rfl

/-- The answer depends on the store only. -/
theorem run_validateToken_eq (system : System) (now : Instant) (t : String) :
    (validateToken now t).run system = (system.store.answerTo now t, system) := by
  rw [answerTo, run_validateToken, run_validateToken]

/-- A token without a session is invalid. -/
theorem answerTo_of_none (h : s.sessionByToken? t = none) (now : Instant) :
    s.answerTo now t = .error .invalidToken := by
  rw [answerTo, run_validateToken]
  simp only [h]

/-- A token with a session is answered with the user, unless the session has expired. -/
theorem answerTo_of_some {session : SessionRow} {user : UserRow}
    (h : s.sessionByToken? t = some session) (hu : s.userById? session.userId = some user)
    (now : Instant) : s.answerTo now t =
      if session.expiresAt < now then .error .expiredToken else .ok user.user := by
  rw [answerTo, run_validateToken]
  simp only [h, hu]

/-- Who a token is answered with is a user of the store. -/
theorem answerTo_eq_ok {now : Instant} {user : User} (h : s.answerTo now t = .ok user) :
    ∃ row, s.userById? user.id = some row ∧ row.user = user := by
  rw [answerTo, run_validateToken] at h
  dsimp only at h
  split at h
  · cases h
  · split_ifs at h
    split at h
    · cases h
    · rename_i session _ _ _ row hrow
      obtain rfl := Except.ok.inj h
      have hid : row.id = session.userId := by simpa using List.find?_some hrow
      exact ⟨row, by rw [← hrow, ← hid]; rfl, rfl⟩

/-- A standing token is answered with its user, who is stamped with the time of the login. -/
theorem Tracks.answerTo_of_standing (hs : Tracks h s) (hst : Standing h u t c e) :
    ∃ user, s.userById? u = some user ∧ user.lastLogin = some c ∧ ∀ now, s.answerTo now t =
      if e < now then .error .expiredToken else .ok user.user := by
  obtain ⟨row, hrow, rfl, rfl, rfl, rfl⟩ := (hs.standing ..).1 hst
  obtain ⟨user, hfound, hlast⟩ := hs.stamped row hrow
  refine ⟨user, hfound, hlast, answerTo_of_some ?_ hfound⟩
  cases hf : s.sessionByToken? row.token with
  | none => exact absurd (List.find?_eq_none.1 hf row hrow) (by simp)
  | some row' =>
    have htoken : row'.token = row.token := by simpa using List.find?_some hf
    rw [List.inj_on_of_nodup_map hs.distinct (List.mem_of_find?_eq_some hf) hrow htoken]

/-- A token that is not standing is invalid. -/
theorem Tracks.answerTo_of_not_standing (hs : Tracks h s) (hst : ∀ u c e, ¬ Standing h u t c e)
    (now : Instant) : s.answerTo now t = .error .invalidToken := by
  refine answerTo_of_none (List.find?_eq_none.2 fun row hrow htoken => ?_) now
  have htoken : row.token = t := by simpa using htoken
  exact hst row.userId row.createdAt row.expiresAt
    ((hs.standing ..).2 ⟨row, hrow, rfl, htoken, rfl, rfl⟩)

/-- **A token is standing for one login only.** -/
theorem Tracks.standing_unique (hs : Tracks h s) (hst : Standing h u t c e)
    (hst' : Standing h u' t c' e') : u' = u ∧ c' = c ∧ e' = e := by
  obtain ⟨row, hrow, rfl, rfl, rfl, rfl⟩ := (hs.standing ..).1 hst
  obtain ⟨row', hrow', rfl, ht, rfl, rfl⟩ := (hs.standing ..).1 hst'
  rw [List.inj_on_of_nodup_map hs.distinct hrow' hrow ht]
  exact ⟨rfl, rfl, rfl⟩

/-- **What the history says of a token at a time:** who stands behind it, and which of the three
answers it gets. -/
structure Authority (h : List Record) (now : Instant) (t : String)
    (answer : Except Service.Error User) : Prop where
  ok : ∀ u, (∃ user, answer = .ok user ∧ user.id = u) ↔ ∃ c e, Standing h u t c e ∧ now ≤ e
  stamped : ∀ user, answer = .ok user →
    ∃ c e, Standing h user.id t c e ∧ user.lastLogin = some c
  expired : answer = .error .expiredToken ↔ ∃ u c e, Standing h u t c e ∧ e < now
  invalid : answer = .error .invalidToken ↔ ∀ u c e, ¬ Standing h u t c e

/-- The store answers what the history says. -/
theorem Tracks.authority (hs : Tracks h s) (now : Instant) (t : String) :
    Authority h now t (s.answerTo now t) := by
  by_cases hst : ∃ u c e, Standing h u t c e
  · obtain ⟨u, c, e, hst⟩ := hst
    obtain ⟨user, hfound, hlast, hans⟩ := hs.answerTo_of_standing hst
    obtain rfl : user.id = u := by simpa using List.find?_some hfound
    rw [hans]
    by_cases he : e < now
    · rw [if_pos he]
      refine ⟨fun u' => iff_of_false (by simp) ?_, by simp, iff_of_true rfl ⟨_, c, e, hst, he⟩,
        iff_of_false nofun fun h => h _ c e hst⟩
      rintro ⟨c', e', hst', he'⟩
      obtain ⟨-, -, rfl⟩ := hs.standing_unique hst hst'
      exact Instant.not_le.2 he he'
    · rw [if_neg he]
      refine ⟨fun u' => ?_, ?_, iff_of_false nofun ?_, iff_of_false nofun fun h => h _ c e hst⟩
      · constructor
        · rintro ⟨_, h, rfl⟩
          obtain rfl := Except.ok.inj h
          exact ⟨c, e, hst, Instant.not_lt.1 he⟩
        · rintro ⟨c', e', hst', -⟩
          obtain ⟨rfl, -, -⟩ := hs.standing_unique hst hst'
          exact ⟨_, rfl, rfl⟩
      · intro _ h
        obtain rfl := Except.ok.inj h
        exact ⟨c, e, hst, hlast⟩
      · rintro ⟨u', c', e', hst', he'⟩
        obtain ⟨-, -, rfl⟩ := hs.standing_unique hst hst'
        exact he he'
  · simp only [not_exists] at hst
    rw [hs.answerTo_of_not_standing hst]
    refine ⟨fun u => iff_of_false (by simp) ?_, by simp, iff_of_false nofun ?_,
      iff_of_true rfl hst⟩
    · rintro ⟨c, e, h, -⟩
      exact hst u c e h
    · rintro ⟨u, c, e, h, -⟩
      exact hst u c e h

/-! ### Tokens that have stopped standing -/

/-- The token that a step gives to a login. -/
def Action.token? : Action → Option String
  | .call (.startSession _ token ..) => some token
  | _ => none

/-- The tokens that a run gives to its logins, in order. -/
def tokens (run : List Action) : List String :=
  run.filterMap Action.token?

/-- A token that is opened in a history was given to a login of the run. -/
theorem mem_tokens {run : List Action} {r : Record} (hr : r ∈ s.history run)
    (ho : r.Opens u t c e) : t ∈ tokens run := by
  induction run generalizing s with
  | nil => cases hr
  | cons a run ih =>
    rw [tokens, List.mem_filterMap]
    rcases List.mem_append.1 hr with h | h
    · obtain ⟨row, rfl⟩ := ho
      cases a with
      | call op =>
        have hop : Operation.startSession u t c e = op :=
          congrArg Record.operation (List.mem_singleton.1 h)
        exact ⟨_, List.mem_cons_self, by rw [← hop]; rfl⟩
      | reopen => cases h
      | refuse => cases h
    · obtain ⟨a', ha', hat⟩ := List.mem_filterMap.1 (ih h)
      exact ⟨a', List.mem_cons_of_mem _ ha', hat⟩

/-- A session that is standing was standing before, or was opened since. -/
theorem Standing.of_append {g : List Record} (hst : Standing (h ++ g) u t c e) :
    Standing h u t c e ∨ ∃ r ∈ g, r.Opens u t c e := by
  induction g using List.reverseRecOn with
  | nil => exact .inl (by simpa using hst)
  | append_singleton g r ih =>
    rw [← List.append_assoc, standing_append_singleton] at hst
    rcases hst with ho | ⟨hst, -⟩
    · exact .inr ⟨r, by simp, ho⟩
    · rcases ih hst with h | ⟨r', hr', ho⟩
      · exact .inl h
      · exact .inr ⟨r', by simp [hr'], ho⟩

/-- A token that was drawn before stands after a run only if it stood before it. -/
theorem standing_of_fresh {past future : List Action} (hfresh : (tokens (past ++ future)).Nodup)
    (hdrawn : t ∈ tokens past)
    (hst : Standing (Store.empty.history (past ++ future)) u t c e) :
    Standing (Store.empty.history past) u t c e := by
  rw [history_append] at hst
  refine hst.of_append.resolve_right ?_
  rintro ⟨r, hr, ho⟩
  rw [tokens, List.filterMap_append] at hfresh
  exact (List.nodup_append.1 hfresh).2.2 t hdrawn t (mem_tokens hr ho) rfl

/-! ### Operations that do not concern a token -/

/-- Whether an operation opened a session with a token, or ended one that was standing. -/
def Record.Concerns (r : Record) (h : List Record) (token : String) : Prop :=
  ∃ userId createdAt expiresAt, r.Opens userId token createdAt expiresAt ∨
    (Standing h userId token createdAt expiresAt ∧ r.Ends userId)

/-- **An operation that does not concern a token** leaves what the token is answered with. -/
theorem Tracks.answerTo_kept {op : Operation} {a : op.Answer} (hs : Tracks h s)
    (hr : op.run s = (.ok a, s')) (hc : ¬ Record.Concerns ⟨op, .ok a⟩ h t) (now : Instant) :
    s'.answerTo now t = s.answerTo now t := by
  have hs' := hs.done hr
  -- A token that stands keeps its user, and one that does not stand is not opened.
  by_cases hst : ∃ u c e, Standing h u t c e
  · obtain ⟨u, c, e, hst⟩ := hst
    have hends : ¬ Record.Ends ⟨op, .ok a⟩ u := fun he => hc ⟨u, c, e, .inr ⟨hst, he⟩⟩
    obtain ⟨user, hfound, -, hans⟩ := hs.answerTo_of_standing hst
    obtain ⟨user', hfound', -, hans'⟩ :=
      hs'.answerTo_of_standing (standing_append_singleton.2 (.inr ⟨hst, hends⟩))
    obtain ⟨_, hkept, heq⟩ := Operation.user_kept hr hends hfound
    obtain rfl := Option.some.inj (hfound'.symm.trans hkept)
    rw [hans, hans', heq]
  · simp only [not_exists] at hst
    rw [hs.answerTo_of_not_standing hst, hs'.answerTo_of_not_standing fun u c e h => ?_]
    rcases standing_append_singleton.1 h with ho | ⟨h, -⟩
    · exact hc ⟨u, c, e, .inl ho⟩
    · exact hst u c e h

/-! ### The authority of a token -/

/-- What a token is answered with after a run. -/
def answerAfter (run : List Action) (now : Instant) (token : String) :
    Except Service.Error User :=
  (Store.empty.after run).answerTo now token

/-- A token that was drawn before and is invalid stays invalid. -/
theorem invalid_of_fresh {past future : List Action} (hfresh : (tokens (past ++ future)).Nodup)
    (hdrawn : t ∈ tokens past) {now : Instant}
    (hinvalid : answerAfter past now t = .error .invalidToken) (now' : Instant) :
    answerAfter (past ++ future) now' t = .error .invalidToken := by
  refine ((tracks_after _).authority now' t).invalid.2 fun u c e hst => ?_
  exact ((tracks_after past).authority now t).invalid.1 hinvalid u c e
    (standing_of_fresh hfresh hdrawn hst)

/-- A token that was drawn before and is good later was good before, if time has gone on. -/
theorem ok_of_fresh {past future : List Action} (hfresh : (tokens (past ++ future)).Nodup)
    (hdrawn : t ∈ tokens past) {now now' : Instant} (hnow : now ≤ now') {user : User}
    (hok : answerAfter (past ++ future) now' t = .ok user) :
    ∃ user', answerAfter past now t = .ok user' := by
  obtain ⟨c, e, hst, he⟩ := (((tracks_after _).authority now' t).ok user.id).1 ⟨user, hok, rfl⟩
  obtain ⟨user', hok', -⟩ := (((tracks_after past).authority now t).ok user.id).2
    ⟨c, e, standing_of_fresh hfresh hdrawn hst, Instant.le_trans hnow he⟩
  exact ⟨user', hok'⟩

/-- A step that does not concern a token leaves what it is answered with. -/
theorem answerAfter_kept {run : List Action} {a : Action}
    (hc : ∀ r ∈ a.records (Store.empty.after run), ¬ r.Concerns (Store.empty.history run) t)
    (now : Instant) : answerAfter (run ++ [a]) now t = answerAfter run now t := by
  rw [answerAfter, after_append]
  cases a with
  | call op =>
    show ((op.run (Store.empty.after run)).2).answerTo now t = _
    rcases hr : op.run (Store.empty.after run) with ⟨e | a, s'⟩
    · rw [Operation.run_eq_error hr]
      rfl
    · refine (tracks_after run).answerTo_kept hr (hc _ ?_) now
      rw [← show (op.run (Store.empty.after run)).1 = .ok a from congrArg Prod.fst hr]
      exact List.mem_singleton_self _
  | reopen => rfl
  | refuse events =>
    show ({ Store.empty.after run with forbidden := events } : Store).answerTo now t = _
    rw [answerAfter, answerTo, answerTo, run_validateToken, run_validateToken]
    rfl

/-- **The authority of a session token is its history.**  After every run from the empty store a
token is answered with the user whose last login it is, as the store has the user, unless a logout
of the user came after it; or as expired if its time is over; or as invalid in every other case.  If
every login draws a new token, one that is invalid stays so, and one that is not answered with a
user is not answered with one later.  A step that neither opens a session with the token nor ends
the one that it stands for leaves the answer.  Under every interleaving of requests and messages the
answers are those of the run that they go through. -/
theorem validateToken_refines_history :
    (∀ (run : List Action) (series : Series) (outbox : List Mail) (now : Instant) (t : String),
      (validateToken now t).run ⟨Store.empty.after run, series, outbox⟩ =
          (answerAfter run now t, ⟨Store.empty.after run, series, outbox⟩) ∧
        Authority (Store.empty.history run) now t (answerAfter run now t) ∧
        ∀ user, answerAfter run now t = .ok user →
          ∃ row, (Store.empty.after run).userById? user.id = some row ∧ row.user = user) ∧
    (∀ (past future : List Action) (now now' : Instant) (t : String),
      (tokens (past ++ future)).Nodup → t ∈ tokens past →
        (answerAfter past now t = .error .invalidToken →
          answerAfter (past ++ future) now' t = .error .invalidToken) ∧
        (now ≤ now' → (∀ user, answerAfter past now t ≠ .ok user) →
          ∀ user, answerAfter (past ++ future) now' t ≠ .ok user)) ∧
    (∀ (run : List Action) (a : Action) (t : String),
      (∀ r ∈ a.records (Store.empty.after run), ¬ r.Concerns (Store.empty.history run) t) →
        ∀ now, answerAfter (run ++ [a]) now t = answerAfter run now t) ∧
    ∀ (setup : Setup) (schedule : List Service.Move), ∃ run : List Action,
      Service.Pool.Runs setup .empty schedule run ∧
        ∀ now t, (validateToken now t).run (Service.Pool.empty.run setup schedule).system =
          (answerAfter run now t, (Service.Pool.empty.run setup schedule).system) := by
  refine ⟨fun run series outbox now t => ?_, fun past future now now' t hfresh hdrawn =>
    ⟨fun h => ?_, fun hnow hnot user hok => ?_⟩, fun run a t hc => answerAfter_kept hc,
    fun setup schedule => ?_⟩
  · exact ⟨run_validateToken_eq .., (tracks_after run).authority now t,
      fun user => answerTo_eq_ok⟩
  · exact invalid_of_fresh hfresh hdrawn h now'
  · obtain ⟨user', hok'⟩ := ok_of_fresh hfresh hdrawn hnow hok
    exact hnot user' hok'
  · obtain ⟨run, hrun⟩ := Service.Pool.stepwise_empty.runs setup schedule
    refine ⟨run, hrun, fun now t => ?_⟩
    rw [run_validateToken_eq, hrun.store]
    rfl

/-- A user signs up, logs in, and logs in again. -/
def loginTwice : List Action :=
  [.call (.createUser "ann@example.com" "hash" "Ann" .epoch),
    .call (.startSession 1 "first" .epoch (Instant.epoch.addSeconds 60)),
    .call (.startSession 1 "second" .epoch (Instant.epoch.addSeconds 60))]

/-- The token of the first login is invalid after the second, and stays so after a logout; reset
tokens that are deleted do not change what the second is answered with. -/
theorem first_login_superseded :
    (tokens (loginTwice ++ [.call (.deleteUserSessions 1)])).Nodup ∧
    "first" ∈ tokens loginTwice ∧
    answerAfter loginTwice .epoch "first" = .error .invalidToken ∧
    answerAfter (loginTwice ++ [.call (.deleteUserSessions 1)]) .epoch "first" =
      .error .invalidToken ∧
    (∀ user, answerAfter (loginTwice ++ [.call (.deleteUserSessions 1)]) .epoch "first" ≠
      .ok user) ∧
    answerAfter (loginTwice ++ [.call (.deleteUserResets 1)]) .epoch "second" =
      answerAfter loginTwice .epoch "second" := by
  have hfresh : (tokens (loginTwice ++ [.call (.deleteUserSessions 1)])).Nodup := by decide
  have hdrawn : "first" ∈ tokens loginTwice := by decide
  have hinvalid : answerAfter loginTwice .epoch "first" = .error .invalidToken := by rfl
  obtain ⟨hstays, hnever⟩ :=
    validateToken_refines_history.2.1 loginTwice _ .epoch .epoch "first" hfresh hdrawn
  refine ⟨hfresh, hdrawn, hinvalid, hstays hinvalid, hnever (Instant.le_refl _) ?_, ?_⟩
  · intro user
    rw [hinvalid]
    exact nofun
  · refine validateToken_refines_history.2.2.1 loginTwice _ "second" (fun r hr => ?_) .epoch
    rw [List.mem_singleton.1 hr]
    rintro ⟨u, c, e, ⟨row, h⟩ | ⟨-, h, -⟩⟩ <;> cases h

end Store
end SoilWatch
