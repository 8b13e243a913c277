/-
# What a reset token stands for

What a mailed reset token is answered with can be read off the history alone.  A token is given to a
user when it is stored for the email with which the user has signed up.  It is standing if it was the
last one given to the user, and no token of the user has been spent since (`Standing`).  The table of
reset tokens holds exactly the standing tokens of the history (`Tracks`): by `Request.effect` it is
enough to see what one more reply makes of both.

What is found in the table by a mailed string is found by the encoding of a token and by no other
string, so the three answers can be read off (`ResetAuthority`), for every string, every time and
every run.  If every token of a run is drawn anew, a token is given to one user only, and one that
has stopped standing never stands again.
-/

import SoilWatch.Proofs.Service.Deeds

namespace SoilWatch
namespace Service

open Time (Instant)
open Accounts (encodeToken decodeToken? validateReset resetOwner changePassword)

variable {setup : Setup} {s s' : System}

/-! ### Tokens in a history -/

section History

variable {h : List Reply} {r : Reply} {u u' : Int} {t t' email : String} {e e' : Instant}

/-- Whether a user with that number has signed up with an email. -/
def Registered (h : List Reply) (email : String) (userId : Int) : Prop :=
  ∃ r ∈ h, r.deed? = some (.signUp email userId)

/-- Whether a reply gives a token to a user: it stores it for the email with which the user has
signed up before. -/
def Gives (before : List Reply) (r : Reply) (userId : Int) (token : String)
    (expiresAt : Instant) : Prop :=
  ∃ email, Registered before email userId ∧ r.deed? = some (.issue email token expiresAt)

/-- Whether a token was given to a user. -/
def Issued (h : List Reply) (userId : Int) (token : String) (expiresAt : Instant) : Prop :=
  ∃ before r after, h = before ++ r :: after ∧ Gives before r userId token expiresAt

/-- Whether a reply ends the tokens that were given to a user before: it gives the user another one,
or it spends one of them. -/
def Ends (before : List Reply) (r : Reply) (userId : Int) : Prop :=
  (∃ token expiresAt, Gives before r userId token expiresAt) ∨
    ∃ token expiresAt, Issued before userId token expiresAt ∧
      r.deed? = some (.spend (encodeToken token))

/-- **A token is standing** if it was given to the user, and no later reply ends the tokens of the
user. -/
def Standing (h : List Reply) (userId : Int) (token : String) (expiresAt : Instant) : Prop :=
  ∃ before r after, h = before ++ r :: after ∧ Gives before r userId token expiresAt ∧
    ∀ past r' future, after = past ++ r' :: future → ¬ Ends (before ++ r :: past) r' userId

theorem registered_append_singleton :
    Registered (h ++ [r]) email u ↔
      Registered h email u ∨ r.deed? = some (.signUp email u) := by
  simp only [Registered, List.mem_append, List.mem_singleton, or_and_right, exists_or,
    exists_eq_left]

/-- One more reply: it gives the token, or the token was given before. -/
theorem issued_append_singleton :
    Issued (h ++ [r]) u t e ↔ Gives h r u t e ∨ Issued h u t e := by
  constructor
  · rintro ⟨before, x, after, heq, hx⟩
    rcases append_singleton_eq_split.1 heq with ⟨rfl, rfl, rfl⟩ | ⟨rest, rfl, rfl⟩
    · exact .inl hx
    · exact .inr ⟨before, x, rest, rfl, hx⟩
  · rintro (hr | ⟨before, x, after, rfl, hx⟩)
    · exact ⟨h, r, [], rfl, hr⟩
    · exact ⟨before, x, after ++ [r], by simp, hx⟩

/-- One more reply: it gives the token, or the token was standing and is not ended by it. -/
theorem standing_append_singleton :
    Standing (h ++ [r]) u t e ↔ Gives h r u t e ∨ (Standing h u t e ∧ ¬ Ends h r u) := by
  constructor
  · rintro ⟨before, x, after, heq, hx, hafter⟩
    rcases append_singleton_eq_split.1 heq with ⟨rfl, rfl, rfl⟩ | ⟨rest, rfl, rfl⟩
    · exact .inl hx
    · refine .inr ⟨⟨before, x, rest, rfl, hx, fun past r' future hrest => ?_⟩, ?_⟩
      · exact hafter past r' (future ++ [r]) (by simp [hrest])
      · exact hafter rest r [] rfl
  · rintro (hr | ⟨⟨before, x, after, rfl, hx, hafter⟩, hr⟩)
    · exact ⟨h, r, [], rfl, hr, fun past r' future heq => absurd heq (by simp)⟩
    · refine ⟨before, x, after ++ [r], by simp, hx, fun past r' future heq => ?_⟩
      rcases append_singleton_eq_split.1 heq with ⟨rfl, rfl, rfl⟩ | ⟨rest, rfl, rfl⟩
      · exact hr
      · exact hafter past r' rest rfl

/-- A token that is standing was given to the user. -/
theorem Standing.issued (hst : Standing h u t e) : Issued h u t e := by
  obtain ⟨before, r, after, heq, hr, -⟩ := hst
  exact ⟨before, r, after, heq, hr⟩

/-- A reply that stores no token gives none. -/
theorem not_gives (hd : ∀ email t e, r.deed? ≠ some (.issue email t e)) : ¬ Gives h r u t e :=
  fun ⟨email, _, hr⟩ => hd email t e hr

/-- A reply that neither stores nor spends a token ends none. -/
theorem not_ends (hd : ∀ email t e, r.deed? ≠ some (.issue email t e))
    (hd' : ∀ encoded, r.deed? ≠ some (.spend encoded)) : ¬ Ends h r u := by
  rintro (⟨t, e, hr⟩ | ⟨t, e, -, hr⟩)
  · exact not_gives hd hr
  · exact hd' _ hr

end History

/-! ### What a run keeps -/

/-- The token that is drawn in a turn. -/
def Turn.token? : Turn → Option String
  | .serve _ (.forgotPassword random _ _) => some (Accounts.tokenOf random)
  | _ => none

/-- The tokens that are drawn in a run, in order. -/
def tokens (run : List Turn) : List String :=
  run.filterMap Turn.token?

section Fresh

variable {past future : List Turn} {t : String}

theorem mem_tokens_append : t ∈ tokens (past ++ future) ↔ t ∈ tokens past ∨ t ∈ tokens future := by
  rw [tokens, List.filterMap_append]
  exact List.mem_append

/-- What is drawn anew in a run is drawn anew in its past. -/
theorem fresh_past (hfresh : (tokens (past ++ future)).Nodup) : (tokens past).Nodup := by
  rw [tokens, List.filterMap_append] at hfresh
  exact (List.nodup_append.1 hfresh).1

/-- What has been drawn is not drawn again. -/
theorem not_mem_of_fresh (hfresh : (tokens (past ++ future)).Nodup) (ht : t ∈ tokens past) :
    t ∉ tokens future := by
  rw [tokens, List.filterMap_append] at hfresh
  exact fun ht' => (List.nodup_append.1 hfresh).2.2 t ht t ht' rfl

end Fresh

/-- A token that is stored was drawn in the turn. -/
theorem Reply.token_of_issue {r : Reply} {email t : String} {e : Instant}
    (hd : r.deed? = some (.issue email t e)) : t ∈ tokens [.serve r.setup r.request] := by
  unfold Reply.deed? at hd
  split at hd
  · cases hd
  · split at hd <;> cases hd <;> exact List.mem_singleton_self _
  · cases hd
  · cases hd

/-- **The table of reset tokens is that of the history,** and so are the emails of the users.  A
token that was given was drawn in the run, and for one user only. -/
structure Tracks (run : List Turn) (h : List Reply) (s : Store) : Prop where
  sound : s.Sound
  registered : ∀ email u, Registered h email u ↔ (email, u) ∈ s.logins
  standing : ∀ u t e, Standing h u t e ↔ s.HasReset u t e
  drawn : ∀ {u t e}, Issued h u t e → t ∈ tokens run
  owner : ∀ {u u' t e e'}, Issued h u t e → Issued h u' t e' → u' = u

theorem tracks_empty : Tracks [] [] Store.empty where
  sound := Store.sound_empty
  registered email u := by simp [Registered, Store.logins, Store.empty]
  standing u t e := by simp [Standing, Store.HasReset, Store.empty]
  drawn h := by simp [Issued] at h
  owner h := by simp [Issued] at h

namespace Tracks

variable {run : List Turn} {h : List Reply} {store store' : Store} {r : Reply}

theorem registered_step (hs : Tracks run h store) (he : Effect store store' r.deed?)
    (email : String) (u : Int) :
    Registered (h ++ [r]) email u ↔ (email, u) ∈ store'.logins := by
  rw [registered_append_singleton, hs.registered]
  generalize r.deed? = d at he
  cases he with
  | quiet h => simp [h.1]
  | signedUp hlogins => simp [hlogins, eq_comm]
  | issued huser h =>
    rw [h.1]
    simp [Store.logins, Store.putReset]
  | spent hrow h =>
    rw [h.1]
    simp [Store.logins, Store.dropResets]

/-- A reply that stores a token gives it to the user of the email. -/
theorem gives_iff (hs : Tracks run h store) {email t t' : String} {u u' : Int} {e e' : Instant}
    (hd : r.deed? = some (.issue email t e)) (huser : (email, u) ∈ store.logins) :
    Gives h r u' t' e' ↔ u' = u ∧ t' = t ∧ e' = e := by
  constructor
  · rintro ⟨email', hreg, hd'⟩
    obtain ⟨rfl, rfl, rfl⟩ := Deed.issue.inj (Option.some.inj (hd.symm.trans hd'))
    exact ⟨hs.sound.consistent.login_unique huser ((hs.registered ..).1 hreg), rfl, rfl⟩
  · rintro ⟨rfl, rfl, rfl⟩
    exact ⟨email, (hs.registered ..).2 huser, hd⟩

theorem standing_step (hs : Tracks run h store) (he : Effect store store' r.deed?) (u' : Int)
    (t' : String) (e' : Instant) : Standing (h ++ [r]) u' t' e' ↔ store'.HasReset u' t' e' := by
  rw [standing_append_singleton, hs.standing]
  generalize hd : r.deed? = d at he
  cases he with
  | quiet h =>
    rw [Store.hasReset_congr h.2]
    simp [not_gives, not_ends, hd]
  | signedUp _ hresets =>
    rw [Store.hasReset_congr hresets]
    simp [not_gives, not_ends, hd]
  | @issued email t u e huser h =>
    rw [Store.hasReset_congr h.2, Store.hasReset_putReset, hs.gives_iff hd huser]
    refine or_congr_right (and_congr_right fun _ => not_congr ?_)
    constructor
    · rintro (⟨t', e', hr⟩ | ⟨t', e', -, hr⟩)
      · exact ((hs.gives_iff hd huser).1 hr).1
      · simp [hd] at hr
    · rintro rfl
      exact .inl ⟨t, e, (hs.gives_iff hd huser).2 ⟨rfl, rfl, rfl⟩⟩
  | @spent t u e hrow h =>
    have hissued : Issued _ u t e := ((hs.standing ..).2 hrow).issued
    rw [Store.hasReset_congr h.2, Store.hasReset_dropResets, or_iff_right (not_gives (by simp [hd]))]
    refine and_congr_right fun _ => not_congr ?_
    constructor
    · rintro (⟨t', e', hr⟩ | ⟨t', e', hissued', hr⟩)
      · exact absurd hr (not_gives (by simp [hd]))
      · have hsame := Deed.spend.inj (Option.some.inj (hd.symm.trans hr))
        obtain rfl := Accounts.encodeToken_inj hsame
        exact hs.owner hissued hissued'
    · rintro rfl
      exact .inr ⟨t, e, hissued, hd⟩

/-- **A reply leaves the reset tokens of the history,** if no token is drawn twice. -/
theorem step (hs : Tracks run h store) (hsound : store'.Sound)
    (he : Effect store store' r.deed?)
    (hfresh : (tokens (run ++ [.serve r.setup r.request])).Nodup) :
    Tracks (run ++ [.serve r.setup r.request]) (h ++ [r]) store' := by
  -- A token that is given now was not given before.
  have hnew {u u' t e e'} (hr : Gives h r u t e) (hi : Issued h u' t e') : False := by
    obtain ⟨email, -, hd⟩ := hr
    exact not_mem_of_fresh hfresh (hs.drawn hi) (Reply.token_of_issue hd)
  refine ⟨hsound, hs.registered_step he, hs.standing_step he, fun {u t e} hi => ?_,
    fun {u u' t e e'} hi hi' => ?_⟩
  · rw [mem_tokens_append]
    rcases issued_append_singleton.1 hi with ⟨email, -, hd⟩ | hi
    · exact .inr (Reply.token_of_issue hd)
    · exact .inl (hs.drawn hi)
  · rcases issued_append_singleton.1 hi with hr | hi <;>
      rcases issued_append_singleton.1 hi' with hr' | hi'
    · obtain ⟨email, hreg, hd⟩ := hr
      exact ((hs.gives_iff hd ((hs.registered ..).1 hreg)).1 hr').1
    · exact (hnew hr hi').elim
    · exact (hnew hr' hi).elim
    · exact hs.owner hi hi'

end Tracks

/-- **The table of reset tokens is that of the history after every run** in which no token is drawn
twice. -/
theorem tracks_served (run : List Turn) (hfresh : (tokens run).Nodup) :
    Tracks run (replies .empty run) (served .empty run).store := by
  revert hfresh
  refine turns_induction (P := fun run h s => (tokens run).Nodup → Tracks run h s.store)
    (fun _ => tracks_empty) (fun run h s setup r ih hfresh => ?_)
    (fun run h s events ih hfresh => ?_) run
  · have hs : Tracks run h s.store := ih (fresh_past hfresh)
    exact hs.step (r.sound setup hs.sound) (r.effect setup s) hfresh
  · have hs : Tracks run h s.store := ih (fresh_past hfresh)
    exact ⟨hs.sound.refused events, hs.registered, hs.standing,
      fun hi => mem_tokens_append.2 (.inl (hs.drawn hi)), hs.owner⟩

/-! ### What a mailed token is answered with -/

/-- A mailed token is found if its row is there. -/
theorem resetByEncoded_eq_some {store : Store} (hs : store.Consistent) {encoded : String}
    {row : ResetRow} : (decodeToken? encoded).bind store.resetByToken? = some row ↔
      row ∈ store.resets ∧ encoded = encodeToken row.token := by
  simp only [Option.bind_eq_some_iff, Accounts.decodeToken?_eq_some]
  constructor
  · rintro ⟨t, rfl, h⟩
    have ht : row.token = t := by simpa using List.find?_some h
    exact ⟨List.mem_of_find?_eq_some h, by rw [ht]⟩
  · rintro ⟨hrow, rfl⟩
    exact ⟨_, rfl, hs.resetTokens.find?_eq_some hrow rfl⟩

/-- **What the history says of a mailed string at a time:** who stands behind it, and which of the
three answers it gets. -/
structure ResetAuthority (h : List Reply) (now : Instant) (encoded : String)
    (answer : Except Error Int) : Prop where
  ok : ∀ u, answer = .ok u ↔ ∃ t e, encoded = encodeToken t ∧ Standing h u t e ∧ now ≤ e
  expired : answer = .error .expiredToken ↔
    ∃ u t e, encoded = encodeToken t ∧ Standing h u t e ∧ e < now
  invalid : answer = .error .invalidToken ↔ ∀ u t e, encoded = encodeToken t → ¬ Standing h u t e

/-- The store answers what the history says. -/
theorem Tracks.authority {run : List Turn} {h : List Reply} (hs : Tracks run h s.store)
    (now : Instant) (encoded : String) :
    ResetAuthority h now encoded ((validateReset now encoded).run s).1 := by
  have hconsistent := hs.sound.consistent
  rw [Accounts.run_validateReset]
  cases hf : (decodeToken? encoded).bind s.store.resetByToken? with
  | none =>
    have hnone : ∀ u t e, encoded = encodeToken t → ¬ Standing h u t e := by
      rintro u t e rfl hst
      obtain ⟨row, hrow, -, rfl, -⟩ := (hs.standing ..).1 hst
      rw [(resetByEncoded_eq_some hconsistent).2 ⟨hrow, rfl⟩] at hf
      cases hf
    refine ⟨fun u => iff_of_false nofun ?_, iff_of_false nofun ?_, iff_of_true rfl hnone⟩
    · rintro ⟨t, e, hencoded, hst, -⟩
      exact hnone u t e hencoded hst
    · rintro ⟨u, t, e, hencoded, hst, -⟩
      exact hnone u t e hencoded hst
  | some row =>
    obtain ⟨hrow, rfl⟩ := (resetByEncoded_eq_some hconsistent).1 hf
    have hst := (hs.standing ..).2 ⟨row, hrow, rfl, rfl, rfl⟩
    -- The string is the encoding of one token, and the token is in one row.
    have hunique {u t e} (hencoded : encodeToken row.token = encodeToken t)
        (hst' : Standing h u t e) : u = row.userId ∧ e = row.expiresAt := by
      obtain ⟨row', hrow', rfl, rfl, rfl⟩ := (hs.standing ..).1 hst'
      rw [List.inj_on_of_nodup_map hconsistent.resetTokens hrow' hrow
        (Accounts.encodeToken_inj hencoded).symm]
      exact ⟨rfl, rfl⟩
    dsimp only
    split_ifs with hlate
    · refine ⟨fun u => iff_of_false nofun ?_, iff_of_true rfl ⟨_, _, _, rfl, hst, hlate⟩,
        iff_of_false nofun fun hnone => hnone _ _ _ rfl hst⟩
      rintro ⟨t, e, hencoded, hst', hle⟩
      obtain ⟨-, rfl⟩ := hunique hencoded hst'
      exact Instant.not_le.2 hlate hle
    · refine ⟨fun u => ?_, iff_of_false nofun ?_,
        iff_of_false nofun fun hnone => hnone _ _ _ rfl hst⟩
      · constructor
        · intro h
          obtain rfl := Except.ok.inj h
          exact ⟨_, _, rfl, hst, Instant.not_lt.1 hlate⟩
        · rintro ⟨t, e, hencoded, hst', -⟩
          obtain ⟨rfl, -⟩ := hunique hencoded hst'
          rfl
      · rintro ⟨u, t, e, hencoded, hst', hlt⟩
        obtain ⟨-, rfl⟩ := hunique hencoded hst'
        exact hlate hlt

namespace Accounts

variable {salt : Octets} {now : Instant} {encoded password : String} {e : Error}

/-- Validating a mailed token changes nothing. -/
theorem run_validateReset_eq (s : System) (now : Instant) (encoded : String) :
    (validateReset now encoded).run s = (((validateReset now encoded).run s).1, s) :=
  Prod.ext rfl (by rw [run_validateReset])

/-- Who asks for the owner of a mailed token that is turned down gets the same answer. -/
theorem resetOwner_refused (h : ((validateReset now encoded).run s).1 = .error e) :
    (resetOwner now encoded).run s = (.error e, s) := by
  rw [resetOwner, Flow.run_bind, run_validateReset_eq, h]

/-- **A password is not changed through a mailed token that is turned down.** -/
theorem changePassword_refused (hp : password ≠ "")
    (h : ((validateReset now encoded).run s).1 = .error e) :
    (changePassword setup salt now encoded password).run s = (.error e, s) := by
  rw [changePassword, if_neg (by simpa using hp), Flow.run_bind, run_validateReset_eq, h]

/-- A password was changed only through a mailed token that is accepted, be it that the reset tokens
could not be removed. -/
theorem validateReset_of_changed
    (h : ((changePassword setup salt now encoded password).run s).1 = .ok () ∨ ∃ reason,
      ((changePassword setup salt now encoded password).run s).1 = .error (.resetCleanup reason)) :
    ∃ u, ((validateReset now encoded).run s).1 = .ok u := by
  by_cases hp : password = ""
  · rw [changePassword, if_pos (by simpa using hp)] at h
    simp at h
  cases hv : ((validateReset now encoded).run s).1 with
  | ok u => exact ⟨u, rfl⟩
  | error e =>
    rw [changePassword_refused hp hv] at h
    obtain ⟨rfl | rfl, -⟩ := failsTo_validateReset now encoded e s
      ((run_validateReset_eq s now encoded).trans (by rw [hv]))
    · simp at h
    · simp at h

/-- **A password is changed through a mailed token that is accepted,** if no event is refused. -/
theorem changePassword_accepted (hs : s.store.Consistent) (hforbidden : s.store.forbidden = [])
    (hp : password ≠ "") {u : Int} (h : ((validateReset now encoded).run s).1 = .ok u) :
    ((changePassword setup salt now encoded password).run s).1 = .ok () := by
  obtain ⟨-, token, row, -, hrow, rfl⟩ :=
    validateReset_eq_ok ((run_validateReset_eq s now encoded).trans (by rw [h]))
  have huser := Store.usersWithId_ne_zero
    (hs.resetUser (List.mem_map_of_mem (List.mem_of_find?_eq_some hrow)))
  have hchange : s.store.changePassword row.userId (setup.hasher.hash salt password) =
      (.ok true, s.store.setPassword row.userId (setup.hasher.hash salt password)) :=
    Store.changePassword_eq_ok.2 ⟨.inr (by simp [hforbidden]), by simpa using huser, rfl⟩
  obtain ⟨n, t, hdelete⟩ : ∃ n t, (s.store.setPassword row.userId
      (setup.hasher.hash salt password)).deleteUserResets row.userId = (.ok n, t) :=
    ⟨_, _, Store.deleteUserResets_eq_ok.2
      ⟨.inr (by simp [Store.setPassword, hforbidden]), rfl, rfl⟩⟩
  rw [changePassword, if_neg (by simpa using hp), Flow.run_bind, run_validateReset_eq, h]
  simp [Flow.run_bind, run_onStore, hchange, Except.mapError, tryStore, hdelete]

/-- **A change of password that could not remove the reset tokens leaves them as they were.** -/
theorem validateReset_of_cleanup {reason : String}
    (h : (changePassword setup salt now encoded password).run s =
      (.error (.resetCleanup reason), s')) (now' : Instant) (encoded' : String) :
    ((validateReset now' encoded').run s').1 = ((validateReset now' encoded').run s).1 := by
  obtain ⟨token, row, user, -, -, -, -, hs'⟩ := failsTo_changePassword salt now encoded password _ _ h
  rw [run_validateReset, run_validateReset, hs']
  rfl

end Accounts

/-! ### Tokens that have stopped standing -/

/-- A token that is standing was standing before, or was issued since. -/
theorem Standing.of_append {h g : List Reply} {u : Int} {t : String} {e : Instant}
    (hst : Standing (h ++ g) u t e) :
    Standing h u t e ∨ ∃ r ∈ g, ∃ email, r.deed? = some (.issue email t e) := by
  induction g using List.reverseRecOn with
  | nil => exact .inl (by simpa using hst)
  | append_singleton g r ih =>
    rw [← List.append_assoc, standing_append_singleton] at hst
    rcases hst with ⟨email, -, hd⟩ | ⟨hst, -⟩
    · exact .inr ⟨r, by simp, email, hd⟩
    · rcases ih hst with hst | ⟨r', hr', hd⟩
      · exact .inl hst
      · exact .inr ⟨r', by simp [hr'], hd⟩

/-- A token that a run stores is drawn in the run. -/
theorem mem_tokens_of_issue {start : System} {run : List Turn} {r : Reply} {email t : String}
    {e : Instant} (hr : r ∈ replies start run) (hd : r.deed? = some (.issue email t e)) :
    t ∈ tokens run := by
  induction run generalizing start with
  | nil => cases hr
  | cons turn run ih =>
    show t ∈ tokens ([turn] ++ run)
    rw [mem_tokens_append]
    rcases List.mem_append.1 hr with h | h
    · cases turn with
      | serve setup request =>
        obtain rfl := List.mem_singleton.1 h
        exact .inl (Reply.token_of_issue hd)
      | refuse => cases h
    · exact .inr (ih h)

/-- A token that was drawn before stands after a run only if it stood before it. -/
theorem standing_of_fresh {past future : List Turn} {u : Int} {t : String} {e : Instant}
    (hfresh : (tokens (past ++ future)).Nodup) (hdrawn : t ∈ tokens past)
    (hst : Standing (replies .empty (past ++ future)) u t e) :
    Standing (replies .empty past) u t e := by
  rw [replies_append] at hst
  refine hst.of_append.resolve_right ?_
  rintro ⟨r, hr, email, hd⟩
  exact not_mem_of_fresh hfresh hdrawn (mem_tokens_of_issue hr hd)

/-- A spent token ends all tokens that were given to its user. -/
theorem Tracks.not_standing_of_spend {run : List Turn} {h : List Reply} {store : Store} {r : Reply}
    (hs : Tracks run h store) {u u' : Int} {t t' : String} {e e' e'' : Instant}
    (hi : Issued h u t e) (hd : r.deed? = some (.spend (encodeToken t))) (hi' : Issued h u t' e') :
    ¬ Standing (h ++ [r]) u' t' e'' := by
  rw [standing_append_singleton]
  rintro (hr | ⟨hst, hends⟩)
  · exact not_gives (by simp [hd]) hr
  · obtain rfl := hs.owner hi' hst.issued
    exact hends (.inr ⟨t, e, hi, hd⟩)

/-! ### The authority of a reset token -/

/-- What a mailed token is answered with after a run. -/
def resetAnswer (run : List Turn) (now : Instant) (encoded : String) : Except Error Int :=
  ((validateReset now encoded).run (served .empty run)).1

/-- Whether all that can be done with a mailed token is turned down as invalid, and changes
nothing. -/
structure TurnedDown (s : System) (encoded : String) : Prop where
  validate : ∀ now, (validateReset now encoded).run s = (.error .invalidToken, s)
  owner : ∀ now, (resetOwner now encoded).run s = (.error .invalidToken, s)
  change : ∀ setup salt now password, password ≠ "" →
    (changePassword setup salt now encoded password).run s = (.error .invalidToken, s)

theorem turnedDown_of_invalid {s : System} {encoded : String}
    (h : ∀ now, ((validateReset now encoded).run s).1 = .error .invalidToken) :
    TurnedDown s encoded where
  validate now := (Accounts.run_validateReset_eq s now encoded).trans (by rw [h])
  owner now := Accounts.resetOwner_refused (h now)
  change _ _ now _ hp := Accounts.changePassword_refused hp (h now)

/-- **Once a token of a user is spent, all tokens that were given to the user are turned down,**
whatever comes behind, if no token is drawn twice. -/
theorem turnedDown_of_spent {past future : List Turn} {setup : Setup} {salt : Octets}
    {now : Instant} {encoded password : String}
    (hfresh : (tokens (past ++ .serve setup (.changePassword salt now encoded password) ::
      future)).Nodup)
    (hok : ((changePassword setup salt now encoded password).run (served .empty past)).1 = .ok ()) :
    ∃ u, resetAnswer past now encoded = .ok u ∧
      ∀ t e, Issued (replies .empty past) u t e →
        TurnedDown (served .empty (past ++
          .serve setup (.changePassword salt now encoded password) :: future)) (encodeToken t) := by
  have hs := tracks_served past (fresh_past hfresh)
  obtain ⟨u, hv, -⟩ := Accounts.of_changePassword (Prod.ext hok rfl)
  have hanswer : resetAnswer past now encoded = .ok u := congrArg Prod.fst hv
  obtain ⟨t, e, rfl, hst, -⟩ := ((hs.authority now encoded).ok u).1 hanswer
  refine ⟨u, hanswer, fun t' e' hi => turnedDown_of_invalid fun now' => ?_⟩
  refine ((tracks_served _ hfresh).authority now' _).invalid.2 fun u' t'' e'' heq hst' => ?_
  obtain rfl := Accounts.encodeToken_inj heq
  -- The token would have been standing right behind the reply that spends a token of its user.
  rw [List.append_cons] at hfresh hst'
  have hst' := standing_of_fresh hfresh (mem_tokens_append.2 (.inl (hs.drawn hi))) hst'
  rw [replies_append] at hst'
  refine hs.not_standing_of_spend hst.issued ?_ hi hst'
  show Reply.deed? ⟨setup, .changePassword salt now (encodeToken t) password,
    ((changePassword setup salt now (encodeToken t) password).run (served .empty past)).1⟩ = _
  rw [hok]
  rfl

/-- **The authority of a reset token is its history.**  Let no token be drawn twice.  After every run
from the empty store, whatever became of mails, pages and statements, a mailed string is answered
with the user whose last token it encodes, if no token of the user was spent since; or as expired if
the time of that token is over; or as invalid in every other case.  A password is changed through a
string only if it is answered with a user, and is changed through every such string if no event is
refused; a string that is turned down changes nothing.  A change that could not remove the reset
tokens leaves all answers; one that succeeded makes every token that was given to the user before
invalid from then on. -/
theorem reset_tokens_refine_history :
    (∀ (run : List Turn) (now : Instant) (encoded : String), (tokens run).Nodup →
      (validateReset now encoded).run (served .empty run) =
          (resetAnswer run now encoded, served .empty run) ∧
        ResetAuthority (replies .empty run) now encoded (resetAnswer run now encoded)) ∧
    (∀ (run : List Turn) (setup : Setup) (salt : Octets) (now : Instant) (encoded password : String),
      (tokens run).Nodup → password ≠ "" →
        (((changePassword setup salt now encoded password).run (served .empty run)).1 = .ok () ∨
            (∃ reason, ((changePassword setup salt now encoded password).run
              (served .empty run)).1 = .error (.resetCleanup reason)) →
          ∃ u t e, encoded = encodeToken t ∧ Standing (replies .empty run) u t e ∧ now ≤ e) ∧
        (∀ e, resetAnswer run now encoded = .error e →
          (changePassword setup salt now encoded password).run (served .empty run) =
            (.error e, served .empty run)) ∧
        (∀ u, resetAnswer run now encoded = .ok u → (served .empty run).store.forbidden = [] →
          ((changePassword setup salt now encoded password).run (served .empty run)).1 = .ok ()) ∧
        ∀ reason, ((changePassword setup salt now encoded password).run (served .empty run)).1 =
            .error (.resetCleanup reason) →
          ∀ now' encoded', resetAnswer
            (run ++ [.serve setup (.changePassword salt now encoded password)]) now' encoded' =
              resetAnswer run now' encoded') ∧
    ∀ (past future : List Turn) (setup : Setup) (salt : Octets) (now : Instant)
      (encoded password : String),
      (tokens (past ++ .serve setup (.changePassword salt now encoded password) ::
        future)).Nodup →
      ((changePassword setup salt now encoded password).run (served .empty past)).1 = .ok () →
        ∃ u, resetAnswer past now encoded = .ok u ∧
          ∀ t e, Issued (replies .empty past) u t e →
            TurnedDown (served .empty (past ++
              .serve setup (.changePassword salt now encoded password) :: future))
              (encodeToken t) := by
  refine ⟨fun run now encoded hfresh => ?_, fun run setup salt now encoded password hfresh hp =>
    ⟨fun h => ?_, fun e h => ?_, fun u h hforbidden => ?_, fun reason h now' encoded' => ?_⟩,
    fun past future setup salt now encoded password => turnedDown_of_spent⟩
  · exact ⟨Accounts.run_validateReset_eq .., (tracks_served run hfresh).authority now encoded⟩
  · obtain ⟨u, hv⟩ := Accounts.validateReset_of_changed h
    exact ⟨u, (((tracks_served run hfresh).authority now encoded).ok u).1 hv⟩
  · exact Accounts.changePassword_refused hp h
  · exact Accounts.changePassword_accepted (tracks_served run hfresh).sound.consistent hforbidden hp h
  · rw [resetAnswer, served_append]
    exact Accounts.validateReset_of_cleanup (Prod.ext h rfl) now' encoded'

/-- A user signs up and asks for two reset tokens, and neither mail can be made. -/
def forgottenTwice : List Turn :=
  [.serve withoutPages (.createUser [] .epoch "ann@example.com" "secret" "Ann"),
    .serve withoutPages (.forgotPassword [1] .epoch "ann@example.com"),
    .serve withoutPages (.forgotPassword [2] .epoch "ann@example.com")]

/-- The second token stands although its mail could not be made, and the first does not.  The
second is still good when the reset tokens could not be removed, and neither is when they were. -/
theorem second_reset_token_spent :
    (tokens forgottenTwice).Nodup ∧ "new" ≠ "" ∧
    (∃ t e, "MDI=" = encodeToken t ∧ Standing (replies .empty forgottenTwice) 1 t e ∧
      Instant.epoch ≤ e) ∧
    (changePassword withoutPages [] .epoch "MDE=" "new").run (served .empty forgottenTwice) =
      (.error .invalidToken, served .empty forgottenTwice) ∧
    ((changePassword withoutPages [] .epoch "MDI=" "new").run (served .empty forgottenTwice)).1 =
      .ok () ∧
    resetAnswer (forgottenTwice ++ [.refuse [(.resets, .delete)]] ++
      [.serve withoutPages (.changePassword [] .epoch "MDI=" "new")]) .epoch "MDI=" = .ok 1 ∧
    TurnedDown (served .empty (forgottenTwice ++
      [.serve withoutPages (.changePassword [] .epoch "MDI=" "new")])) "MDE=" ∧
    TurnedDown (served .empty (forgottenTwice ++
      [.serve withoutPages (.changePassword [] .epoch "MDI=" "new")])) "MDI=" := by
  obtain ⟨hanswer, hchange, hspent⟩ := reset_tokens_refine_history
  have hfresh : (tokens forgottenTwice).Nodup := by decide +kernel
  have hsecond : resetAnswer forgottenTwice .epoch "MDI=" = .ok 1 := by rfl
  have hstanding := ((hanswer forgottenTwice .epoch "MDI=" hfresh).2.ok 1).1 hsecond
  obtain ⟨-, hrefused, -, -⟩ :=
    hchange forgottenTwice withoutPages [] .epoch "MDE=" "new" hfresh (by decide)
  obtain ⟨-, -, haccepted, -⟩ :=
    hchange forgottenTwice withoutPages [] .epoch "MDI=" "new" hfresh (by decide)
  obtain ⟨-, -, -, hkept⟩ := hchange (forgottenTwice ++ [.refuse [(.resets, .delete)]]) withoutPages
    [] .epoch "MDI=" "new" hfresh (by decide)
  have hok := haccepted 1 hsecond rfl
  have hcleanup : ((changePassword withoutPages [] .epoch "MDI=" "new").run (served .empty
      (forgottenTwice ++ [.refuse [(.resets, .delete)]]))).1 = .error (.resetCleanup
        (Store.Error.aborted "delete_user_pw_reset_tokens" (.forbidden .delete .resets)).message) := by
    rfl
  have hstill : resetAnswer (forgottenTwice ++ [.refuse [(.resets, .delete)]]) .epoch "MDI=" =
    .ok 1 := by rfl
  obtain ⟨u, hu, hdown⟩ := hspent forgottenTwice [] withoutPages [] .epoch "MDI=" "new" hfresh hok
  obtain rfl : u = 1 := Except.ok.inj (hu.symm.trans hsecond)
  have hfirst : ∃ e, Issued (replies .empty forgottenTwice) 1 "01" e :=
    ⟨_, [_], _, [_], rfl, "ann@example.com", ⟨_, List.mem_singleton_self _, rfl⟩, rfl⟩
  obtain ⟨e, hfirst⟩ := hfirst
  obtain ⟨t, e', ht, hst, hle⟩ := hstanding
  refine ⟨hfresh, by decide, ⟨t, e', ht, hst, hle⟩, hrefused _ rfl, hok, ?_, ?_, ?_⟩
  · exact (hkept _ hcleanup _ _).trans hstill
  · exact hdown "01" e hfirst
  · have hsecond := hdown t e' hst.issued
    rwa [← ht] at hsecond

end Service
end SoilWatch
