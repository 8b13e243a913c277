/-
# Who has an email

No operation deletes a user, and none changes what a user has signed up with: the number, the email,
the name and the time of the sign-up stay (`UserRow.Becomes`).  The password hash changes only when
the password of that user is set, the time of the last login only when that user logs in.

So an email is free until somebody signs up under it, and from then on one user has it
(`holders_after`).  A number belongs to one user, too, because a new user gets one above all others
(`numbered_after`).
-/

import SoilWatch.Proofs.Store.Consistency

namespace SoilWatch

open Time (Instant)

/-- What can have become of the row of a user in a run. -/
structure UserRow.Becomes (run : List Store.Action) (old row : UserRow) : Prop where
  id : row.id = old.id
  email : row.email = old.email
  name : row.name = old.name
  createdAt : row.createdAt = old.createdAt
  passwordHash : (∀ hash, .call (.changePassword old.id hash) ∉ run) →
    row.passwordHash = old.passwordHash
  lastLogin : (∀ token createdAt expiresAt,
      .call (.startSession old.id token createdAt expiresAt) ∉ run) →
    row.lastLogin = old.lastLogin

namespace UserRow

variable {a b c : UserRow} {run run' : List Store.Action}

theorem Becomes.refl (run : List Store.Action) (r : UserRow) : Becomes run r r :=
  ⟨rfl, rfl, rfl, rfl, fun _ => rfl, fun _ => rfl⟩

/-- Runs that follow each other make of a row what they make of it in turn. -/
theorem Becomes.trans (h : Becomes run a b) (h' : Becomes run' b c) : Becomes (run ++ run') a c where
  id := h'.id.trans h.id
  email := h'.email.trans h.email
  name := h'.name.trans h.name
  createdAt := h'.createdAt.trans h.createdAt
  passwordHash hrun := by
    rw [h'.passwordHash fun hash hmem => hrun hash (List.mem_append_right _ (h.id ▸ hmem))]
    exact h.passwordHash fun hash hmem => hrun hash (List.mem_append_left _ hmem)
  lastLogin hrun := by
    rw [h'.lastLogin fun t c e hmem => hrun t c e (List.mem_append_right _ (h.id ▸ hmem))]
    exact h.lastLogin fun t c e hmem => hrun t c e (List.mem_append_left _ hmem)

end UserRow

namespace Store

variable {s s' : Store} {email : String}

/-- The users under an email. -/
def holders (s : Store) (email : String) : List UserRow :=
  s.users.filter (·.email = email)

theorem holders_eq_nil : s.holders email = [] ↔ s.userByEmail? email = none := by
  rw [holders, userByEmail?, List.filter_eq_nil_iff, List.find?_eq_none]

/-- Whether an operation signs somebody up under an email. -/
def Operation.signsUp (email : String) : Operation → Bool
  | createUser email' .. => email' = email
  | _ => false

/-- Changing rows elsewhere than in their email changes the rows of an email. -/
theorem filter_email_map {f : UserRow → UserRow} (hf : ∀ r, (f r).email = r.email)
    (rows : List UserRow) : (rows.map f).filter (·.email = email) =
      (rows.filter (·.email = email)).map f := by
  rw [List.filter_map]
  exact congrArg (fun p => (rows.filter p).map f) (funext fun r => by simp [hf])

/-- What a committed operation makes of the users under an email, unless it signs somebody up under
it. -/
theorem holders_step {op : Operation} {a : op.Answer} (h : op.run s = (.ok a, s'))
    (hop : op.signsUp email = false) : ∃ f : UserRow → UserRow,
      (∀ r : UserRow, r.Becomes [.call op] (f r)) ∧ s'.holders email = (s.holders email).map f := by
  cases op with
  | createUser email' =>
    obtain ⟨-, -, rfl, rfl⟩ := createUser_eq_ok.1 h
    refine ⟨id, .refl _, ?_⟩
    have hne : ¬ email' = email := by simpa [Operation.signsUp] using hop
    rw [holders, List.filter_append, List.filter_singleton, List.map_id]
    simp [hne, holders]
  | changePassword id passwordHash =>
    obtain ⟨-, -, rfl⟩ := changePassword_eq_ok.1 h
    refine ⟨fun r => if r.id = id then { r with passwordHash } else r, fun r => ?_,
      filter_email_map (fun r => by split <;> rfl) s.users⟩
    dsimp only
    split_ifs with hid
    · exact ⟨rfl, rfl, rfl, rfl, fun hrun => absurd (by simp [hid]) (hrun passwordHash),
        fun _ => rfl⟩
    · exact .refl _ r
  | startSession userId token createdAt expiresAt =>
    obtain ⟨-, -, -, -, -, -, -, rfl⟩ := startSession_eq_ok.1 h
    refine ⟨fun r => if r.id = userId then { r with lastLogin := some createdAt } else r, fun r => ?_,
      filter_email_map (fun r => by split <;> rfl) s.users⟩
    dsimp only
    split_ifs with hid
    · exact ⟨rfl, rfl, rfl, rfl, fun _ => rfl,
        fun hrun => absurd (by simp [hid]) (hrun token createdAt expiresAt)⟩
    · exact .refl _ r
  | _ =>
    have husers := (Operation.run_same (t := .users) h (by simp [Operation.writes])).1
    exact ⟨id, .refl _, by rw [holders, husers, List.map_id, holders]⟩

/-- What an operation makes of the users under an email, whether it is committed or fails: nobody
signs up under it while it is taken. -/
theorem holders_run (op : Operation) (hop : op.signsUp email = false ∨ s.holders email ≠ []) :
    ∃ f : UserRow → UserRow, (∀ r : UserRow, r.Becomes [.call op] (f r)) ∧
      (op.run s).2.holders email = (s.holders email).map f := by
  rcases hr : op.run s with ⟨e | a, t⟩
  · obtain rfl := Operation.run_eq_error hr
    exact ⟨id, .refl _, (List.map_id _).symm⟩
  · cases hsigns : op.signsUp email with
    | false => exact holders_step hr hsigns
    | true =>
      cases op with
      | createUser email' =>
        obtain ⟨-, hfree, -, -⟩ := createUser_eq_ok.1 hr
        obtain rfl : email' = email := by simpa [Operation.signsUp] using hsigns
        exact absurd (holders_eq_nil.2 hfree) (hop.resolve_left (by simp [hsigns]))
      | _ => cases hsigns

/-- **Who has an email keeps it** in every run, and nobody else gets it. -/
theorem holders_after {old : UserRow} (h : s.holders email = [old]) (run : List Action) :
    ∃ row, (s.after run).holders email = [row] ∧ old.Becomes run row := by
  induction run generalizing s old with
  | nil => exact ⟨old, h, .refl _ _⟩
  | cons a run ih =>
    obtain ⟨row, hrow, hold⟩ : ∃ row, (a.act s).holders email = [row] ∧ old.Becomes [a] row := by
      cases a with
      | call op =>
        have htaken : s.holders email ≠ [] := by simp [h]
        obtain ⟨f, hf, hmap⟩ := holders_run op (.inr htaken)
        exact ⟨f old, by rw [Action.act, hmap, h, List.map_singleton], hf old⟩
      | reopen | refuse => exact ⟨old, h, .refl _ _⟩
    obtain ⟨last, hlast, hrow⟩ := ih hrow
    exact ⟨last, hlast, hold.trans hrow⟩

/-! ### Who has a number -/

/-- Users are told apart by their numbers, of which none is above the last that was given. -/
structure Numbered (s : Store) : Prop where
  unique : Unique s.users (·.id)
  below : ∀ r ∈ s.users, r.id ≤ s.counters.users

theorem Numbered.mapped (hs : s.Numbered) {f : UserRow → UserRow} (hf : ∀ r, (f r).id = r.id)
    (husers : s'.users = s.users.map f) (hcounter : s'.counters.users = s.counters.users) :
    s'.Numbered := by
  refine ⟨husers ▸ hs.unique.mapped hf, fun r hr => ?_⟩
  rw [husers] at hr
  obtain ⟨old, hold, rfl⟩ := List.mem_map.1 hr
  rw [hf, hcounter]
  exact hs.below old hold

/-- **A new user gets a number that nobody has,** and nobody else gets another number. -/
theorem Numbered.step (hs : s.Numbered) {op : Operation} {a : op.Answer}
    (h : op.run s = (.ok a, s')) : s'.Numbered := by
  cases op with
  | createUser =>
    obtain ⟨-, -, rfl, rfl⟩ := createUser_eq_ok.1 h
    have hbelow : ∀ r ∈ s.users, r.id < s.counters.users + 1 := fun r hr => by
      have hle := hs.below r hr
      omega
    refine ⟨hs.unique.append fun r hr => Int.ne_of_lt (hbelow r hr), ?_⟩
    rw [List.forall_mem_append, List.forall_mem_singleton]
    exact ⟨fun r hr => Int.le_of_lt (hbelow r hr), Int.le_refl _⟩
  | changePassword =>
    obtain ⟨-, -, rfl⟩ := changePassword_eq_ok.1 h
    exact hs.mapped (fun r => by split <;> rfl) rfl rfl
  | startSession =>
    obtain ⟨-, -, -, -, -, -, -, rfl⟩ := startSession_eq_ok.1 h
    exact hs.mapped (fun r => by split <;> rfl) rfl rfl
  | _ =>
    obtain ⟨husers, hcounter⟩ := Operation.run_same (t := .users) h (by simp [Operation.writes])
    exact hs.mapped (f := id) (fun _ => rfl) (husers.trans (List.map_id _).symm) hcounter

/-- **A number belongs to one user** at the end of every run. -/
theorem numbered_after (run : List Action) : (Store.empty.after run).Numbered :=
  after_induction ⟨List.nodup_nil, fun _ hr => absurd hr List.not_mem_nil⟩
    (fun _ _ _ _ hs h => hs.step h) (fun _ _ hs => ⟨hs.unique, hs.below⟩) run

end Store
end SoilWatch
