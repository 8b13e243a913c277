/-
# The moves of a pool

A move does one of five things to a pool: a task begins, a call takes its next step, nothing happens,
the file of the store is opened again, or other events are refused (`Pool.Moves`).  So an entry of the
pool behind a move is either the one from before, or a task at its beginning, or a call that has just
taken a step (`entry_cases`), and what holds of every entry is shown by the latter two (`Each.move`).

A call that ends within some number of steps has ended when it was advanced as often, whatever the
schedule does with the others in between (`ended_of_advanced`).
-/

import SoilWatch.Proofs.Service.Interleaving

namespace SoilWatch
namespace Flow

variable {σ ε ε' α β : Type}

/-- A call that ends within so many steps, whatever it sees. -/
inductive EndsWithin : Nat → Flow σ ε α → Prop where
  | done (n : Nat) (r : Except ε α) : EndsWithin n (.done r)
  | step {n : Nat} {act : σ → σ} {next : σ → Flow σ ε α} (h : ∀ s, EndsWithin n (next s)) :
    EndsWithin (n + 1) (.step act next)

theorem endsWithin_pure (n : Nat) (a : α) : (pure a : Flow σ ε α).EndsWithin n := .done n _

theorem endsWithin_fail (n : Nat) (e : ε) : (fail e : Flow σ ε α).EndsWithin n := .done n _

theorem endsWithin_look (g : σ → α) : (look g : Flow σ ε α).EndsWithin 1 :=
  .step fun _ => .done 0 _

theorem endsWithin_atomically (t : σ → Except ε α × σ) : (atomically t).EndsWithin 1 :=
  .step fun _ => .done 0 _

theorem EndsWithin.mono {m n : Nat} {x : Flow σ ε α} (h : x.EndsWithin m) (hmn : m ≤ n) :
    x.EndsWithin n := by
  induction h generalizing n with
  | done _ r => exact .done n r
  | step _ ih =>
    obtain ⟨n, rfl⟩ : ∃ k, n = k + 1 := ⟨n - 1, by omega⟩
    exact .step fun s => ih s (by omega)

/-- A composed call takes the steps of its parts. -/
theorem EndsWithin.bind {m n : Nat} {x : Flow σ ε α} {f : α → Flow σ ε β} (hx : x.EndsWithin m)
    (hf : ∀ a, (f a).EndsWithin n) : (x >>= f).EndsWithin (m + n) := by
  induction hx with
  | done m r =>
    cases r with
    | error e => exact .done _ _
    | ok a => exact (hf a).mono (by omega)
  | @step m act next _ ih =>
    rw [Nat.add_right_comm]
    exact .step ih

theorem EndsWithin.attempt {n : Nat} {x : Flow σ ε α} (h : x.EndsWithin n) :
    (x.attempt : Flow σ ε' (Except ε α)).EndsWithin n := by
  induction h with
  | done n r => exact .done n _
  | step _ ih => exact .step ih

/-- A call that has ended takes no step. -/
theorem EndsWithin.ended {x : Flow σ ε α} (h : x.EndsWithin 0) : ∃ r, x = .done r := by
  cases h with
  | done => exact ⟨_, rfl⟩

end Flow

namespace Service

open SoilWatch.Flow

/-- A task with what it still has to do. -/
abbrev Entry := Σ t : Task, Flow System Empty t.Result

/-- Entries of which one takes a step are the same entry behind it. -/
theorem entry_step_inj {t t' : Task} {act act' : System → System}
    {next : System → Flow System Empty t.Result} {next' : System → Flow System Empty t'.Result}
    (h : (⟨t, .step act next⟩ : Entry) = ⟨t', .step act' next'⟩) (s : System) :
    act s = act' s ∧ (⟨t, next s⟩ : Entry) = ⟨t', next' s⟩ := by
  cases h
  exact ⟨rfl, rfl⟩

/-- An entry that takes a step has not ended. -/
theorem entry_step_ne_done {t t' : Task} {act : System → System}
    {next : System → Flow System Empty t.Result} {r : Except Empty t'.Result} :
    (⟨t, .step act next⟩ : Entry) ≠ ⟨t', .done r⟩ := by
  intro h
  cases h

theorem entry_inj {t : Task} {x y : Flow System Empty t.Result} (h : (⟨t, x⟩ : Entry) = ⟨t, y⟩) :
    x = y :=
  eq_of_heq (Sigma.mk.inj h).2

theorem entry_done_inj {t : Task} {r r' : t.Result}
    (h : (⟨t, .done (.ok r)⟩ : Entry) = ⟨t, .done (.ok r')⟩) : r = r' :=
  Except.ok.inj (Flow.done.inj (entry_inj h))

/-- Whether a move advances the call in a place. -/
def Move.advances (i : Nat) : Move → Bool
  | .advance j => j = i
  | _ => false

namespace Pool

variable {setup : Setup} {p : Pool} {m : Move} {schedule : List Move} {i : Nat} {c : Entry}
  {t : Task}

/-- The pool of a state in which nothing has begun. -/
abbrev fresh (s : System) : Pool := ⟨s, []⟩

theorem keepsTo_fresh (P : Store.Operation → Prop) (s : System) : (fresh s).KeepsTo P :=
  fun _ h => absurd h List.not_mem_nil

theorem stepwise_fresh (s : System) : (fresh s).Stepwise :=
  fun _ h => absurd h List.not_mem_nil

/-! ### One move -/

/-- **What a move does to a pool.** -/
inductive Moves (setup : Setup) (p : Pool) : Move → Pool → Prop where
  | started (t : Task) : Moves setup p (.start t) ⟨p.system, p.calls ++ [⟨t, t.call setup⟩]⟩
  | stepped {i : Nat} {t : Task} {act : System → System}
      {next : System → Flow System Empty t.Result} (hi : p.calls[i]? = some ⟨t, .step act next⟩) :
    Moves setup p (.advance i) ⟨act p.system, p.calls.set i ⟨t, next p.system⟩⟩
  | idle {i : Nat} (hi : ∀ t act next, p.calls[i]? ≠ some ⟨t, .step act next⟩) :
    Moves setup p (.advance i) p
  | reopened : Moves setup p .reopen p
  | refused (events : List (Store.Table × Store.Event)) : Moves setup p (.refuse events)
      { p with system := { p.system with store := { p.system.store with forbidden := events } } }

theorem moves (setup : Setup) (p : Pool) (m : Move) : Moves setup p m (p.move setup m) := by
  cases m with
  | start t => exact .started t
  | advance i =>
    by_cases hi : ∃ t act next, p.calls[i]? = some ⟨t, .step act next⟩
    · obtain ⟨t, act, next, hi⟩ := hi
      simpa only [move, hi] using .stepped hi
    · have hidle : ∀ t act next, p.calls[i]? ≠ some ⟨t, .step act next⟩ :=
        fun t act next h => hi ⟨t, act, next, h⟩
      have hp : p.move setup (.advance i) = p := by simp only [move]
      rw [hp]
      exact .idle hidle
  | reopen => exact .reopened
  | refuse events => exact .refused events

/-- **An entry behind a move** was there before, has begun, or has taken a step. -/
theorem entry_cases (h : (p.move setup m).calls[i]? = some c) :
    p.calls[i]? = some c ∨
    (∃ t, m = .start t ∧ i = p.calls.length ∧ c = ⟨t, t.call setup⟩) ∨
    ∃ t act next, m = .advance i ∧ p.calls[i]? = some ⟨t, .step act next⟩ ∧
      c = ⟨t, next p.system⟩ := by
  have hm := moves setup p m
  generalize p.move setup m = q at h hm
  cases hm with
  | started t =>
    by_cases hlt : i < p.calls.length
    · rw [List.getElem?_append_left hlt] at h
      exact .inl h
    · rw [List.getElem?_append_right (Nat.le_of_not_lt hlt), List.getElem?_singleton] at h
      split_ifs at h with hi
      exact .inr (.inl ⟨t, rfl, by omega, (Option.some.inj h).symm⟩)
  | @stepped j t act next hj =>
    by_cases hij : j = i
    · subst hij
      rw [List.getElem?_set_self (List.getElem?_eq_some_iff.1 hj).1] at h
      exact .inr (.inr ⟨t, act, next, rfl, hj, (Option.some.inj h).symm⟩)
    · rw [List.getElem?_set_ne hij] at h
      exact .inl h
  | idle | reopened | refused => exact .inl h

/-- An entry stays as it is unless it is advanced. -/
theorem entry_kept (h : p.calls[i]? = some c) (hm : m ≠ .advance i) :
    (p.move setup m).calls[i]? = some c := by
  have hlt : i < p.calls.length := (List.getElem?_eq_some_iff.1 h).1
  have hmoves := moves setup p m
  generalize p.move setup m = q at hmoves
  cases hmoves with
  | started t => exact (List.getElem?_append_left hlt).trans h
  | stepped hj =>
    refine (List.getElem?_set_ne ?_).trans h
    rintro rfl
    exact hm rfl
  | idle | reopened | refused => exact h

/-- An entry that is advanced takes its step. -/
theorem move_advance {act : System → System} {next : System → Flow System Empty t.Result}
    (h : p.calls[i]? = some ⟨t, .step act next⟩) : p.move setup (.advance i) =
      ⟨act p.system, p.calls.set i ⟨t, next p.system⟩⟩ := by
  simp only [move, h]

theorem entry_stepped {act : System → System} {next : System → Flow System Empty t.Result}
    (h : p.calls[i]? = some ⟨t, .step act next⟩) :
    (p.move setup (.advance i)).calls[i]? = some ⟨t, next p.system⟩ := by
  rw [move_advance h]
  exact List.getElem?_set_self (List.getElem?_eq_some_iff.1 h).1

theorem move_none (h : p.calls[i]? = none) : p.move setup (.advance i) = p := by
  simp only [move, h]

theorem move_done {r : Except Empty t.Result} (h : p.calls[i]? = some ⟨t, .done r⟩) :
    p.move setup (.advance i) = p := by
  simp only [move, h]

/-- What has ended stays as it is. -/
theorem ended_kept {r : Except Empty t.Result} (h : p.calls[i]? = some ⟨t, .done r⟩) (m : Move) :
    (p.move setup m).calls[i]? = some ⟨t, .done r⟩ := by
  by_cases hm : m = .advance i
  · subst hm
    rwa [move_done h]
  · exact entry_kept h hm

/-- What holds of the events that are refused, and of those that a move refuses, holds behind it. -/
theorem Stepwise.forbidden_move (hp : p.Stepwise) {P : List (Store.Table × Store.Event) → Prop}
    (h : P p.system.store.forbidden) (hm : ∀ events, m = .refuse events → P events) :
    P (p.move setup m).system.store.forbidden := by
  obtain ⟨steps, ht⟩ := hp.takes setup m
  rw [ht.store]
  cases ht with
  | started | idle | elsewhere | reopened => exact h
  | operated op =>
    show P (op.run p.system.store).2.forbidden
    rwa [op.forbidden_kept]
  | refused events => exact hm events rfl

/-! ### Schedules -/

/-- The task in a place has ended with a result. -/
def Ended (p : Pool) (i : Nat) (t : Task) (r : t.Result) : Prop :=
  p.calls[i]? = some ⟨t, .done (.ok r)⟩

/-- **What holds of a pool and is kept by every move of a schedule holds behind it.** -/
theorem run_induction {P : Pool → Prop} (hp : P p)
    (h : ∀ before m after, schedule = before ++ m :: after → P (p.run setup before) →
      P ((p.run setup before).move setup m)) : P (p.run setup schedule) := by
  suffices hall : ∀ before after, schedule = before ++ after → P (p.run setup before) from
    hall schedule [] (List.append_nil _).symm
  intro before
  induction before using List.reverseRecOn with
  | nil => exact fun _ _ => hp
  | append_singleton before m ih =>
    intro after hs
    rw [List.append_assoc] at hs
    rw [run_append]
    exact h before m after hs (ih _ hs)

/-- A task ends with one result. -/
theorem Ended.unique {r r' : t.Result} (h : p.Ended i t r) (h' : p.Ended i t r') : r = r' :=
  entry_done_inj (Option.some.inj (h.symm.trans h'))

theorem ended_kept_run {r : Except Empty t.Result} (h : p.calls[i]? = some ⟨t, .done r⟩)
    (schedule : List Move) : (p.run setup schedule).calls[i]? = some ⟨t, .done r⟩ :=
  run_induction (P := fun p => p.calls[i]? = some ⟨t, .done r⟩) h fun _ m _ _ h => ended_kept h m

/-- What holds of every entry of a pool, in its place. -/
def Each (I : Nat → Entry → Prop) (p : Pool) : Prop :=
  ∀ (i : Nat) (c : Entry), p.calls[i]? = some c → I i c

theorem each_fresh (I : Nat → Entry → Prop) (s : System) : (fresh s).Each I := by
  intro i c h
  simp at h

/-- One more entry may be added for which it holds in its place. -/
theorem Each.append {I : Nat → Entry → Prop} (h : p.Each I) (s : System) (hc : ∀ i, I i c) :
    Each I ⟨s, p.calls ++ [c]⟩ := by
  intro i c' hi
  dsimp only at hi
  rw [List.getElem?_append] at hi
  split_ifs at hi
  · exact h i c' hi
  · rw [List.getElem?_singleton] at hi
    split_ifs at hi
    exact Option.some.inj hi ▸ hc i

/-- An entry may be replaced by one for which it holds in that place. -/
theorem Each.set {I : Nat → Entry → Prop} (h : p.Each I) (s : System) (hc : I i c) :
    Each I ⟨s, p.calls.set i c⟩ := by
  intro j c' hj
  dsimp only at hj
  rw [List.getElem?_set] at hj
  split_ifs at hj with hij
  · exact hij ▸ Option.some.inj hj ▸ hc
  · exact h j c' hj

/-- What holds of a task at its beginning, and of a call behind its step, holds of every entry. -/
theorem Each.move {I : Nat → Entry → Prop} (h : p.Each I)
    (hstart : ∀ i t, m = .start t → I i ⟨t, t.call setup⟩)
    (hstep : ∀ i t act next, m = .advance i → p.calls[i]? = some ⟨t, .step act next⟩ →
      I i ⟨t, next p.system⟩) : (p.move setup m).Each I := by
  intro i c hc
  rcases entry_cases hc with hc | ⟨t, hm, -, rfl⟩ | ⟨t, act, next, hm, hi, rfl⟩
  · exact h i c hc
  · exact hstart i t hm
  · exact hstep i t act next hm hi

/-- What holds of a pool and of the run so far, and is kept by every move of a schedule with its
steps, holds behind it. -/
theorem Runs.induction {P : Pool → List Store.Action → Prop} {run : List Store.Action}
    (h : Runs setup p schedule run) (init : P p [])
    (step : ∀ p done m steps, m ∈ schedule → p.Takes setup m steps → P p done →
      P (p.move setup m) (done ++ steps)) : P (p.run setup schedule) run := by
  suffices hall : ∀ done, P p done → P (p.run setup schedule) (done ++ run) from hall [] init
  clear init
  induction h with
  | nil p =>
    intro done hp
    rwa [List.append_nil]
  | @cons p m schedule steps run hm _ ih =>
    intro done hp
    rw [← List.append_assoc]
    exact ih (fun p done m steps h => step p done m steps (List.mem_cons_of_mem _ h)) _
      (step p done m steps List.mem_cons_self hm hp)

/-! ### How often a call is advanced -/

/-- **A call that is advanced as often as it needs has ended.** -/
theorem ended_of_advanced {n : Nat} {x : Flow System Empty t.Result} (hx : x.EndsWithin n)
    (hi : p.calls[i]? = some ⟨t, x⟩) (hn : n ≤ schedule.countP (Move.advances i)) :
    ∃ r, (p.run setup schedule).Ended i t r := by
  induction schedule generalizing p n x with
  | nil =>
    obtain rfl : n = 0 := Nat.le_zero.1 hn
    obtain ⟨e | r, rfl⟩ := hx.ended
    · exact e.elim
    · exact ⟨r, hi⟩
  | cons m schedule ih =>
    by_cases hm : m = .advance i
    · subst hm
      rw [List.countP_cons_of_pos (by simp [Move.advances])] at hn
      cases hx with
      | done n r =>
        cases r with
        | error e => exact e.elim
        | ok r => exact ⟨r, ended_kept_run hi _⟩
      | step h => exact ih (h p.system) (entry_stepped hi) (by omega)
    · refine ih hx (entry_kept hi hm) ?_
      rwa [List.countP_cons_of_neg] at hn
      cases m with
      | advance j =>
        intro hj
        exact hm (by simpa [Move.advances] using hj)
      | _ => exact Bool.false_ne_true

/-- A call that was there before the rest of a schedule has ended behind it, if the rest advances it
as often as it needs. -/
theorem ended_of_advanced_since {n : Nat} {x : Flow System Empty t.Result} {before after : List Move}
    (hx : x.EndsWithin n) (hi : (p.run setup before).calls[i]? = some ⟨t, x⟩)
    (hn : n ≤ after.countP (Move.advances i)) :
    ∃ r, (p.run setup (before ++ after)).Ended i t r := by
  rw [run_append]
  exact ended_of_advanced hx hi hn

end Pool
end Service
end SoilWatch
