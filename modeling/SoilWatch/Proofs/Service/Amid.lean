/-
# A call amid others

Between two steps of a call the others may change the state, so what a call has seen may be gone when
it takes its next step.  `Flow.Amid` says how a call ends whatever the others do, as long as each of
their changes is one that a relation `R` allows: before every step the state moves along `R`, then
the step is taken.  Calls in a row are put together by `Amid.bind`.

If every move of a pool changes the state along `R`, a task that is amid others in this sense ends as
it is said to, under every schedule (`Pool.Promises.run`).
-/

import SoilWatch.Proofs.Service.Interleaving

namespace SoilWatch
namespace Flow

variable {σ ε ε' α β : Type} {R : σ → σ → Prop} {s s' : σ}

/-- **How a call ends amid others** that change the state along `R`. -/
def Amid (R : σ → σ → Prop) : Flow σ ε α → σ → (Except ε α → σ → Prop) → Prop
  | .done r, s, Q => Q r s
  | .step act next, s, Q => ∀ s', R s s' → (next s').Amid R (act s') Q

theorem amid_pure {a : α} {Q : Except ε α → σ → Prop} (h : Q (.ok a) s) :
    (pure a : Flow σ ε α).Amid R s Q := h

theorem amid_fail {e : ε} {Q : Except ε α → σ → Prop} (h : Q (.error e) s) :
    (fail e : Flow σ ε α).Amid R s Q := h

theorem amid_look_bind {g : σ → α} {f : α → Flow σ ε β} {Q : Except ε β → σ → Prop}
    (h : ∀ s', R s s' → (f (g s')).Amid R s' Q) : (look g >>= f).Amid R s Q := h

theorem Amid.mono {x : Flow σ ε α} {P Q : Except ε α → σ → Prop} (hx : x.Amid R s P)
    (h : ∀ r t, P r t → Q r t) : x.Amid R s Q := by
  induction x generalizing s with
  | done r => exact h r s hx
  | step act next ih => exact fun s' hs => ih s' (hx s' hs)

/-- What follows a call begins where the call has ended, unless the call fails. -/
theorem Amid.bind {x : Flow σ ε α} {f : α → Flow σ ε β} {P : Except ε α → σ → Prop}
    {Q : Except ε β → σ → Prop} (hx : x.Amid R s P)
    (hok : ∀ a t, P (.ok a) t → (f a).Amid R t Q) (herror : ∀ e t, P (.error e) t → Q (.error e) t) :
    (x >>= f).Amid R s Q := by
  induction x generalizing s with
  | done r =>
    cases r with
    | ok a => exact hok a s hx
    | error e => exact herror e s hx
  | step act next ih => exact fun s' h => ih s' (hx s' h)

/-- What a call does not end with, it does not end with when it is attempted. -/
theorem Amid.attempt_ne {x : Flow σ ε α} {a : Except ε α} (hx : x.Amid R s fun r _ => r ≠ a) :
    (x.attempt : Flow σ ε' (Except ε α)).Amid R s fun r _ => r ≠ .ok a := by
  induction x generalizing s with
  | done r => exact fun h => hx (Except.ok.inj h)
  | step act next ih => exact fun s' h => ih s' (hx s' h)

/-- What holds of every end is no matter of the call. -/
theorem amid_of_forall {x : Flow σ ε α} {Q : Except ε α → σ → Prop} (h : ∀ r t, Q r t) :
    x.Amid R s Q := by
  induction x generalizing s with
  | done r => exact h r s
  | step act next ih => exact fun s' _ => ih s'

/-- The others may have begun already. -/
theorem Amid.later (htrans : ∀ a b c, R a b → R b c → R a c) {x : Flow σ ε α}
    {Q : Except ε α → Prop} (hx : x.Amid R s fun r _ => Q r) (h : R s s') :
    x.Amid R s' fun r _ => Q r := by
  cases x with
  | done r => exact hx
  | step act next => exact fun s'' h' => hx s'' (htrans _ _ _ h h')

/-- A call on its own is amid others that do nothing. -/
theorem Amid.run (hrefl : ∀ s, R s s) {x : Flow σ ε α} {Q : Except ε α → σ → Prop}
    (hx : x.Amid R s Q) : Q (x.run s).1 (x.run s).2 := by
  induction x generalizing s with
  | done r => exact hx
  | step act next ih => exact ih s (hx s (hrefl s))

/-- How a call ends that takes its first step at once, before the others change anything. -/
def AtOnce (R : σ → σ → Prop) : Flow σ ε α → σ → (Except ε α → σ → Prop) → Prop
  | .done r, s, Q => Q r s
  | .step act next, s, Q => (next s).Amid R (act s) Q

theorem atOnce_look_bind {g : σ → α} {f : α → Flow σ ε β} {Q : Except ε β → σ → Prop}
    (h : (f (g s)).Amid R s Q) : (look g >>= f).AtOnce R s Q := h

theorem AtOnce.attempt_ne {x : Flow σ ε α} {a : Except ε α} (hx : x.AtOnce R s fun r _ => r ≠ a) :
    (x.attempt : Flow σ ε' (Except ε α)).AtOnce R s fun r _ => r ≠ .ok a := by
  cases x with
  | done r => exact fun h => hx (Except.ok.inj h)
  | step act next => exact Amid.attempt_ne hx

end Flow

namespace Service

open SoilWatch.Flow

variable {R : System → System → Prop} {s : System} {α β : Type} {Q : Except Error β → System → Prop}

/-- An attempted operation answers in a state to which the others have led. -/
theorem amid_tryStore_bind {t : Store → Except Store.Error α × Store}
    {f : Except Store.Error α → Call β}
    (h : ∀ s', R s s' → (f (t s'.store).1).Amid R { s' with store := (t s'.store).2 } Q) :
    (tryStore t >>= f).Amid R s Q := h

/-- An operation fails, or the call goes on behind its answer. -/
theorem amid_onStore_bind {operation : String} {t : Store → Except Store.Error α × Store}
    {f : α → Call β} (hok : ∀ s' a u, R s s' → t s'.store = (.ok a, u) →
      (f a).Amid R { s' with store := u } Q)
    (herror : ∀ reason s', Q (.error (.persistence operation reason)) s') :
    (onStore operation t >>= f).Amid R s Q := by
  unfold onStore
  rw [LawfulMonad.bind_assoc]
  refine amid_tryStore_bind fun s' hs => ?_
  rcases hr : t s'.store with ⟨e | a, u⟩
  · exact amid_fail (herror e.message _)
  · exact hok s' a u hs hr

namespace Pool

variable {setup : Setup} {p : Pool}

/-- A relation that every move of a pool follows. -/
structure Follows (setup : Setup) (R : System → System → Prop) : Prop where
  refl : ∀ s, R s s
  trans : ∀ a b c, R a b → R b c → R a c
  move : ∀ {p : Pool}, p.Stepwise → ∀ m, R p.system (p.move setup m).system

/-- The task in a place ends with a result of that kind, whatever the others do. -/
def Promises (R : System → System → Prop) (p : Pool) (i : Nat) (t : Task)
    (Q : Except Empty t.Result → Prop) : Prop :=
  ∃ x, p.calls[i]? = some ⟨t, x⟩ ∧ x.Amid R p.system fun r _ => Q r

section Promises

variable {i : Nat} {t : Task} {Q : Except Empty t.Result → Prop}

/-- A move leaves what a task promises. -/
theorem Promises.move (hR : Follows setup R) (hp : p.Stepwise) (h : p.Promises R i t Q) (m : Move) :
    (p.move setup m).Promises R i t Q := by
  obtain ⟨x, hi, hx⟩ := h
  have hlater := hR.move hp m
  cases m with
  | start t' =>
    refine ⟨x, ?_, hx⟩
    have hlt : i < p.calls.length := (List.getElem?_eq_some_iff.1 hi).1
    show (p.calls ++ _)[i]? = _
    rw [List.getElem?_append_left hlt, hi]
  | reopen => exact ⟨x, hi, hx.later hR.trans hlater⟩
  | refuse events => exact ⟨x, hi, hx.later hR.trans hlater⟩
  | advance j =>
    simp only [Pool.move] at hlater ⊢
    split at hlater
    · rename_i t' act next hj
      by_cases hij : i = j
      · -- The task itself takes a step, behind whatever the others have done.
        subst hij
        cases Option.some.inj (hi.symm.trans hj)
        refine ⟨next p.system, ?_, hx p.system (hR.refl _)⟩
        have hlt : i < p.calls.length := (List.getElem?_eq_some_iff.1 hj).1
        rw [List.getElem?_set_self hlt]
      · refine ⟨x, ?_, hx.later hR.trans hlater⟩
        rw [List.getElem?_set_ne (Ne.symm hij), hi]
    · exact ⟨x, hi, hx⟩

/-- **A task that promises something keeps it** under every schedule. -/
theorem Promises.run (hR : Follows setup R) (hp : p.Stepwise) (h : p.Promises R i t Q)
    (schedule : List Move) : (p.run setup schedule).Promises R i t Q := by
  induction schedule generalizing p with
  | nil => exact h
  | cons m schedule ih => exact ih (hp.move setup m) (h.move hR hp m)

/-- A task that has ended has the result that was promised. -/
theorem Promises.result (h : p.Promises R i t Q) {r : Except Empty t.Result}
    (hi : p.calls[i]? = some ⟨t, .done r⟩) : Q r := by
  obtain ⟨x, hx, hQ⟩ := h
  cases Option.some.inj (hx.symm.trans hi)
  exact hQ

/-- A task that takes its first step at once promises what it is then amid others. -/
theorem promises_of_atOnce {x : Flow System Empty t.Result} (hi : p.calls[i]? = some ⟨t, x⟩)
    (hx : x.AtOnce R p.system fun r _ => Q r) : (p.move setup (.advance i)).Promises R i t Q := by
  have hlt : i < p.calls.length := (List.getElem?_eq_some_iff.1 hi).1
  cases x with
  | done r =>
    refine ⟨.done r, ?_, ?_⟩ <;> simp only [Pool.move, hi]
    exact hx
  | step act next =>
    refine ⟨next p.system, ?_, ?_⟩ <;> simp only [Pool.move, hi]
    · rw [List.getElem?_set_self hlt]
    · exact hx

end Promises

/-- Every task of a pool ends as its kind does. -/
def Keeps (R : System → System → Prop) (p : Pool) (Q : (t : Task) → Except Empty t.Result → Prop) :
    Prop :=
  ∀ i t x, p.calls[i]? = some ⟨t, x⟩ → p.Promises R i t (Q t)

section Keeps

variable {J : System → Prop} {Q : (t : Task) → Except Empty t.Result → Prop}

/-- A move leaves what the tasks promise, if a task that begins promises it. -/
theorem Keeps.move (hR : Follows setup R) (hp : p.Stepwise)
    (hstart : ∀ t : Task, (t.call setup).Amid R p.system fun r _ => Q t r) (h : p.Keeps R Q) (m : Move) :
    (p.move setup m).Keeps R Q := by
  intro i t x hi
  cases hc : p.calls[i]? with
  | some c =>
    obtain ⟨x', hi', hx'⟩ := (h i c.1 c.2 hc).move hR hp m
    cases Option.some.inj (hi'.symm.trans hi)
    exact ⟨_, hi, hx'⟩
  | none =>
    have hge := List.getElem?_eq_none_iff.1 hc
    cases m with
    | start t' =>
      have hnew := hi
      simp only [Pool.move] at hnew
      rw [List.getElem?_append_right hge, List.getElem?_singleton] at hnew
      split_ifs at hnew
      cases Option.some.inj hnew
      exact ⟨_, hi, hstart t⟩
    | reopen => cases hi.symm.trans hc
    | refuse events => cases hi.symm.trans hc
    | advance j =>
      have hlen : (p.move setup (.advance j)).calls.length = p.calls.length := by
        simp only [Pool.move]
        split
        · exact List.length_set
        · rfl
      obtain ⟨hlt, -⟩ := List.getElem?_eq_some_iff.1 hi
      omega

/-- **What every task promises when it begins** is kept by all of them under every schedule. -/
theorem Keeps.run (hR : Follows setup R) (hJ : ∀ {a b}, R a b → J a → J b)
    (hstart : ∀ s (t : Task), J s → (t.call setup).Amid R s fun r _ => Q t r) (hp : p.Stepwise)
    (hj : J p.system) (h : p.Keeps R Q) (schedule : List Move) :
    (p.run setup schedule).Keeps R Q := by
  induction schedule generalizing p with
  | nil => exact h
  | cons m schedule ih =>
    exact ih (hp.move setup m) (hJ (hR.move hp m) hj)
      (h.move hR hp (fun t => hstart p.system t hj) m)

end Keeps

end Pool
end Service
end SoilWatch
