/-
# Tasks of one kind alone

Of the tasks of a pool those of one kind may be watched alone: under the same schedule the others
begin, but take no step (`Pool.runOnly`).  What can be seen of the store may not depend on the
others.  It does not if their steps leave what is seen, and if the tasks of the kind take steps that
depend on no more than that (`Flow.InStep`): then the pool shows at all times what the tasks of the
kind alone would have made of it, and they are answered alike (`Pool.Shows.run`).
-/

import SoilWatch.Proofs.Service.Moves
import Mathlib.Data.List.Forall2

namespace SoilWatch

section Lists

variable {α β : Type} {R : α → β → Prop} {xs : List α} {ys : List β}

/-- Lists whose elements are related have related elements in each place, or none. -/
theorem rel_getElem? (h : List.Forall₂ R xs ys) (i : Nat) : Option.Rel R xs[i]? ys[i]? := by
  induction h generalizing i with
  | nil => exact .none
  | cons hr _ ih =>
    cases i with
    | zero => exact .some hr
    | succ i => exact ih i

theorem forall₂_set (h : List.Forall₂ R xs ys) {x : α} {y : β} (hr : R x y) (i : Nat) :
    List.Forall₂ R (xs.set i x) (ys.set i y) := by
  induction h generalizing i with
  | nil => exact .nil
  | cons hr' hs ih =>
    cases i with
    | zero => exact .cons hr hs
    | succ i => exact .cons hr' (ih i)

end Lists

namespace Flow

variable {σ ν ε ε' α β γ δ : Type}

/-- **Two calls are in step,** as far as a view of the state goes: where they find the same view they
leave the same view behind their next steps, and they end together, with results that are the same as
far as `g` goes. -/
inductive InStep (view : σ → ν) (g : α → γ) : Flow σ ε α → Flow σ ε α → Prop where
  | done {r r' : Except ε α} (h : r.map g = r'.map g) : InStep view g (.done r) (.done r')
  | step {act act' : σ → σ} {next next' : σ → Flow σ ε α}
    (hact : ∀ s s', view s = view s' → view (act s) = view (act' s'))
    (hnext : ∀ s s', view s = view s' → InStep view g (next s) (next' s')) :
    InStep view g (.step act next) (.step act' next')

section InStep

variable {view : σ → ν} {g : α → γ} {x x' : Flow σ ε α}

theorem inStep_pure {a a' : α} (h : g a = g a') :
    InStep view g (pure a : Flow σ ε α) (pure a') :=
  .done (congrArg Except.ok h)

theorem inStep_fail (e : ε) : InStep view g (fail e) (fail e) :=
  .done rfl

theorem inStep_look {f : σ → α} (h : ∀ s s', view s = view s' → g (f s) = g (f s')) :
    InStep view g (look f : Flow σ ε α) (look f) :=
  .step (fun _ _ hs => hs) fun s s' hs => inStep_pure (h s s' hs)

/-- Calls in step stay so if what follows them is, for values that are the same as far as `g`
goes. -/
theorem InStep.bind {h : β → δ} {f f' : α → Flow σ ε β} (hx : InStep view g x x')
    (hf : ∀ a a', g a = g a' → InStep view h (f a) (f' a')) :
    InStep view h (x >>= f) (x' >>= f') := by
  induction hx with
  | @done r r' hr =>
    rcases r with e | a <;> rcases r' with e' | a'
    · exact .done (congrArg Except.error (Except.error.inj hr))
    · cases hr
    · cases hr
    · exact hf a a' (Except.ok.inj hr)
  | step hact _ ih => exact .step hact ih

theorem InStep.attempt (hx : InStep view g x x') :
    InStep view (Except.map g) (x.attempt : Flow σ ε' (Except ε α)) x'.attempt := by
  induction hx with
  | done hr => exact inStep_pure hr
  | step hact _ ih => exact .step hact ih

end InStep
end Flow

namespace Service

open SoilWatch.Flow

/-! ### The tasks of a kind -/

section Kinds

variable {ν : Type} {setup : Setup} {view : Store → ν} {kind : Task → Bool}
  {g : (t : Task) → t.Result → t.Result}

/-- **A task fits a kind and a view:** if it is of the kind, its steps depend on the view only, and
if it is not, its steps leave the view. -/
structure Task.Fits (setup : Setup) (view : Store → ν) (kind : Task → Bool)
    (g : (t : Task) → t.Result → t.Result) (t : Task) : Prop where
  own : kind t = true → (t.call setup).InStep (view ·.store) (g t) (t.call setup)
  other : kind t = false → (t.call setup).Every fun act => ∀ s, view (act s).store = view s.store

/-- An entry of the whole pool beside that of the tasks of the kind alone. -/
inductive Beside (view : Store → ν) (kind : Task → Bool) (g : (t : Task) → t.Result → t.Result) :
    Entry → Entry → Prop where
  | own {t : Task} {x y : Flow System Empty t.Result} (hk : kind t = true)
    (h : x.InStep (view ·.store) (g t) y) : Beside view kind g ⟨t, x⟩ ⟨t, y⟩
  | other {t : Task} {x y : Flow System Empty t.Result} (hk : kind t = false)
    (h : x.Every fun act => ∀ s, view (act s).store = view s.store) :
    Beside view kind g ⟨t, x⟩ ⟨t, y⟩

theorem Task.Fits.beside {t : Task} (h : t.Fits setup view kind g) :
    Beside view kind g ⟨t, t.call setup⟩ ⟨t, t.call setup⟩ := by
  cases hk : kind t with
  | true => exact .own hk (h.own hk)
  | false => exact .other hk (h.other hk)

/-- Entries beside each other have ended with the same results, as far as `g` goes. -/
theorem Beside.ended_iff {c d : Entry} (h : Beside view kind g c d) {t : Task}
    (hk : kind t = true) (a : t.Result) :
    (∃ r, c = ⟨t, .done (.ok r)⟩ ∧ g t r = a) ↔ ∃ r, d = ⟨t, .done (.ok r)⟩ ∧ g t r = a := by
  cases h with
  | own _ hxy =>
    cases hxy with
    | @done r r' hr =>
      rcases r with e | v <;> rcases r' with e' | v'
      · exact e.elim
      · exact e.elim
      · exact e'.elim
      · have hv := Except.ok.inj hr
        constructor
        · rintro ⟨w, heq, rfl⟩
          cases heq
          exact ⟨v', rfl, hv.symm⟩
        · rintro ⟨w, heq, rfl⟩
          cases heq
          exact ⟨v, rfl, hv⟩
    | step =>
      constructor <;>
        · rintro ⟨w, heq, -⟩
          exact absurd heq entry_step_ne_done
  | other hk' =>
    constructor <;>
      · rintro ⟨w, heq, -⟩
        cases heq
        exact absurd hk (by simp [hk'])

end Kinds

namespace Pool

variable {ν : Type} {setup : Setup} {view : Store → ν} {kind : Task → Bool}
  {g : (t : Task) → t.Result → t.Result} {p q : Pool} {m : Move} {schedule : List Move} {i : Nat}
  {t : Task}

/-- Whether a move may be made when only the tasks of a kind take steps. -/
def concerns (kind : Task → Bool) (p : Pool) : Move → Bool
  | .advance i => p.calls[i]?.any fun c => kind c.1
  | _ => true

/-- The pool behind a schedule under which only the tasks of a kind take steps. -/
def runOnly (kind : Task → Bool) (setup : Setup) (p : Pool) (schedule : List Move) : Pool :=
  schedule.foldl (fun p m => if p.concerns kind m then p.move setup m else p) p

/-- **A pool shows what the tasks of a kind alone have done,** who stand where they stand in the
pool. -/
structure Shows (view : Store → ν) (kind : Task → Bool) (g : (t : Task) → t.Result → t.Result)
    (p q : Pool) : Prop where
  seen : view p.system.store = view q.system.store
  calls : List.Forall₂ (Beside view kind g) p.calls q.calls

/-- Whether in two pools the tasks of a kind that have ended are the same and were answered alike, as
far as `g` goes. -/
def SameAnswers (kind : Task → Bool) (g : (t : Task) → t.Result → t.Result) (p q : Pool) : Prop :=
  ∀ i t, kind t → ∀ a : t.Result,
    (∃ r, p.Ended i t r ∧ g t r = a) ↔ ∃ r, q.Ended i t r ∧ g t r = a

theorem shows_fresh (s : System) : (fresh s).Shows view kind g (fresh s) :=
  ⟨rfl, .nil⟩

/-- The entries that stand in the same place are the one beside the other. -/
theorem Shows.beside (h : p.Shows view kind g q) (i : Nat) :
    (p.calls[i]? = none ∧ q.calls[i]? = none) ∨
      ∃ c d, p.calls[i]? = some c ∧ q.calls[i]? = some d ∧ Beside view kind g c d := by
  have hrel := rel_getElem? h.calls i
  generalize p.calls[i]? = c at hrel
  generalize q.calls[i]? = d at hrel
  cases hrel with
  | none => exact .inl ⟨rfl, rfl⟩
  | some hcd => exact .inr ⟨_, _, rfl, rfl, hcd⟩

/-- A move shows as much, if it is left out where it is not of the kind. -/
theorem Shows.move (h : p.Shows view kind g q)
    (hfits : ∀ t, m = .start t → t.Fits setup view kind g)
    (hrefuse : ∀ (s s' : Store) events, view s = view s' →
      view { s with forbidden := events } = view { s' with forbidden := events }) :
    (p.move setup m).Shows view kind g (if q.concerns kind m then q.move setup m else q) := by
  cases m with
  | start t => exact ⟨h.seen, List.rel_append h.calls (.cons (hfits t rfl).beside .nil)⟩
  | advance i =>
    rcases h.beside i with ⟨hc, hd⟩ | ⟨c, d, hc, hd, hcd⟩
    · rw [move_none hc, move_none hd, ite_self]
      exact h
    have hconcerns : q.concerns kind (.advance i) = kind d.1 := by simp [concerns, hd]
    cases hcd with
    | own hk hxy =>
      rw [if_pos (hconcerns.trans hk)]
      cases hxy with
      | done hr =>
        rw [move_done hc, move_done hd]
        exact h
      | step hact hnext =>
        rw [move_advance hc, move_advance hd]
        exact ⟨hact _ _ h.seen, forall₂_set h.calls (.own hk (hnext _ _ h.seen)) i⟩
    | @other t x y hk hx =>
      rw [if_neg (by simp [hconcerns, hk])]
      cases hx with
      | done r =>
        rw [move_done hc]
        exact h
      | step hact hnext =>
        rw [move_advance hc]
        obtain ⟨hi, hy⟩ := List.getElem?_eq_some_iff.1 hd
        have hset : q.calls.set i ⟨t, y⟩ = q.calls := hy ▸ List.set_getElem_self hi
        exact ⟨(hact _).trans h.seen, hset ▸ forall₂_set h.calls (.other hk (hnext _)) i⟩
  | reopen => exact ⟨h.seen, h.calls⟩
  | refuse events => exact ⟨hrefuse _ _ events h.seen, h.calls⟩

/-- **Under every schedule of tasks that fit, the pool shows what the tasks of the kind alone would
have done.** -/
theorem Shows.run (h : p.Shows view kind g q)
    (hfits : ∀ t, .start t ∈ schedule → t.Fits setup view kind g)
    (hrefuse : ∀ (s s' : Store) events, view s = view s' →
      view { s with forbidden := events } = view { s' with forbidden := events }) :
    (p.run setup schedule).Shows view kind g (q.runOnly kind setup schedule) := by
  induction schedule generalizing p q with
  | nil => exact h
  | cons m schedule ih =>
    have hm : ∀ t, m = .start t → t.Fits setup view kind g :=
      fun t ht => hfits t (ht ▸ List.mem_cons_self)
    exact ih (h.move hm hrefuse) fun t ht => hfits t (List.mem_cons_of_mem _ ht)

/-- **What a task of the kind is answered,** it would have been answered among its own kind, as far
as `g` goes, and the other way round. -/
theorem Shows.sameAnswers (h : p.Shows view kind g q) : p.SameAnswers kind g q := by
  intro i t hk a
  unfold Ended
  rcases h.beside i with ⟨hc, hd⟩ | ⟨c, d, hc, hd, hcd⟩
  · simp only [hc, hd]
  · simp only [hc, hd, Option.some.injEq]
    exact hcd.ended_iff hk a

/-- A step of a task of another kind leaves what is seen. -/
theorem Shows.kept (h : p.Shows view kind g q) {x : Flow System Empty t.Result}
    (hi : p.calls[i]? = some ⟨t, x⟩) (hk : kind t = false) :
    view (p.move setup (.advance i)).system.store = view p.system.store := by
  rcases h.beside i with ⟨hc, -⟩ | ⟨c, d, hc, -, hcd⟩
  · rw [hi] at hc
    cases hc
  obtain rfl := Option.some.inj (hi.symm.trans hc)
  cases hcd with
  | own hk' => exact absurd hk (by simp [hk'])
  | other _ hx =>
    cases hx with
    | done r => rw [move_done hi]
    | step hact _ =>
      rw [move_advance hi]
      exact hact _

end Pool
end Service
end SoilWatch
