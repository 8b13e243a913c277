/-
# Calls that take several steps

Calls run side by side on one state.  Each is a sequence of atomic steps, and between two of them
other calls may take steps of their own.  A call that has not finished is therefore its next step:
what the step does to the state, and how the call goes on after having seen the state that the step
found.  `run` is the call on its own, step after step.
-/

namespace SoilWatch

/-- A call on a state `σ` that ends with a value or an error. -/
inductive Flow (σ ε α : Type) : Type where
  | done (result : Except ε α)
  | step (act : σ → σ) (next : σ → Flow σ ε α)

namespace Flow

variable {σ ε ε' α β : Type}

/-- Ends with an error. -/
def fail (e : ε) : Flow σ ε α :=
  .done (.error e)

/-- Goes on with the value of a call; an error ends both. -/
protected def bind : Flow σ ε α → (α → Flow σ ε β) → Flow σ ε β
  | .done (.ok a), f => f a
  | .done (.error e), _ => .done (.error e)
  | .step act next, f => .step act fun s => (next s).bind f

instance : Monad (Flow σ ε) where
  pure a := .done (.ok a)
  bind := Flow.bind

/-- Goes on with the result of a call, be it a value or an error. -/
def attempt : Flow σ ε α → Flow σ ε' (Except ε α)
  | .done r => .done (.ok r)
  | .step act next => .step act fun s => (next s).attempt

/-- Looks at the state in one step. -/
def look (f : σ → α) : Flow σ ε α :=
  .step id fun s => .done (.ok (f s))

/-- Looks at the state in one step that can fail. -/
def examine (f : σ → Except ε α) : Flow σ ε α :=
  .step id fun s => .done (f s)

/-- Changes the state in one step, which can fail. -/
def atomically (t : σ → Except ε α × σ) : Flow σ ε α :=
  .step (fun s => (t s).2) fun s => .done (t s).1

/-- Changes the state in one step. -/
def alter (f : σ → σ) : Flow σ ε Unit :=
  .step f fun _ => .done (.ok ())

/-- The result of a call on its own, and the state behind it. -/
def run : Flow σ ε α → σ → Except ε α × σ
  | .done r, s => (r, s)
  | .step act next, s => (next s).run (act s)

/-! ### The run of a composed call -/

@[simp] theorem run_pure (a : α) (s : σ) : (pure a : Flow σ ε α).run s = (.ok a, s) := rfl

@[simp] theorem run_fail (e : ε) (s : σ) : (fail e : Flow σ ε α).run s = (.error e, s) := rfl

@[simp] theorem run_look (f : σ → α) (s : σ) : (look f : Flow σ ε α).run s = (.ok (f s), s) := rfl

@[simp] theorem run_examine (f : σ → Except ε α) (s : σ) : (examine f).run s = (f s, s) := rfl

@[simp] theorem run_atomically (t : σ → Except ε α × σ) (s : σ) : (atomically t).run s = t s := rfl

@[simp] theorem run_alter (f : σ → σ) (s : σ) :
    (alter f : Flow σ ε Unit).run s = (.ok (), f s) := rfl

/-- What follows a call runs from the state that the call leaves, unless the call fails. -/
theorem run_bind (x : Flow σ ε α) (f : α → Flow σ ε β) (s : σ) :
    (x >>= f).run s =
      match x.run s with
      | (.ok a, s') => (f a).run s'
      | (.error e, s') => (.error e, s') := by
  induction x generalizing s with
  | done r => cases r <;> rfl
  | step act next ih => exact ih s (act s)

/-- A call that is attempted changes the state like the call itself. -/
theorem run_attempt (x : Flow σ ε α) (s : σ) :
    (x.attempt : Flow σ ε' (Except ε α)).run s = (.ok (x.run s).1, (x.run s).2) := by
  induction x generalizing s with
  | done r => rfl
  | step act next ih => exact ih s (act s)

/-- Calls are composed associatively, step by step. -/
theorem bind_assoc {γ : Type} (x : Flow σ ε α) (f : α → Flow σ ε β) (g : β → Flow σ ε γ) :
    (x.bind f).bind g = x.bind fun a => (f a).bind g := by
  induction x with
  | done r => cases r <;> rfl
  | step act next ih => exact congrArg (Flow.step act) (funext ih)

/-- A call is composed with `pure` without a step more. -/
theorem bind_pure (x : Flow σ ε α) : (x.bind fun a => .done (.ok a)) = x := by
  induction x with
  | done r => cases r <;> rfl
  | step act next ih => exact congrArg (Flow.step act) (funext ih)

instance : LawfulMonad (Flow σ ε) :=
  .mk' (Flow σ ε) bind_pure (fun _ _ => rfl) bind_assoc

end Flow
end SoilWatch
