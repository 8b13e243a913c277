/-
# Calls that cannot tell two states apart

A call is blind to the difference between two states if it ends with the same result in both and
leaves each of them as it was.  A call that only looks is blind to all that it does not look at, and
blind calls in a row are blind (`Blind.bind`), so this is read off a call from its first step to its
last.

A call that changes the state may still end alike in both, with two states that are again related
(`Alike`).  Blind calls before it and behind it leave that so.
-/

import SoilWatch.Flow

namespace SoilWatch
namespace Flow

variable {σ ε ε' α β : Type} {s s' : σ}

/-- A call that ends alike in two states and changes neither of them. -/
def Blind (x : Flow σ ε α) (s s' : σ) : Prop :=
  ∃ r, x.run s = (r, s) ∧ x.run s' = (r, s')

theorem blind_pure (a : α) : (pure a : Flow σ ε α).Blind s s' :=
  ⟨.ok a, rfl, rfl⟩

theorem blind_fail (e : ε) : (fail e : Flow σ ε α).Blind s s' :=
  ⟨.error e, rfl, rfl⟩

theorem blind_look {f : σ → α} (h : f s = f s') : (look f : Flow σ ε α).Blind s s' :=
  ⟨.ok (f s), rfl, by rw [run_look, h]⟩

theorem blind_examine {f : σ → Except ε α} (h : f s = f s') : (examine f).Blind s s' :=
  ⟨f s, rfl, by rw [run_examine, h]⟩

theorem Blind.answer_eq {x : Flow σ ε α} (h : x.Blind s s') : (x.run s).1 = (x.run s').1 := by
  obtain ⟨r, hr, hr'⟩ := h
  rw [hr, hr']

/-- Blind calls in a row are blind. -/
theorem Blind.bind {x : Flow σ ε α} {f : α → Flow σ ε β} (hx : x.Blind s s')
    (hf : ∀ a, x.run s = (.ok a, s) → (f a).Blind s s') : (x >>= f).Blind s s' := by
  obtain ⟨r, h, h'⟩ := hx
  cases r with
  | error e => exact ⟨.error e, by rw [run_bind, h], by rw [run_bind, h']⟩
  | ok a =>
    obtain ⟨r, ha, ha'⟩ := hf a h
    exact ⟨r, by rw [run_bind, h]; exact ha, by rw [run_bind, h']; exact ha'⟩

/-- A call that ends alike in two states, with states that are related. -/
def Alike (J : σ → σ → Prop) (x : Flow σ ε α) (s s' : σ) : Prop :=
  (x.run s).1 = (x.run s').1 ∧ J (x.run s).2 (x.run s').2

section Alike

variable {J : σ → σ → Prop} {x : Flow σ ε α} {f : α → Flow σ ε β}

theorem Blind.alike (hx : x.Blind s s') (h : J s s') : x.Alike J s s' := by
  obtain ⟨r, hr, hr'⟩ := hx
  rw [Alike, hr, hr']
  exact ⟨rfl, h⟩

/-- What follows a blind call begins where the call began. -/
theorem Blind.bind_alike (hx : x.Blind s s') (h : J s s')
    (hf : ∀ a, x.run s = (.ok a, s) → (f a).Alike J s s') : (x >>= f).Alike J s s' := by
  obtain ⟨r, hr, hr'⟩ := hx
  rw [Alike, run_bind, run_bind, hr, hr']
  cases r with
  | error e => exact ⟨rfl, h⟩
  | ok a => exact hf a hr

/-- A blind call may follow. -/
theorem Alike.bind_blind (hx : x.Alike J s s') (hf : ∀ a t t', (f a).Blind t t') :
    (x >>= f).Alike J s s' := by
  obtain ⟨hresult, hJ⟩ := hx
  rw [Alike, run_bind, run_bind]
  rcases hr : x.run s with ⟨e | a, t⟩ <;> rcases hr' : x.run s' with ⟨e' | a', t'⟩ <;>
    rw [hr, hr'] at hresult hJ
  · exact ⟨congrArg Except.error (Except.error.inj hresult), hJ⟩
  · cases hresult
  · cases hresult
  · obtain rfl := Except.ok.inj hresult
    exact (hf a t t').alike hJ

theorem Alike.attempt (hx : x.Alike J s s') :
    (x.attempt : Flow σ ε' (Except ε α)).Alike J s s' := by
  rw [Alike, run_attempt, run_attempt]
  exact ⟨congrArg Except.ok hx.1, hx.2⟩

end Alike

end Flow
end SoilWatch
