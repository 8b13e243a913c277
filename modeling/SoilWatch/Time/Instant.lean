/-
# Instants

An instant is a second of Unix time and nanoseconds inside it.  With a thousand million nanoseconds
or more it lies in a leap second: behind its second and before the next in the order, and one second
long.  A leap second may stand behind any second, not only at the end of a minute.  Years run from
-262143 to 262142.  Instants are ordered by second and nanosecond.  Series are keyed by milliseconds
(`millis`), in which a leap second is counted on plainly, so that it falls together with the second
after it.
-/

import SoilWatch.Time.Calendar

namespace SoilWatch
namespace Time

/-- The first second of the year -262143. -/
def firstSecond : Int := -8334601228800

/-- The last second of the year 262142. -/
def lastSecond : Int := 8210266876799

example : firstSecond = Date.toDays ⟨-262143, 1, 1⟩ * 86400 := by decide
example : lastSecond = Date.toDays ⟨262142, 12, 31⟩ * 86400 + 86399 := by decide

/-- A point in universal time. -/
structure Instant where
  second : Int
  nano : Nat
  first_le : firstSecond ≤ second
  le_last : second ≤ lastSecond
  nano_lt : nano < 2000000000
  deriving DecidableEq

namespace Instant

/-- The instant with the given second and nanoseconds. -/
def ofUnix? (second : Int) (nano : Nat) : Option Instant :=
  if h : firstSecond ≤ second ∧ second ≤ lastSecond ∧ nano < 2000000000 then
    some ⟨second, nano, h.1, h.2.1, h.2.2⟩
  else none

/-- The start of Unix time. -/
def epoch : Instant := ⟨0, 0, by decide, by decide, by decide⟩

instance : Inhabited Instant := ⟨epoch⟩

/-- Not later than. -/
protected def le (a b : Instant) : Prop :=
  a.second < b.second ∨ (a.second = b.second ∧ a.nano ≤ b.nano)

/-- Earlier than. -/
protected def lt (a b : Instant) : Prop :=
  a.second < b.second ∨ (a.second = b.second ∧ a.nano < b.nano)

instance : LE Instant := ⟨Instant.le⟩
instance : LT Instant := ⟨Instant.lt⟩

instance (a b : Instant) : Decidable (a ≤ b) :=
  inferInstanceAs (Decidable (_ ∨ (_ ∧ _)))

instance (a b : Instant) : Decidable (a < b) :=
  inferInstanceAs (Decidable (_ ∨ (_ ∧ _)))

protected theorem le_refl (a : Instant) : a ≤ a :=
  .inr ⟨rfl, Nat.le_refl _⟩

protected theorem le_trans {a b c : Instant} (h : a ≤ b) (h' : b ≤ c) : a ≤ c := by
  rcases h with h | h <;> rcases h' with h' | h'
  · exact .inl (by omega)
  · exact .inl (by omega)
  · exact .inl (by omega)
  · exact .inr (by omega)

protected theorem not_le {a b : Instant} : ¬ a ≤ b ↔ b < a := by
  show ¬ (_ ∨ _) ↔ (_ ∨ _)
  omega

protected theorem not_lt {a b : Instant} : ¬ a < b ↔ b ≤ a := by
  show ¬ (_ ∨ _) ↔ (_ ∨ _)
  omega

protected theorem le_antisymm {a b : Instant} (h : a ≤ b) (h' : b ≤ a) : a = b := by
  cases a
  cases b
  rw [Instant.mk.injEq]
  rcases h with h | h <;> rcases h' with h' | h' <;> dsimp only at h h' <;> omega

/-- Unix milliseconds, rounded down. -/
def millis (t : Instant) : Int :=
  t.second * 1000 + t.nano / 1000000

/-- The instant at so many Unix milliseconds. -/
def ofMillis? (ms : Int) : Option Instant :=
  ofUnix? (ms / 1000) ((ms % 1000).toNat * 1000000)

/-- A second moved into the range that instants have. -/
def clamp (second : Int) : Int :=
  max firstSecond (min lastSecond second)

/-- The instant so many seconds later.  A leap second is left as soon as the distance is not zero,
to the following second when going on and to its own when going back.  The sum is total: beyond either
end of time the instant stays there, where a service would break off with an overflow.  That break is
left out, and so are distances with a fraction of a second. -/
def addSeconds (t : Instant) (n : Int) : Instant :=
  if n = 0 then t
  else
    let second := if t.nano < 1000000000 ∨ 0 < n then t.second + n else t.second + 1 + n
    ⟨clamp second, t.nano % 1000000000, by unfold clamp; omega,
      by have : firstSecond ≤ lastSecond := by decide
         unfold clamp; omega,
      by omega⟩

end Instant
end Time
end SoilWatch
