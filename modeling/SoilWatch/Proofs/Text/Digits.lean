/-
# Decimal digits

A number is written by the digits of core's `Nat.toDigits` and valued by its `Nat.ofDigitChars`,
which takes digits onto a number.  What stands between the two and a reader of this library: a
reader knows a digit by a test of its own, it gives up once a number is too large, and it stops at
the first character that is no digit.
-/

import SoilWatch.Text.Integer
import Mathlib.Data.Nat.Notation
import Mathlib.Tactic.SplitIfs

namespace SoilWatch
namespace Text

variable {c : Char} {cs : List Char} {n bound : Nat}

/-- Digits by their numbers, as linear arithmetic can use them. -/
theorem isDigit_iff_toNat : c.isDigit ↔ 0x30 ≤ c.toNat ∧ c.toNat ≤ 0x39 :=
  Char.isDigit_iff_toNat

theorem isDigit_of_mem_toDigits (h : c ∈ Nat.toDigits 10 n) : c.isDigit :=
  Nat.isDigit_of_mem_toDigits (by decide) (by decide) h

/-- The value of a digit. -/
theorem digit?_of_isDigit (h : c.isDigit) : digit? c = some (c.toNat - '0'.toNat) := by
  have hrange := isDigit_iff_toNat.1 h
  have hle : '0' ≤ c ∧ c ≤ '9' := by
    rw [Char.le_def, Char.le_def, UInt32.le_iff_toNat_le, UInt32.le_iff_toNat_le]
    exact hrange
  exact if_pos hle

/-- A character that is no digit has no value. -/
theorem digit?_of_not_isDigit (h : c.isDigit = false) : digit? c = none := by
  refine if_neg fun hle => ?_
  rw [Char.le_def, Char.le_def, UInt32.le_iff_toNat_le, UInt32.le_iff_toNat_le] at hle
  rw [isDigit_iff_toNat.2 hle] at h
  exact Bool.noConfusion h

theorem le_nine_of_digit? {d : Nat} (h : digit? c = some d) : d ≤ 9 := by
  cases hc : c.isDigit with
  | false => exact absurd ((digit?_of_not_isDigit hc).symm.trans h) nofun
  | true =>
    have hrange := isDigit_iff_toNat.1 hc
    have hvalue : c.toNat - 0x30 = d := Option.some.inj ((digit?_of_isDigit hc).symm.trans h)
    omega

/-- Digits make a number no smaller, so what they come to bounds every step on the way. -/
theorem le_ofDigitChars (cs : List Char) (n : Nat) : n ≤ Nat.ofDigitChars 10 cs n := by
  induction cs generalizing n with
  | nil => exact Nat.le_of_eq Nat.ofDigitChars_nil.symm
  | cons c cs ih =>
    rw [Nat.ofDigitChars_cons]
    exact Nat.le_trans (by omega) (ih _)

/-- The number at the first of more digits. -/
theorem ofDigitChars_cons_lt (h : Nat.ofDigitChars 10 (c :: cs) n < bound) :
    n * 10 + (c.toNat - '0'.toNat) < bound ∧
      Nat.ofDigitChars 10 cs (n * 10 + (c.toNat - '0'.toNat)) < bound := by
  rw [Nat.ofDigitChars_cons, Nat.mul_comm] at h
  exact ⟨Nat.lt_of_le_of_lt (le_ofDigitChars cs _) h, h⟩

/-- No digit stands in front, so a number that ended here goes no further. -/
def NoDigitAhead (cs : List Char) : Prop :=
  ∀ c ∈ cs.head?, c.isDigit = false

theorem noDigitAhead_cons (h : c.isDigit = false) : NoDigitAhead (c :: cs) :=
  fun _ hd => Option.some.inj hd ▸ h

/-- A number begins with a digit, which is no zero unless the number is. -/
theorem toDigits_eq_cons (n : Nat) :
    ∃ d ds, Nat.toDigits 10 n = d :: ds ∧ d.isDigit ∧ (0 < n → d ≠ '0') := by
  induction n using Nat.strongRecOn with
  | ind n ih =>
    by_cases hn : n < 10
    · refine ⟨n.digitChar, [], Nat.toDigits_of_lt_base hn, ?_, fun hpos => ?_⟩
      · rw [Nat.isDigit_digitChar, decide_eq_true hn]
      · exact mt Nat.digitChar_eq_zero.1 (Nat.ne_of_gt hpos)
    · obtain ⟨d, ds, hds, hd, hzero⟩ := ih (n / 10) (by omega)
      refine ⟨d, ds ++ [(n % 10).digitChar], ?_, hd, fun _ => hzero (by omega)⟩
      rw [Nat.toDigits_eq_if (by decide), if_neg hn, hds, List.cons_append]

end Text
end SoilWatch
