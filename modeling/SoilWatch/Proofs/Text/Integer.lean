/-
# Texts that are read as integers

A number without a sign in its range is read from one or more digits, with a plus sign in front or
without, and from no other text (`readInteger_eq_ok`).  Digits are taken onto the number one by one,
and since digits make a number no smaller, it leaves the range on the way only if it does at the end.
The digits of an integer, behind a minus sign if it is negative, are read as the integer
(`readInteger_integerChars`).
-/

import SoilWatch.Json.Value
import SoilWatch.Proofs.Text.Digits

namespace SoilWatch
namespace Text

variable {c : Char} {cs ds : List Char} {r : IntegerRange} {m : Int} {n : Nat}

theorem IntegerRange.contains_iff : r.contains m ↔ r.low ≤ m ∧ m ≤ r.high := by
  rw [IntegerRange.contains, Bool.and_eq_true, decide_eq_true_eq, decide_eq_true_eq]

/-- A row of digits. -/
def IsDigits (ds : List Char) : Prop :=
  ds ≠ [] ∧ ∀ c ∈ ds, c.isDigit

theorem isDigits_toDigits (n : Nat) : IsDigits (Nat.toDigits 10 n) :=
  ⟨Nat.toDigits_ne_nil, fun _ => isDigit_of_mem_toDigits⟩

/-- **Digits are read upwards onto a number,** if what they come to is in the range. -/
theorem readDigits_up (h : (n : Int) ≤ r.high) : readDigits r false n cs = .ok m ↔
    (∀ c ∈ cs, c.isDigit) ∧ m = Nat.ofDigitChars 10 cs n ∧ m ≤ r.high := by
  induction cs generalizing n with
  | nil =>
    rw [readDigits, Except.ok.injEq, Nat.ofDigitChars_nil]
    constructor
    · rintro rfl
      exact ⟨fun _ hc => absurd hc List.not_mem_nil, rfl, h⟩
    · rintro ⟨-, rfl, -⟩
      rfl
  | cons c cs ih =>
    by_cases hc : c.isDigit
    · have hle := le_ofDigitChars cs (10 * n + (c.toNat - '0'.toNat))
      have hstep : (n : Int) * 10 + (c.toNat - '0'.toNat : Nat) =
          (10 * n + (c.toNat - '0'.toNat) : Nat) := by
        push_cast
        omega
      rw [readDigits, digit?_of_isDigit hc, Nat.ofDigitChars_cons, List.forall_mem_cons]
      dsimp only
      rw [if_neg Bool.false_ne_true, hstep]
      by_cases hhigh : r.high < (10 * n + (c.toNat - '0'.toNat) : Nat)
      · rw [if_pos hhigh]
        refine iff_of_false nofun ?_
        rintro ⟨-, rfl, hm⟩
        omega
      · rw [if_neg hhigh, ih (Int.not_lt.1 hhigh), and_iff_right hc]
    · rw [readDigits, digit?_of_not_isDigit (Bool.not_eq_true _ ▸ hc)]
      refine iff_of_false nofun ?_
      rintro ⟨hdigits, -⟩
      exact hc (hdigits c List.mem_cons_self)

/-- Digits are read downwards below a minus sign, if what they come to is in the range. -/
theorem readDigits_down (hd : ∀ c ∈ ds, c.isDigit) (h : r.low ≤ -(Nat.ofDigitChars 10 ds n : Int)) :
    readDigits r true (-(n : Int)) ds = .ok (-(Nat.ofDigitChars 10 ds n : Int)) := by
  induction ds generalizing n with
  | nil => rw [readDigits, Nat.ofDigitChars_nil]
  | cons c ds ih =>
    obtain ⟨hc, hds⟩ := List.forall_mem_cons.1 hd
    have hle := le_ofDigitChars ds (10 * n + (c.toNat - '0'.toNat))
    have hstep : -(n : Int) * 10 - (c.toNat - '0'.toNat : Nat) =
        -((10 * n + (c.toNat - '0'.toNat) : Nat) : Int) := by
      push_cast
      omega
    rw [Nat.ofDigitChars_cons] at h ⊢
    rw [readDigits, digit?_of_isDigit hc]
    dsimp only
    rw [if_pos rfl, hstep, if_neg (by omega), ih hds h]

/-- A row of digits has no sign in front. -/
theorem readInteger_of_isDigits (h : IsDigits ds) : readInteger r ds = readDigits r false 0 ds := by
  obtain ⟨hne, hdigits⟩ := h
  unfold readInteger
  split
  case h_1 => exact absurd rfl hne
  case h_2 => exact absurd (hdigits '+' List.mem_cons_self) (by decide)
  case h_3 => exact absurd (hdigits '-' List.mem_cons_self) (by decide)
  case h_4 => rfl

/-- **What is read as a number of a range from zero on**: digits, behind a plus sign or not, that
come to a number of the range. -/
theorem readInteger_eq_ok (hlow : r.low = 0) (hhigh : 0 ≤ r.high) : readInteger r cs = .ok m ↔
    ∃ ds, (cs = ds ∨ cs = '+' :: ds) ∧ IsDigits ds ∧ m = Nat.ofDigitChars 10 ds 0 ∧
      m ≤ r.high := by
  have hread : ∀ ds, readDigits r false 0 ds = .ok m ↔
      (∀ c ∈ ds, c.isDigit) ∧ m = Nat.ofDigitChars 10 ds 0 ∧ m ≤ r.high := fun ds =>
    readDigits_up hhigh
  constructor
  · intro h
    unfold readInteger at h
    split at h
    case h_1 => cases h
    case h_2 ds =>
      split_ifs at h with hempty
      obtain ⟨hdigits, hm⟩ := (hread ds).1 h
      exact ⟨ds, .inr rfl, ⟨by simpa using hempty, hdigits⟩, hm⟩
    case h_3 ds =>
      rw [if_pos (.inr (Int.le_of_eq hlow.symm))] at h
      cases h
    case h_4 hne _ _ =>
      obtain ⟨hdigits, hm⟩ := (hread _).1 h
      exact ⟨cs, .inl rfl, ⟨hne, hdigits⟩, hm⟩
  · rintro ⟨ds, hcs, ⟨hne, hdigits⟩, hm⟩
    have hds := (hread ds).2 ⟨hdigits, hm⟩
    rcases hcs with rfl | rfl
    · rw [readInteger_of_isDigits ⟨hne, hdigits⟩, hds]
    · rw [readInteger, if_neg (by simpa using hne), hds]

/-- **The digits of an integer are read as the integer,** if it is in the range. -/
theorem readInteger_integerChars (hlow : r.low < 0) (h : r.contains m) :
    readInteger r (Json.integerChars m) = .ok m := by
  obtain ⟨hle, hhigh⟩ := IntegerRange.contains_iff.1 h
  cases m with
  | ofNat n =>
    have hdigits := isDigits_toDigits n
    have hzero : ((0 : Nat) : Int) ≤ r.high := Int.le_trans (Int.natCast_nonneg n) hhigh
    have hvalue : Int.ofNat n = Nat.ofDigitChars 10 (Nat.toDigits 10 n) 0 := by
      rw [Nat.ofDigitChars_ten_toDigits]
      rfl
    rw [Json.integerChars, readInteger_of_isDigits hdigits]
    exact (readDigits_up hzero).2 ⟨hdigits.2, hvalue, hhigh⟩
  | negSucc n =>
    obtain ⟨hne, hdigits⟩ := isDigits_toDigits (n + 1)
    have hvalue : -(Nat.ofDigitChars 10 (Nat.toDigits 10 (n + 1)) 0 : Int) = Int.negSucc n := by
      rw [Nat.ofDigitChars_ten_toDigits]
      rfl
    have hread := readDigits_down (r := r) (n := 0) hdigits (by rwa [hvalue])
    have hsign : ¬ ((Nat.toDigits 10 (n + 1)).isEmpty ∨ 0 ≤ r.low) := by
      rintro (hempty | hzero)
      · exact hne (List.isEmpty_iff.1 hempty)
      · omega
    rw [hvalue] at hread
    rw [Json.integerChars, readInteger, if_neg hsign]
    exact hread

end Text
end SoilWatch
