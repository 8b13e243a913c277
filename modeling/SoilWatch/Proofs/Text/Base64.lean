/-
# Base 64 has one written form

Reading base 64 is strict, so a list of octets is read from its written form and from nothing else
(`decodeChars?_eq_some`): not from one without the padding, not from one with padding elsewhere, and
not from one whose last digit carries bits that are dropped.  A character that stands for a number
is the digit of the number (`digit_of_value?`); the groups of two, three and four digits follow from
that by arithmetic, and the whole by induction over groups.
-/

import SoilWatch.Text.Base64
import Mathlib.Tactic.SplitIfs

namespace SoilWatch
namespace Text
namespace Base64

variable {v : Variant} {a b c d : Char} {bs : Octets}

/-- A variant whose digits are told apart, and from the padding. -/
structure Variant.Clear (v : Variant) : Prop where
  digits : ∀ n < 64, value? v (digit v n) = some n
  padding : value? v '=' = none

theorem clear_urlSafe : Variant.urlSafe.Clear := ⟨by decide, by decide⟩

/-- A character that stands for a number is its digit. -/
theorem digit_of_value? {n : Nat} (h : value? v c = some n) : n < 64 ∧ c = digit v n := by
  unfold value? at h
  dsimp only at h
  split_ifs at h with h₁ h₂ h₃ h₄ h₅ <;> obtain rfl := Option.some.inj h
  · refine ⟨by omega, ?_⟩
    rw [digit, if_pos (by omega), Nat.add_sub_cancel' h₁.1, Char.ofNat_toNat]
  · refine ⟨by omega, ?_⟩
    rw [digit, if_neg (by omega), if_pos (by omega), Nat.add_sub_cancel, Nat.add_sub_cancel' h₂.1,
      Char.ofNat_toNat]
  · refine ⟨by omega, ?_⟩
    rw [digit, if_neg (by omega), if_neg (by omega), if_pos (by omega), Nat.add_sub_cancel,
      Nat.add_sub_cancel' h₃.1, Char.ofNat_toNat]
  · exact ⟨by decide, h₄⟩
  · exact ⟨by decide, h₅⟩

/-! ### Groups -/

theorem lastOne?_eq_some (hv : v.Clear) : lastOne? v a b = some bs ↔
    ∃ x, bs = [x] ∧ a = digit v (x.toNat / 4) ∧ b = digit v (x.toNat % 4 * 16) := by
  constructor
  · intro h
    simp only [lastOne?, Option.bind_eq_bind, Option.bind_eq_some_iff, Option.ite_none_right_eq_some,
      Option.some.injEq] at h
    obtain ⟨x, hx, y, hy, hbits, rfl⟩ := h
    obtain ⟨hx, rfl⟩ := digit_of_value? hx
    obtain ⟨hy, rfl⟩ := digit_of_value? hy
    refine ⟨_, rfl, ?_, ?_⟩ <;> rw [UInt8.toNat_ofNat'] <;> congr 1 <;> omega
  · rintro ⟨x, rfl, rfl, rfl⟩
    have hlt := x.toNat_lt
    simp only [lastOne?, hv.digits _ (show x.toNat / 4 < 64 by omega),
      hv.digits _ (show x.toNat % 4 * 16 < 64 by omega), Option.bind_eq_bind, Option.bind_some,
      if_pos (show x.toNat % 4 * 16 % 16 = 0 by omega),
      show x.toNat / 4 * 4 + x.toNat % 4 * 16 / 16 = x.toNat by omega, UInt8.ofNat_toNat]

theorem lastTwo?_eq_some (hv : v.Clear) : lastTwo? v a b c = some bs ↔
    ∃ x y, bs = [x, y] ∧ a = digit v (x.toNat / 4) ∧
      b = digit v (x.toNat % 4 * 16 + y.toNat / 16) ∧ c = digit v (y.toNat % 16 * 4) := by
  constructor
  · intro h
    simp only [lastTwo?, Option.bind_eq_bind, Option.bind_eq_some_iff, Option.ite_none_right_eq_some,
      Option.some.injEq] at h
    obtain ⟨x, hx, y, hy, z, hz, hbits, rfl⟩ := h
    obtain ⟨hx, rfl⟩ := digit_of_value? hx
    obtain ⟨hy, rfl⟩ := digit_of_value? hy
    obtain ⟨hz, rfl⟩ := digit_of_value? hz
    refine ⟨_, _, rfl, ?_, ?_, ?_⟩ <;> simp only [UInt8.toNat_ofNat'] <;> congr 1 <;> omega
  · rintro ⟨x, y, rfl, rfl, rfl, rfl⟩
    have hx := x.toNat_lt
    have hy := y.toNat_lt
    simp only [lastTwo?, hv.digits _ (show x.toNat / 4 < 64 by omega),
      hv.digits _ (show x.toNat % 4 * 16 + y.toNat / 16 < 64 by omega),
      hv.digits _ (show y.toNat % 16 * 4 < 64 by omega), Option.bind_eq_bind, Option.bind_some,
      if_pos (show y.toNat % 16 * 4 % 4 = 0 by omega),
      show x.toNat / 4 * 4 + (x.toNat % 4 * 16 + y.toNat / 16) / 16 = x.toNat by omega,
      show (x.toNat % 4 * 16 + y.toNat / 16) % 16 * 16 + y.toNat % 16 * 4 / 4 = y.toNat by omega,
      UInt8.ofNat_toNat]

theorem group?_eq_some (hv : v.Clear) : group? v a b c d = some bs ↔
    ∃ x y z, bs = [x, y, z] ∧ a = digit v (x.toNat / 4) ∧
      b = digit v (x.toNat % 4 * 16 + y.toNat / 16) ∧
      c = digit v (y.toNat % 16 * 4 + z.toNat / 64) ∧ d = digit v (z.toNat % 64) := by
  constructor
  · intro h
    simp only [group?, Option.bind_eq_bind, Option.bind_eq_some_iff, Option.some.injEq] at h
    obtain ⟨x, hx, y, hy, z, hz, w, hw, rfl⟩ := h
    obtain ⟨hx, rfl⟩ := digit_of_value? hx
    obtain ⟨hy, rfl⟩ := digit_of_value? hy
    obtain ⟨hz, rfl⟩ := digit_of_value? hz
    obtain ⟨hw, rfl⟩ := digit_of_value? hw
    refine ⟨_, _, _, rfl, ?_, ?_, ?_, ?_⟩ <;> simp only [UInt8.toNat_ofNat'] <;> congr 1 <;> omega
  · rintro ⟨x, y, z, rfl, rfl, rfl, rfl, rfl⟩
    have hx := x.toNat_lt
    have hy := y.toNat_lt
    have hz := z.toNat_lt
    simp only [group?, hv.digits _ (show x.toNat / 4 < 64 by omega),
      hv.digits _ (show x.toNat % 4 * 16 + y.toNat / 16 < 64 by omega),
      hv.digits _ (show y.toNat % 16 * 4 + z.toNat / 64 < 64 by omega),
      hv.digits _ (show z.toNat % 64 < 64 by omega), Option.bind_eq_bind, Option.bind_some,
      show x.toNat / 4 * 4 + (x.toNat % 4 * 16 + y.toNat / 16) / 16 = x.toNat by omega,
      show (x.toNat % 4 * 16 + y.toNat / 16) % 16 * 16 + (y.toNat % 16 * 4 + z.toNat / 64) / 4 =
        y.toNat by omega,
      show (y.toNat % 16 * 4 + z.toNat / 64) % 4 * 64 + z.toNat % 64 = z.toNat by omega,
      UInt8.ofNat_toNat]

/-! ### Whole texts -/

/-- A digit is not the padding. -/
theorem digit_ne_padding (hv : v.Clear) {n : Nat} (hn : n < 64) : digit v n ≠ '=' := by
  intro h
  have hvalue := hv.digits n hn
  rw [h, hv.padding] at hvalue
  cases hvalue

theorem eq_of_mem_padding {n : Nat} (h : c ∈ padding v n) : c = '=' := by
  unfold padding at h
  split_ifs at h
  · exact List.eq_of_mem_replicate h
  · cases h

/-- **A written form has digits and padding only.** -/
theorem digit_or_padding (h : c ∈ encodeChars v bs) : (∃ n < 64, c = digit v n) ∨ c = '=' := by
  fun_induction encodeChars v bs with
  | case1 => cases h
  | case2 x =>
    have hx := x.toNat_lt
    simp only [List.cons_append, List.nil_append, List.mem_cons] at h
    rcases h with rfl | rfl | h
    · exact .inl ⟨_, by omega, rfl⟩
    · exact .inl ⟨_, by omega, rfl⟩
    · exact .inr (eq_of_mem_padding h)
  | case3 x y =>
    have hx := x.toNat_lt
    have hy := y.toNat_lt
    simp only [List.cons_append, List.nil_append, List.mem_cons] at h
    rcases h with rfl | rfl | rfl | h
    · exact .inl ⟨_, by omega, rfl⟩
    · exact .inl ⟨_, by omega, rfl⟩
    · exact .inl ⟨_, by omega, rfl⟩
    · exact .inr (eq_of_mem_padding h)
  | case4 x y z rest ih =>
    have hx := x.toNat_lt
    have hy := y.toNat_lt
    have hz := z.toNat_lt
    simp only [List.mem_cons] at h
    rcases h with rfl | rfl | rfl | rfl | h
    · exact .inl ⟨_, by omega, rfl⟩
    · exact .inl ⟨_, by omega, rfl⟩
    · exact .inl ⟨_, by omega, rfl⟩
    · exact .inl ⟨_, by omega, rfl⟩
    · exact ih h

/-- The written form of octets is read as them. -/
theorem decodeChars?_encodeChars (hv : v.Clear) (bs : Octets) :
    decodeChars? v (encodeChars v bs) = some bs := by
  fun_induction encodeChars v bs with
  | case1 => rfl
  | case2 x =>
    have hlast := (lastOne?_eq_some hv).2 ⟨x, rfl, rfl, rfl⟩
    by_cases hp : v.padded
    · simpa [padding, hp, decodeChars?] using hlast
    · simpa [padding, hp, decodeChars?] using hlast
  | case3 x y =>
    have hlast := (lastTwo?_eq_some hv).2 ⟨x, y, rfl, rfl, rfl, rfl⟩
    have hne : digit v (y.toNat % 16 * 4) ≠ '=' := digit_ne_padding hv (by omega)
    by_cases hp : v.padded
    · simpa [padding, hp, decodeChars?, hne] using hlast
    · simpa [padding, hp, decodeChars?] using hlast
  | case4 x y z rest ih =>
    have hgroup := (group?_eq_some hv).2 ⟨x, y, z, rfl, rfl, rfl, rfl, rfl⟩
    have hne : digit v (z.toNat % 64) ≠ '=' := digit_ne_padding hv (by omega)
    cases hrest : encodeChars v rest with
    | nil =>
      rw [hrest, decodeChars?, Option.some.injEq] at ih
      rw [← ih, decodeChars?, if_neg (by simp [hne])]
      exact hgroup
    | cons e es =>
      rw [hrest] at ih
      simp [decodeChars?, hgroup, ih]

/-- What is read is the written form of the octets. -/
theorem eq_encodeChars_of_decodeChars? (hv : v.Clear) {cs : List Char} :
    ∀ {bs : Octets}, decodeChars? v cs = some bs → cs = encodeChars v bs := by
  fun_induction decodeChars? v cs with
  | case1 =>
    rintro _ h
    rw [← Option.some.inj h]
    rfl
  | case2 | case4 | case10 => exact nofun
  | case3 a b hp =>
    intro bs h
    obtain ⟨x, rfl, rfl, rfl⟩ := (lastOne?_eq_some hv).1 h
    simp [encodeChars, padding, hp]
  | case5 a b c hp =>
    intro bs h
    obtain ⟨x, y, rfl, rfl, rfl, rfl⟩ := (lastTwo?_eq_some hv).1 h
    simp [encodeChars, padding, hp]
  | case6 a b d hp =>
    intro bs h
    obtain ⟨x, rfl, rfl, rfl⟩ := (lastOne?_eq_some hv).1 h
    simp [encodeChars, padding, hp.1, hp.2]
  | case7 a b c d hp =>
    intro bs h
    obtain ⟨x, y, rfl, rfl, rfl, rfl⟩ := (lastTwo?_eq_some hv).1 h
    simp [encodeChars, padding, hp.1, hp.2]
  | case8 a b c d =>
    intro bs h
    obtain ⟨x, y, z, rfl, rfl, rfl, rfl, rfl⟩ := (group?_eq_some hv).1 h
    rfl
  | case9 a b c d rest _ ih =>
    intro bs h
    simp only [Option.bind_eq_bind, Option.bind_eq_some_iff, Option.some.injEq] at h
    obtain ⟨g, hg, tail, htail, rfl⟩ := h
    obtain ⟨x, y, z, rfl, rfl, rfl, rfl, rfl⟩ := (group?_eq_some hv).1 hg
    rw [ih htail]
    rfl

/-- **A list of octets has exactly one written form.** -/
theorem decodeChars?_eq_some (hv : v.Clear) {cs : List Char} :
    decodeChars? v cs = some bs ↔ cs = encodeChars v bs := by
  refine ⟨eq_encodeChars_of_decodeChars? hv, ?_⟩
  rintro rfl
  exact decodeChars?_encodeChars hv bs

/-- A list of octets has exactly one written form, as a text. -/
theorem decode?_eq_some (hv : v.Clear) {s : String} : decode? v s = some bs ↔ s = encode v bs := by
  rw [decode?, decodeChars?_eq_some hv, encode]
  constructor
  · intro h
    rw [← h, String.ofList_toList]
  · rintro rfl
    exact String.toList_ofList

end Base64
end Text
end SoilWatch
