/-
# What the octets of a text are read as

The strict reading of octets gives a text if and only if they are the octets of that text
(`decode?_eq_some`).  One half is about characters: the machine, between characters, takes the
octets of a character as that character (`push_encodeChar`).  The other half is about octets: as long
as no piece is ill-formed, the octets taken are those of the characters read and of the sequence
that stands open (`Machine.Holds`), and this is kept by every octet (`Machine.Holds.push`).  A
sequence that stands open is a lead with some octets behind it (`Opens`), and the octet that closes
it makes it the octets of a character (`Opens.closed`).
-/

import SoilWatch.Text.Utf8
import Mathlib.Data.List.Induction
import Mathlib.Tactic.SplitIfs

namespace SoilWatch
namespace Text
namespace Utf8

variable {b : UInt8} {u : Unfinished} {p : Octets} {c : Char} {ps : List (Option Char)} {v : Nat}

/-! ### The octets of a character -/

theorem toNat_ofNat (h : v < 0xD800 ∨ 0xDFFF < v ∧ v < 0x110000) : (Char.ofNat v).toNat = v := by
  rw [Char.ofNat, dif_pos h]
  rfl

theorem encodeChar_one (h : v < 0x80) : String.utf8EncodeChar (Char.ofNat v) = [UInt8.ofNat v] := by
  have hv : (Char.ofNat v).val.toNat = v := toNat_ofNat (by omega)
  unfold String.utf8EncodeChar
  rw [hv]
  exact if_pos (by omega)

theorem encodeChar_two (h : 0x80 ≤ v) (h' : v < 0x800) : String.utf8EncodeChar (Char.ofNat v) =
    [UInt8.ofNat (v / 64 + 0xC0), UInt8.ofNat (v % 64 + 0x80)] := by
  have hv : (Char.ofNat v).val.toNat = v := toNat_ofNat (by omega)
  unfold String.utf8EncodeChar
  rw [hv]
  dsimp only
  rw [if_neg (by omega), if_pos (by omega), show v / 64 % 32 = v / 64 by omega]

theorem encodeChar_three (h : 0x800 ≤ v) (h' : v < 0x10000)
    (hv : v < 0xD800 ∨ 0xDFFF < v ∧ v < 0x110000) : String.utf8EncodeChar (Char.ofNat v) =
      [UInt8.ofNat (v / 4096 + 0xE0), UInt8.ofNat (v / 64 % 64 + 0x80),
        UInt8.ofNat (v % 64 + 0x80)] := by
  have hv : (Char.ofNat v).val.toNat = v := toNat_ofNat hv
  unfold String.utf8EncodeChar
  rw [hv]
  dsimp only
  rw [if_neg (by omega), if_neg (by omega), if_pos (by omega),
    show v / 4096 % 16 = v / 4096 by omega]

theorem encodeChar_four (h : 0x10000 ≤ v) (h' : v < 0x110000) :
    String.utf8EncodeChar (Char.ofNat v) =
      [UInt8.ofNat (v / 262144 + 0xF0), UInt8.ofNat (v / 4096 % 64 + 0x80),
        UInt8.ofNat (v / 64 % 64 + 0x80), UInt8.ofNat (v % 64 + 0x80)] := by
  have hv : (Char.ofNat v).val.toNat = v := toNat_ofNat (by omega)
  unfold String.utf8EncodeChar
  rw [hv]
  dsimp only
  rw [if_neg (by omega), if_neg (by omega), if_neg (by omega),
    show v / 262144 % 8 = v / 262144 by omega]

/-- Characters beyond ASCII have no ASCII octets. -/
theorem le_of_mem_encodeChar (h : 0x80 ≤ c.toNat) (hb : b ∈ String.utf8EncodeChar c) :
    0x80 ≤ b.toNat := by
  obtain ⟨v, rfl, hv⟩ : ∃ v, c = Char.ofNat v ∧ (v < 0xD800 ∨ 0xDFFF < v ∧ v < 0x110000) :=
    ⟨c.toNat, (Char.ofNat_toNat c).symm, c.valid⟩
  rw [toNat_ofNat hv] at h
  have hoctet : ∀ n < 256, (UInt8.ofNat n).toNat = n := fun n hn => UInt8.toNat_ofNat_of_lt' hn
  by_cases h₂ : v < 0x800
  · rw [encodeChar_two h h₂] at hb
    simp only [List.mem_cons, List.not_mem_nil, or_false] at hb
    obtain rfl | rfl := hb <;> rw [hoctet _ (by omega)] <;> omega
  by_cases h₃ : v < 0x10000
  · rw [encodeChar_three (by omega) h₃ hv] at hb
    simp only [List.mem_cons, List.not_mem_nil, or_false] at hb
    obtain rfl | rfl | rfl := hb <;> rw [hoctet _ (by omega)] <;> omega
  · rw [encodeChar_four (by omega) (by omega)] at hb
    simp only [List.mem_cons, List.not_mem_nil, or_false] at hb
    obtain rfl | rfl | rfl | rfl := hb <;> rw [hoctet _ (by omega)] <;> omega

/-! ### Leads -/

theorem lead_one (h : b.toNat < 0x80) : lead b = .whole (Char.ofNat b.toNat) :=
  if_pos h

theorem lead_two (h : 0xC2 ≤ b.toNat) (h' : b.toNat < 0xE0) :
    lead b = .opening ⟨1, 0x80, 0xBF, b.toNat - 0xC0⟩ := by
  unfold lead
  dsimp only
  rw [if_neg (by omega), if_neg (by omega), if_pos h']

theorem lead_three (h : 0xE0 ≤ b.toNat) (h' : b.toNat < 0xF0) :
    lead b = .opening ⟨2, if b.toNat = 0xE0 then 0xA0 else 0x80,
      if b.toNat = 0xED then 0x9F else 0xBF, b.toNat - 0xE0⟩ := by
  unfold lead
  dsimp only
  rw [if_neg (by omega), if_neg (by omega), if_neg (by omega), if_pos h']

theorem lead_four (h : 0xF0 ≤ b.toNat) (h' : b.toNat < 0xF5) :
    lead b = .opening ⟨3, if b.toNat = 0xF0 then 0x90 else 0x80,
      if b.toNat = 0xF4 then 0x8F else 0xBF, b.toNat - 0xF0⟩ := by
  unfold lead
  dsimp only
  rw [if_neg (by omega), if_neg (by omega), if_neg (by omega), if_neg (by omega), if_pos h']

/-- An octet that is a character by itself. -/
theorem encodeChar_of_lead (h : lead b = .whole c) : String.utf8EncodeChar c = [b] := by
  unfold lead at h
  dsimp only at h
  split_ifs at h with hb
  obtain rfl := Lead.whole.inj h
  rw [encodeChar_one hb, UInt8.ofNat_toNat]

/-- An octet that opens a sequence opens one of two, three or four octets. -/
theorem lead_eq_opening (h : lead b = .opening u) :
    (0xC2 ≤ b.toNat ∧ b.toNat < 0xE0 ∧ u = ⟨1, 0x80, 0xBF, b.toNat - 0xC0⟩) ∨
    (0xE0 ≤ b.toNat ∧ b.toNat < 0xF0 ∧ u = ⟨2, if b.toNat = 0xE0 then 0xA0 else 0x80,
      if b.toNat = 0xED then 0x9F else 0xBF, b.toNat - 0xE0⟩) ∨
    (0xF0 ≤ b.toNat ∧ b.toNat < 0xF5 ∧ u = ⟨3, if b.toNat = 0xF0 then 0x90 else 0x80,
      if b.toNat = 0xF4 then 0x8F else 0xBF, b.toNat - 0xF0⟩) := by
  unfold lead at h
  dsimp only at h
  split at h
  · cases h
  split at h
  · cases h
  split at h
  · exact .inl ⟨by omega, by omega, (Lead.opening.inj h).symm⟩
  split at h
  · exact .inr (.inl ⟨by omega, by omega, (Lead.opening.inj h).symm⟩)
  split at h
  · exact .inr (.inr ⟨by omega, by omega, (Lead.opening.inj h).symm⟩)
  · cases h

/-! ### Octets of a character are taken as the character -/

theorem push_whole (h : lead b = .whole c) : Machine.push ⟨ps, none⟩ b = ⟨some c :: ps, none⟩ := by
  show Machine.begin ps b = _
  rw [Machine.begin, h]

theorem push_opening (h : lead b = .opening u) : Machine.push ⟨ps, none⟩ b = ⟨ps, some u⟩ := by
  show Machine.begin ps b = _
  rw [Machine.begin, h]

/-- The number that a sequence stands for with one more octet. -/
def Unfinished.with (u : Unfinished) (b : UInt8) : Nat :=
  u.value * 64 + (b.toNat - 0x80)

theorem push_within (hl : u.low ≤ b) (hh : b ≤ u.high) : Machine.push ⟨ps, some u⟩ b =
    if u.need = 1 then ⟨some (Char.ofNat (u.with b)) :: ps, none⟩
    else ⟨ps, some ⟨u.need - 1, 0x80, 0xBF, u.with b⟩⟩ :=
  if_pos ⟨hl, hh⟩

theorem push_next (hn : u.need ≠ 1) (hl : u.low ≤ b) (hh : b ≤ u.high) :
    Machine.push ⟨ps, some u⟩ b = ⟨ps, some ⟨u.need - 1, 0x80, 0xBF, u.with b⟩⟩ :=
  (push_within hl hh).trans (if_neg hn)

theorem push_last (hn : u.need = 1) (hl : u.low ≤ b) (hh : b ≤ u.high) :
    Machine.push ⟨ps, some u⟩ b = ⟨some (Char.ofNat (u.with b)) :: ps, none⟩ :=
  (push_within hl hh).trans (if_pos hn)

/-- An octet with six bits of a character continues a sequence. -/
theorem continuation (h : b.toNat = v % 64 + 0x80) : (0x80 : UInt8) ≤ b ∧ b ≤ 0xBF := by
  rw [UInt8.le_iff_toNat_le, UInt8.le_iff_toNat_le, h]
  exact ⟨Nat.le_add_left _ _, show v % 64 + 128 ≤ 191 by omega⟩

/-- The octets of a character of two octets. -/
theorem push_two (ps : List (Option Char)) {a b : UInt8} (ha : a.toNat = v / 64 + 0xC0)
    (hb : b.toNat = v % 64 + 0x80) (h : 0x80 ≤ v) (h' : v < 0x800) :
    [a, b].foldl Machine.push ⟨ps, none⟩ = ⟨some (Char.ofNat v) :: ps, none⟩ := by
  rw [List.foldl_cons, push_opening (lead_two (by omega) (by omega)), List.foldl_cons,
    push_last rfl (continuation hb).1 (continuation hb).2]
  show Machine.mk (some (Char.ofNat ((a.toNat - 0xC0) * 64 + (b.toNat - 0x80))) :: ps) none = _
  rw [show (a.toNat - 0xC0) * 64 + (b.toNat - 0x80) = v by omega]

/-- The octets of a character of three octets. -/
theorem push_three (ps : List (Option Char)) {a b c : UInt8} (ha : a.toNat = v / 4096 + 0xE0)
    (hb : b.toNat = v / 64 % 64 + 0x80) (hc : c.toNat = v % 64 + 0x80) (h : 0x800 ≤ v)
    (h' : v < 0x10000) (hv : v < 0xD800 ∨ 0xDFFF < v) :
    [a, b, c].foldl Machine.push ⟨ps, none⟩ = ⟨some (Char.ofNat v) :: ps, none⟩ := by
  have hlow : (if a.toNat = 0xE0 then (0xA0 : UInt8) else 0x80) ≤ b := by
    rw [UInt8.le_iff_toNat_le, hb]
    split_ifs
    · show 160 ≤ v / 64 % 64 + 128
      omega
    · exact Nat.le_add_left _ _
  have hhigh : b ≤ (if a.toNat = 0xED then (0x9F : UInt8) else 0xBF) := by
    rw [UInt8.le_iff_toNat_le, hb]
    split_ifs
    · show v / 64 % 64 + 128 ≤ 159
      omega
    · show v / 64 % 64 + 128 ≤ 191
      omega
  rw [List.foldl_cons, push_opening (lead_three (by omega) (by omega)), List.foldl_cons,
    push_next (show 2 ≠ 1 by decide) hlow hhigh, List.foldl_cons,
    push_last rfl (continuation hc).1 (continuation hc).2]
  show Machine.mk (some (Char.ofNat
    (((a.toNat - 0xE0) * 64 + (b.toNat - 0x80)) * 64 + (c.toNat - 0x80))) :: ps) none = _
  rw [show ((a.toNat - 0xE0) * 64 + (b.toNat - 0x80)) * 64 + (c.toNat - 0x80) = v by omega]

/-- The octets of a character of four octets. -/
theorem push_four (ps : List (Option Char)) {a b c d : UInt8} (ha : a.toNat = v / 262144 + 0xF0)
    (hb : b.toNat = v / 4096 % 64 + 0x80) (hc : c.toNat = v / 64 % 64 + 0x80)
    (hd : d.toNat = v % 64 + 0x80) (h : 0x10000 ≤ v) (h' : v < 0x110000) :
    [a, b, c, d].foldl Machine.push ⟨ps, none⟩ = ⟨some (Char.ofNat v) :: ps, none⟩ := by
  have hlow : (if a.toNat = 0xF0 then (0x90 : UInt8) else 0x80) ≤ b := by
    rw [UInt8.le_iff_toNat_le, hb]
    split_ifs
    · show 144 ≤ v / 4096 % 64 + 128
      omega
    · exact Nat.le_add_left _ _
  have hhigh : b ≤ (if a.toNat = 0xF4 then (0x8F : UInt8) else 0xBF) := by
    rw [UInt8.le_iff_toNat_le, hb]
    split_ifs
    · show v / 4096 % 64 + 128 ≤ 143
      omega
    · show v / 4096 % 64 + 128 ≤ 191
      omega
  rw [List.foldl_cons, push_opening (lead_four (by omega) (by omega)), List.foldl_cons,
    push_next (show 3 ≠ 1 by decide) hlow hhigh, List.foldl_cons,
    push_next (show 3 - 1 ≠ 1 by decide) (continuation hc).1 (continuation hc).2, List.foldl_cons,
    push_last rfl (continuation hd).1 (continuation hd).2]
  show Machine.mk (some (Char.ofNat ((((a.toNat - 0xF0) * 64 + (b.toNat - 0x80)) * 64 +
    (c.toNat - 0x80)) * 64 + (d.toNat - 0x80))) :: ps) none = _
  rw [show (((a.toNat - 0xF0) * 64 + (b.toNat - 0x80)) * 64 + (c.toNat - 0x80)) * 64 +
    (d.toNat - 0x80) = v by omega]

/-- **The machine takes the octets of a character as the character.** -/
theorem push_encodeChar (ps : List (Option Char)) (c : Char) :
    (String.utf8EncodeChar c).foldl Machine.push ⟨ps, none⟩ = ⟨some c :: ps, none⟩ := by
  obtain ⟨v, rfl, hv⟩ : ∃ v, c = Char.ofNat v ∧ (v < 0xD800 ∨ 0xDFFF < v ∧ v < 0x110000) :=
    ⟨c.toNat, (Char.ofNat_toNat c).symm, c.valid⟩
  have hoctet : ∀ n < 256, (UInt8.ofNat n).toNat = n := fun n hn => UInt8.toNat_ofNat_of_lt' hn
  by_cases h₁ : v < 0x80
  · have hb := hoctet v (by omega)
    rw [encodeChar_one h₁, List.foldl_cons, push_whole (lead_one (by omega)), hb]
    rfl
  by_cases h₂ : v < 0x800
  · rw [encodeChar_two (by omega) h₂]
    exact push_two ps (hoctet _ (by omega)) (hoctet _ (by omega)) (by omega) h₂
  by_cases h₃ : v < 0x10000
  · rw [encodeChar_three (by omega) h₃ hv]
    exact push_three ps (hoctet _ (by omega)) (hoctet _ (by omega)) (hoctet _ (by omega))
      (by omega) h₃ (by omega)
  · rw [encodeChar_four (by omega) (by omega)]
    exact push_four ps (hoctet _ (by omega)) (hoctet _ (by omega)) (hoctet _ (by omega))
      (hoctet _ (by omega)) (by omega) (by omega)

/-! ### Sequences that stand open -/

/-- A lead and the octets behind it, as long as they do not make a character. -/
inductive Opens : Unfinished → Octets → Prop where
  | lead {u : Unfinished} {b : UInt8} (h : lead b = .opening u) : Opens u [b]
  | next {u : Unfinished} {p : Octets} {b : UInt8} (h : Opens u p) (hn : u.need ≠ 1)
    (hl : u.low ≤ b) (hh : b ≤ u.high) : Opens ⟨u.need - 1, 0x80, 0xBF, u.with b⟩ (p ++ [b])

/-- No sequence lacks more than three octets. -/
theorem Opens.need_le (h : Opens u p) : u.need ≤ 3 := by
  induction h with
  | lead h =>
    rcases lead_eq_opening h with ⟨-, -, rfl⟩ | ⟨-, -, rfl⟩ | ⟨-, -, rfl⟩ <;> dsimp only <;> omega
  | next _ _ _ _ ih => exact Nat.le_trans (Nat.sub_le _ _) ih

theorem eq_ofNat (h : b.toNat = v) : b = UInt8.ofNat v := by
  rw [← h, UInt8.ofNat_toNat]

/-- The bounds of an octet behind a lead, as numbers. -/
theorem toNat_bounds {q q' : Prop} [Decidable q] [Decidable q'] {low high : UInt8}
    (hl : (if q then low else 0x80) ≤ b) (hh : b ≤ if q' then high else 0xBF) :
    (if q then low.toNat else 0x80) ≤ b.toNat ∧ b.toNat ≤ if q' then high.toNat else 0xBF := by
  rw [UInt8.le_iff_toNat_le] at hl hh
  rw [apply_ite UInt8.toNat] at hl hh
  exact ⟨hl, hh⟩

section Closed

variable {a x y : UInt8}

theorem octets_two (ha : 0xC2 ≤ a.toNat) (ha' : a.toNat < 0xE0)
    (hb : 0x80 ≤ b.toNat ∧ b.toNat ≤ 0xBF) (hv : v = (a.toNat - 0xC0) * 64 + (b.toNat - 0x80)) :
    [a, b] = String.utf8EncodeChar (Char.ofNat v) := by
  rw [encodeChar_two (by omega) (by omega), ← eq_ofNat (show a.toNat = v / 64 + 0xC0 by omega),
    ← eq_ofNat (show b.toNat = v % 64 + 0x80 by omega)]

theorem octets_three (ha : 0xE0 ≤ a.toNat) (ha' : a.toNat < 0xF0)
    (hx : (if a.toNat = 0xE0 then 0xA0 else 0x80) ≤ x.toNat ∧
      x.toNat ≤ if a.toNat = 0xED then 0x9F else 0xBF)
    (hb : 0x80 ≤ b.toNat ∧ b.toNat ≤ 0xBF)
    (hv : v = ((a.toNat - 0xE0) * 64 + (x.toNat - 0x80)) * 64 + (b.toNat - 0x80)) :
    [a, x, b] = String.utf8EncodeChar (Char.ofNat v) := by
  have hrange : 0x80 ≤ x.toNat ∧ x.toNat ≤ 0xBF ∧ 0x800 ≤ v ∧ (v < 0xD800 ∨ 0xDFFF < v) := by
    split_ifs at hx <;> omega
  rw [encodeChar_three (by omega) (by omega) (by omega),
    ← eq_ofNat (show a.toNat = v / 4096 + 0xE0 by omega),
    ← eq_ofNat (show x.toNat = v / 64 % 64 + 0x80 by omega),
    ← eq_ofNat (show b.toNat = v % 64 + 0x80 by omega)]

theorem octets_four (ha : 0xF0 ≤ a.toNat) (ha' : a.toNat < 0xF5)
    (hx : (if a.toNat = 0xF0 then 0x90 else 0x80) ≤ x.toNat ∧
      x.toNat ≤ if a.toNat = 0xF4 then 0x8F else 0xBF)
    (hy : 0x80 ≤ y.toNat ∧ y.toNat ≤ 0xBF) (hb : 0x80 ≤ b.toNat ∧ b.toNat ≤ 0xBF)
    (hv : v = (((a.toNat - 0xF0) * 64 + (x.toNat - 0x80)) * 64 + (y.toNat - 0x80)) * 64 +
      (b.toNat - 0x80)) :
    [a, x, y, b] = String.utf8EncodeChar (Char.ofNat v) := by
  have hrange : 0x80 ≤ x.toNat ∧ x.toNat ≤ 0xBF ∧ 0x10000 ≤ v ∧ v < 0x110000 := by
    split_ifs at hx <;> omega
  rw [encodeChar_four (by omega) (by omega),
    ← eq_ofNat (show a.toNat = v / 262144 + 0xF0 by omega),
    ← eq_ofNat (show x.toNat = v / 4096 % 64 + 0x80 by omega),
    ← eq_ofNat (show y.toNat = v / 64 % 64 + 0x80 by omega),
    ← eq_ofNat (show b.toNat = v % 64 + 0x80 by omega)]

end Closed

theorem toNat_bounds_of_continues (hl : (0x80 : UInt8) ≤ b) (hh : b ≤ 0xBF) :
    0x80 ≤ b.toNat ∧ b.toNat ≤ 0xBF :=
  ⟨UInt8.le_iff_toNat_le.1 hl, UInt8.le_iff_toNat_le.1 hh⟩

/-- **The octet that a sequence lacks makes it the octets of a character.** -/
theorem Opens.closed (h : Opens u p) (hn : u.need = 1) (hl : u.low ≤ b) (hh : b ≤ u.high) :
    p ++ [b] = String.utf8EncodeChar (Char.ofNat (u.with b)) := by
  -- A sequence that lacks one octet has one, two or three.
  cases h with
  | @lead _ a h =>
    obtain ⟨ha, ha', rfl⟩ | ⟨-, -, rfl⟩ | ⟨-, -, rfl⟩ := lead_eq_opening h
    · exact octets_two ha ha' (toNat_bounds_of_continues hl hh) rfl
    · cases hn
    · cases hn
  | @next w q x h hw hwl hwh =>
    cases h with
    | @lead _ a h =>
      obtain ⟨-, -, rfl⟩ | ⟨ha, ha', rfl⟩ | ⟨-, -, rfl⟩ := lead_eq_opening h
      · cases hn
      · exact octets_three ha ha' (toNat_bounds hwl hwh) (toNat_bounds_of_continues hl hh) rfl
      · cases hn
    | @next w' q' y h hw' hwl' hwh' =>
      cases h with
      | @lead _ a h =>
        obtain ⟨-, -, rfl⟩ | ⟨-, -, rfl⟩ | ⟨ha, ha', rfl⟩ := lead_eq_opening h
        · cases hn
        · cases hn
        · exact octets_four ha ha' (toNat_bounds hwl' hwh') (toNat_bounds_of_continues hwl hwh)
            (toNat_bounds_of_continues hl hh) rfl
      | next h =>
        have hle := h.need_le
        simp only at hn hw hw'
        omega

/-! ### Whole texts -/

/-- The octets of characters. -/
def encodeChars (cs : List Char) : Octets :=
  cs.flatMap String.utf8EncodeChar

theorem encodeChars_append (cs ds : List Char) :
    encodeChars (cs ++ ds) = encodeChars cs ++ encodeChars ds :=
  List.flatMap_append

/-- **What the machine has taken:** as long as no piece is ill-formed, the octets of the characters
read, and behind them a sequence that stands open, if there is one. -/
def Machine.Holds (m : Machine) (bs : Octets) : Prop :=
  none ∉ m.pieces → match m.pending with
    | none => bs = encodeChars (m.pieces.reverse.filterMap id)
    | some u => ∃ p, Opens u p ∧ bs = encodeChars (m.pieces.reverse.filterMap id) ++ p

/-- A piece that is ill-formed stays. -/
theorem none_mem_begin (h : none ∈ ps) : none ∈ (Machine.begin ps b).pieces := by
  unfold Machine.begin
  split <;> simp [h]

/-- An octet that cannot go on leaves an ill-formed piece. -/
theorem none_mem_push (h : ¬ (u.low ≤ b ∧ b ≤ u.high)) :
    none ∈ (Machine.push ⟨ps, some u⟩ b).pieces := by
  rw [show Machine.push ⟨ps, some u⟩ b = Machine.begin (none :: ps) b from if_neg h]
  exact none_mem_begin List.mem_cons_self

/-- A character more. -/
theorem encodeChars_cons (ps : List (Option Char)) (c : Char) :
    encodeChars ((some c :: ps).reverse.filterMap id) =
      encodeChars (ps.reverse.filterMap id) ++ String.utf8EncodeChar c := by
  simp [encodeChars]

/-- **An octet more is taken** as it should be. -/
theorem Machine.Holds.push {m : Machine} {bs : Octets} (h : m.Holds bs) (b : UInt8) :
    (m.push b).Holds (bs ++ [b]) := by
  obtain ⟨ps, pending⟩ := m
  cases pending with
  | none =>
    cases hlead : lead b with
    | whole c =>
      rw [push_whole hlead]
      intro hps
      have hps : none ∉ ps := fun hmem => hps (List.mem_cons_of_mem _ hmem)
      show bs ++ [b] = _
      rw [encodeChars_cons, encodeChar_of_lead hlead]
      exact congrArg (· ++ [b]) (h hps)
    | opening u =>
      rw [push_opening hlead]
      intro hps
      exact ⟨[b], .lead hlead, congrArg (· ++ [b]) (h hps)⟩
    | stray =>
      intro hps
      refine absurd ?_ hps
      show none ∈ (Machine.begin ps b).pieces
      rw [Machine.begin, hlead]
      exact List.mem_cons_self
  | some u =>
    by_cases hb : u.low ≤ b ∧ b ≤ u.high
    · by_cases hn : u.need = 1
      · rw [push_last hn hb.1 hb.2]
        intro hps
        have hps : none ∉ ps := fun hmem => hps (List.mem_cons_of_mem _ hmem)
        obtain ⟨p, hp, rfl⟩ := h hps
        show _ ++ p ++ [b] = _
        rw [encodeChars_cons, ← hp.closed hn hb.1 hb.2, List.append_assoc]
      · rw [push_next hn hb.1 hb.2]
        intro hps
        obtain ⟨p, hp, rfl⟩ := h hps
        exact ⟨p ++ [b], hp.next hn hb.1 hb.2, List.append_assoc ..⟩
    · exact fun hps => absurd (none_mem_push hb) hps

/-- What the machine has taken after all octets. -/
theorem holds_foldl (bs : Octets) : (bs.foldl Machine.push ⟨[], none⟩).Holds bs := by
  induction bs using List.reverseRecOn with
  | nil => exact fun _ => rfl
  | append_singleton bs b ih =>
    rw [List.foldl_append]
    exact ih.push b

/-- The machine takes the octets of characters as the characters. -/
theorem foldl_encodeChars (ps : List (Option Char)) (cs : List Char) :
    (encodeChars cs).foldl Machine.push ⟨ps, none⟩ = ⟨(cs.map some).reverse ++ ps, none⟩ := by
  induction cs generalizing ps with
  | nil => rfl
  | cons c cs ih =>
    rw [encodeChars, List.flatMap_cons, List.foldl_append, push_encodeChar]
    exact (ih (some c :: ps)).trans (by simp)

theorem encode_ofList (cs : List Char) : encode (String.ofList cs) = encodeChars cs := by
  rw [encode, String.toList_ofList, encodeChars]

/-- **Octets are read as a text if and only if they are the octets of the text.** -/
theorem decode?_eq_some {bs : Octets} {s : String} : decode? bs = some s ↔ bs = encode s := by
  unfold decode? pieces
  dsimp only
  constructor
  · intro h
    have hholds := holds_foldl bs
    split_ifs at h with hall
    obtain rfl := Option.some.inj h
    rcases hm : bs.foldl Machine.push ⟨[], none⟩ with ⟨ps, _ | u⟩ <;> rw [hm] at hholds hall
    · have hps : none ∉ ps := fun hmem => by
        simpa using List.all_eq_true.1 hall none (List.mem_reverse.2 hmem)
      rw [encode_ofList]
      exact hholds hps
    · simp [Machine.finish] at hall
  · rintro rfl
    have htaken : (encode s).foldl Machine.push ⟨[], none⟩ = ⟨(s.toList.map some).reverse, none⟩ :=
      (foldl_encodeChars [] s.toList).trans (by rw [List.append_nil])
    rw [htaken]
    simp [Machine.finish]

end Utf8
end Text
end SoilWatch
