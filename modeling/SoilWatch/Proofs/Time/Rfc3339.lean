/-
# Instants are read back

The text of an instant is read as the instant, but for one case (`Instant.parse_text`): a leap second
that does not end a minute is written like the second behind it, and read as that (`Instant.asRead`).
No text is read as an instant in such a leap second (`Instant.exists_parse_eq_iff`), because a fraction
is less than a second and an offset is whole minutes.

Each part of the text is taken by its reader and leaves what stands behind it: a number of known width
whatever follows, a year or a fraction up to a character that is no digit.  The parts together are one
lemma about a date, a time and any offset (`readReading_wall`); what is left is that the numbers are
those of the instant, which is the calendar's part.
-/

import SoilWatch.Proofs.Text.Digits
import SoilWatch.Proofs.Time.Calendar
import SoilWatch.Time.Rfc3339
import Mathlib.Algebra.Group.Nat.Defs

namespace SoilWatch
namespace Time

open Text (NoDigitAhead)

variable {c : Char} {cs ds rest : List Char} {n m max width : Nat}

/-! ### Digits of a fixed width -/

theorem isDigit_of_mem_padded (h : c ∈ padded width n) : c.isDigit := by
  rcases List.mem_append.1 h with h | h
  · rw [(List.mem_replicate.1 h).2]
    rfl
  · exact Text.isDigit_of_mem_toDigits h

theorem padded_ne_nil (width n : Nat) : padded width n ≠ [] :=
  List.append_ne_nil_of_right_ne_nil _ Nat.toDigits_ne_nil

/-- The zeros in front do not change the number. -/
theorem ofDigitChars_padded : Nat.ofDigitChars 10 (padded width n) 0 = n := by
  rw [padded, Nat.ofDigitChars_append, Nat.ofDigitChars_replicate_zero, Nat.mul_zero,
    Nat.ofDigitChars_ten_toDigits]

theorem length_padded (hw : 0 < width) (h : n < 10 ^ width) : (padded width n).length = width := by
  have hle := (Nat.length_toDigits_le_iff (by decide) hw).2 h
  rw [padded, List.length_append, List.length_replicate]
  exact Nat.sub_add_cancel hle

/-! ### Readers -/

theorem bind_of_ok {α β : Type} {r : Reader α} {f : α → Reader β} {a : α} {cs cs' : List Char}
    (h : r cs = .ok (a, cs')) : (r >>= f) cs = f a cs' := by
  show (r cs >>= fun p => f p.1 p.2) = _
  rw [h]
  rfl

theorem isBlank_of_isDigit (h : c.isDigit) : Text.isBlank c = false := by
  have hrange := Text.isDigit_iff_toNat.1 h
  rw [← Bool.not_eq_true]
  simp only [Text.isBlank, Bool.or_eq_true, Bool.and_eq_true, decide_eq_true_eq, beq_iff_eq]
  omega

theorem skipBlanks_cons (h : Text.isBlank c = false) :
    skipBlanks (c :: cs) = .ok ((), c :: cs) := by
  rw [skipBlanks, Text.dropBlanks, List.dropWhile_cons_of_neg (by simp [h])]

/-- Digits are read, up to the number that may be or to what is none. -/
theorem readMore_append (hd : ∀ c ∈ ds, c.isDigit) (hlen : ds.length ≤ max)
    (hrest : ds.length = max ∨ NoDigitAhead rest)
    (hlt : Nat.ofDigitChars 10 ds n < 9223372036854775808) :
    readMore max n (ds ++ rest) = .ok (Nat.ofDigitChars 10 ds n, rest) := by
  induction ds generalizing max n with
  | nil =>
    cases max with
    | zero => rfl
    | succ max =>
      cases rest with
      | nil => rfl
      | cons c rest =>
        have hc := (hrest.resolve_left nofun) c rfl
        simp only [List.nil_append, readMore, Text.digit?_of_not_isDigit hc, Nat.ofDigitChars_nil]
  | cons c ds ih =>
    obtain ⟨hc, hds⟩ := List.forall_mem_cons.1 hd
    obtain ⟨hstep, hlt⟩ := Text.ofDigitChars_cons_lt hlt
    cases max with
    | zero => exact absurd hlen (Nat.not_succ_le_zero _)
    | succ max =>
      rw [List.length_cons] at hlen hrest
      simp only [List.cons_append, readMore, Text.digit?_of_isDigit hc, if_neg (Nat.not_le.2 hstep)]
      rw [ih hds (by omega) (hrest.imp_left Nat.succ.inj) hlt, Nat.ofDigitChars_cons, Nat.mul_comm]

/-- A padded number begins with a digit. -/
theorem padded_append_eq_cons (width n : Nat) (rest : List Char) :
    ∃ c cs, padded width n ++ rest = c :: cs ∧ c.isDigit := by
  obtain ⟨c, cs, hcs⟩ := List.exists_cons_of_ne_nil (padded_ne_nil width n)
  exact ⟨c, cs ++ rest, by rw [hcs, List.cons_append],
    isDigit_of_mem_padded (hcs ▸ List.mem_cons_self)⟩

/-- A number that was filled up to a width. -/
theorem readNumber_padded (hlen : (padded width n).length ≤ max)
    (hrest : (padded width n).length = max ∨ NoDigitAhead rest) (hlt : n < 9223372036854775808) :
    readNumber max (padded width n ++ rest) = .ok (n, rest) := by
  have hmore := readMore_append (fun _ h => isDigit_of_mem_padded h) hlen hrest
    (show Nat.ofDigitChars 10 (padded width n) 0 < _ by rwa [ofDigitChars_padded])
  obtain ⟨c, cs, hcs, hc⟩ := padded_append_eq_cons width n rest
  rw [ofDigitChars_padded] at hmore
  rw [hcs] at hmore ⊢
  rw [readNumber, Text.digit?_of_isDigit hc]
  exact hmore

/-- A number that fills its width may have anything behind it. -/
theorem readNumber_padded_full (hw : 0 < width) (h : n < 10 ^ width) (hlt : n < 9223372036854775808)
    (rest : List Char) : readNumber width (padded width n ++ rest) = .ok (n, rest) := by
  have hlen := length_padded hw h
  exact readNumber_padded (Nat.le_of_eq hlen) (.inl hlen) hlt

theorem skipBlanks_padded :
    skipBlanks (padded width n ++ rest) = .ok ((), padded width n ++ rest) := by
  obtain ⟨c, cs, hcs, hc⟩ := padded_append_eq_cons width n rest
  rw [hcs, skipBlanks_cons (isBlank_of_isDigit hc)]

/-- A field of two digits, whatever follows. -/
theorem readField_padded {low high : Nat} (hlow : low ≤ n) (hhigh : n ≤ high) (h : high < 100) :
    readField low high (padded 2 n ++ rest) = .ok (n, rest) := by
  have hnumber := readNumber_padded_full (show 0 < 2 by decide)
    (show n < 10 ^ 2 by omega) (by omega) rest
  rw [readField, bind_of_ok skipBlanks_padded, bind_of_ok hnumber, if_pos ⟨hlow, hhigh⟩]
  rfl

theorem readMark_cons {mark : Char} (h : Text.isBlank mark = false) :
    readMark mark (mark :: rest) = .ok ((), rest) := by
  rw [readMark, bind_of_ok (skipBlanks_cons h), readChar, if_pos (decide_eq_true rfl)]

/-! ### The year -/

/-- A year that begins with a digit has no sign. -/
theorem readYear_of_isDigit (hc : c.isDigit) :
    readYear (c :: cs) = (do let n ← readNumber 4; pure (n : Int) : Reader Int) (c :: cs) := by
  have hminus : c ≠ '-' := by rintro rfl; exact absurd hc (by decide)
  have hplus : c ≠ '+' := by rintro rfl; exact absurd hc (by decide)
  exact readYear.eq_3 _ (by simpa using hminus) (by simpa using hplus)

/-- The text of a year is read as the year. -/
theorem readYear_yearChars {y : Int} (h : -2147483648 ≤ y ∧ y ≤ 2147483647)
    (hrest : NoDigitAhead rest) : readYear (yearChars y ++ rest) = .ok (y, rest) := by
  unfold yearChars
  have hlong : readNumber (padded 4 y.natAbs ++ rest).length (padded 4 y.natAbs ++ rest) =
      .ok (y.natAbs, rest) :=
    readNumber_padded (by rw [List.length_append]; omega) (.inr hrest) (by omega)
  split_ifs with hshort hnegative
  · have hnumber := readNumber_padded_full (show 0 < 4 by decide)
      (show y.toNat < 10 ^ 4 by omega) (by omega) rest
    obtain ⟨c, cs, hcs, hc⟩ := padded_append_eq_cons 4 y.toNat rest
    rw [hcs] at hnumber ⊢
    rw [readYear_of_isDigit hc, bind_of_ok hnumber]
    show Except.ok ((y.toNat : Int), rest) = _
    rw [Int.toNat_of_nonneg hshort.1]
  · rw [List.cons_append, readYear, bind_of_ok hlong]
    show Except.ok (-(y.natAbs : Int), rest) = _
    rw [show -(y.natAbs : Int) = y by omega]
  · rw [List.cons_append, readYear, bind_of_ok hlong]
    show Except.ok ((y.natAbs : Int), rest) = _
    rw [show (y.natAbs : Int) = y by omega]

theorem readYearField_yearChars {y : Int} (h : -2147483648 ≤ y ∧ y ≤ 2147483647)
    (hrest : NoDigitAhead rest) : readYearField (yearChars y ++ rest) = .ok (y, rest) := by
  have hblanks : skipBlanks (yearChars y ++ rest) = .ok ((), yearChars y ++ rest) := by
    unfold yearChars
    split_ifs
    · exact skipBlanks_padded
    · exact skipBlanks_cons (by decide)
    · exact skipBlanks_cons (by decide)
  rw [readYearField, bind_of_ok hblanks, bind_of_ok (readYear_yearChars h hrest), if_pos h]
  rfl

/-! ### The fraction -/

/-- A fraction of a known number of digits. -/
theorem readFraction_padded (hw : 0 < width) (hwidth : width ≤ 9) (h : n < 10 ^ width)
    (hrest : NoDigitAhead rest) :
    readFraction ('.' :: padded width n ++ rest) = .ok (n * 10 ^ (9 - width), rest) := by
  have hlen := length_padded hw h
  have hlt : n < 9223372036854775808 :=
    Nat.lt_of_lt_of_le h (Nat.le_trans (Nat.pow_le_pow_right (by decide) hwidth) (by decide))
  have hnumber : readNumber 9 (padded width n ++ rest) = .ok (n, rest) :=
    readNumber_padded (by rwa [hlen]) (.inr hrest) hlt
  have hskip : rest.dropWhile (Text.digit? · |>.isSome) = rest := by
    cases rest with
    | nil => rfl
    | cons c rest =>
      have hc := hrest c rfl
      exact List.dropWhile_cons_of_neg (by simp [Text.digit?_of_not_isDigit hc])
  rw [List.cons_append, readFraction, hnumber]
  simp only [List.length_append, hlen, Nat.add_sub_cancel, hskip]
  rfl

/-- The text of a fraction is read as the fraction. -/
theorem readFraction_fractionChars (h : n < 1000000000) (hc : c.isDigit = false)
    (hpoint : c ≠ '.') :
    readFraction (fractionChars n ++ c :: rest) = .ok (n, c :: rest) := by
  have hrest : NoDigitAhead (c :: rest) := Text.noDigitAhead_cons hc
  unfold fractionChars
  split_ifs with hzero hmilli hmicro
  · rw [List.nil_append, hzero, readFraction.eq_2 _ (by simpa using hpoint)]
  · rw [readFraction_padded (by decide) (by decide) (by omega) hrest]
    rw [show n / 1000000 * 10 ^ (9 - 3) = n by omega]
  · rw [readFraction_padded (by decide) (by decide) (by omega) hrest]
    rw [show n / 1000 * 10 ^ (9 - 6) = n by omega]
  · rw [readFraction_padded (by decide) (by decide) h hrest]
    rw [show n * 10 ^ (9 - 9) = n by omega]

/-! ### The whole text -/

/-- **A date and a time are read as they are**, and what is behind them and blanks as the offset. -/
theorem readReading_front {r : Reading} {mark : Char} (hmark : mark = 'T' ∨ mark = 't')
    {tail : List Char} (hyear : -2147483648 ≤ r.date.year ∧ r.date.year ≤ 2147483647)
    (hmonth : 1 ≤ r.date.month ∧ r.date.month ≤ 12) (hday : 1 ≤ r.date.day ∧ r.date.day ≤ 31)
    (hhour : r.hour ≤ 23) (hminute : r.minute ≤ 59) (hsecond : r.second ≤ 60)
    {fraction : List Char} (hfraction : readFraction (fraction ++ tail) = .ok (r.nano, tail)) :
    readReading (yearChars r.date.year ++ '-' :: (padded 2 r.date.month ++ '-' ::
      (padded 2 r.date.day ++ mark :: (padded 2 r.hour ++ ':' :: (padded 2 r.minute ++ ':' ::
        (padded 2 r.second ++ (fraction ++ tail))))))) =
      (do let offset ← readOffset; pure { r with offset } : Reader Reading)
        (Text.dropBlanks tail) := by
  have hblanks : skipBlanks tail = .ok ((), Text.dropBlanks tail) := rfl
  have hjoin : ∀ cs, readChar (fun c => c = 'T' || c = 't' || c = ' ') (mark :: cs) =
      .ok ((), cs) := by
    rcases hmark with rfl | rfl <;> exact fun _ => rfl
  rw [readReading,
    bind_of_ok (readYearField_yearChars hyear (Text.noDigitAhead_cons (by decide))),
    bind_of_ok (readMark_cons (by decide)),
    bind_of_ok (readField_padded hmonth.1 hmonth.2 (by decide)),
    bind_of_ok (readMark_cons (by decide)),
    bind_of_ok (readField_padded hday.1 hday.2 (by decide)),
    bind_of_ok (hjoin _),
    bind_of_ok (readField_padded (Nat.zero_le _) hhour (by decide)),
    bind_of_ok (readMark_cons (by decide)),
    bind_of_ok (readField_padded (Nat.zero_le _) hminute (by decide)),
    bind_of_ok (readMark_cons (by decide)),
    bind_of_ok (readField_padded (Nat.zero_le _) hsecond (by decide)),
    bind_of_ok hfraction, bind_of_ok hblanks]

/-- **A date, a time and an offset are read as they are.** -/
theorem readReading_wall {r : Reading} {tail : List Char}
    (hyear : -2147483648 ≤ r.date.year ∧ r.date.year ≤ 2147483647)
    (hmonth : 1 ≤ r.date.month ∧ r.date.month ≤ 12) (hday : 1 ≤ r.date.day ∧ r.date.day ≤ 31)
    (hhour : r.hour ≤ 23) (hminute : r.minute ≤ 59) (hsecond : r.second ≤ 60)
    {fraction : List Char} (hfraction : readFraction (fraction ++ tail) = .ok (r.nano, tail))
    (htail : Text.dropBlanks tail = tail) (hoffset : readOffset tail = .ok (r.offset, rest)) :
    readReading (yearChars r.date.year ++ '-' :: (padded 2 r.date.month ++ '-' ::
      (padded 2 r.date.day ++ 'T' :: (padded 2 r.hour ++ ':' :: (padded 2 r.minute ++ ':' ::
        (padded 2 r.second ++ (fraction ++ tail))))))) = .ok (r, rest) := by
  rw [readReading_front (.inl rfl) hyear hmonth hday hhour hminute hsecond hfraction, htail,
    bind_of_ok hoffset]
  rfl

/-! ### Bounds of what is read -/

/-- What two readers in a row read. -/
theorem of_bind_eq_ok {α β : Type} {r : Reader α} {f : α → Reader β} {b : β}
    (h : (r >>= f) cs = .ok (b, rest)) : ∃ a cs', r cs = .ok (a, cs') ∧ f a cs' = .ok (b, rest) := by
  change (r cs >>= fun p => f p.1 p.2) = _ at h
  rcases hr : r cs with e | ⟨a, cs'⟩ <;> rw [hr] at h
  · exact absurd h nofun
  · exact ⟨a, cs', rfl, h⟩

/-- A number is bounded by how many digits it has. -/
theorem readMore_lt (h : readMore max n cs = .ok (m, rest)) :
    ∃ k ≤ max, cs.length = rest.length + k ∧ m < (n + 1) * 10 ^ k := by
  induction max generalizing n cs with
  | zero =>
    obtain ⟨rfl, rfl⟩ : n = m ∧ cs = rest := by simpa [readMore] using h
    exact ⟨0, Nat.le_refl 0, rfl, by omega⟩
  | succ max ih =>
    cases cs with
    | nil =>
      obtain ⟨rfl, rfl⟩ : n = m ∧ [] = rest := by simpa [readMore] using h
      exact ⟨0, Nat.zero_le _, rfl, by omega⟩
    | cons c cs =>
      rw [readMore] at h
      cases hd : Text.digit? c with
      | none =>
        obtain ⟨rfl, rfl⟩ : n = m ∧ c :: cs = rest := by simpa [hd] using h
        exact ⟨0, Nat.zero_le _, rfl, by omega⟩
      | some d =>
        simp only [hd] at h
        split_ifs at h
        obtain ⟨k, hk, hlen, hlt⟩ := ih h
        have hd := Text.le_nine_of_digit? hd
        refine ⟨k + 1, Nat.succ_le_succ hk, by rw [List.length_cons, hlen]; rfl, ?_⟩
        rw [Nat.pow_succ', ← Nat.mul_assoc]
        exact Nat.lt_of_lt_of_le hlt (Nat.mul_le_mul_right _ (by omega))

theorem readNumber_lt (h : readNumber max cs = .ok (n, rest)) :
    ∃ k ≤ max, cs.length = rest.length + k ∧ n < 10 ^ k := by
  cases cs with
  | nil => exact absurd h nofun
  | cons c cs =>
    rw [readNumber] at h
    split_ifs at h
    simpa using readMore_lt h

/-- A fraction is less than a second. -/
theorem readFraction_lt (h : readFraction cs = .ok (n, rest)) : n < 1000000000 := by
  unfold readFraction at h
  split at h
  · rename_i ds
    rcases hnumber : readNumber 9 ds with e | ⟨m, front⟩ <;> rw [hnumber] at h
    · exact absurd h nofun
    · obtain ⟨k, hk, hlen, hlt⟩ := readNumber_lt hnumber
      have hn : m * 10 ^ (9 - (ds.length - front.length)) = n := (Prod.mk.inj (Except.ok.inj h)).1
      rw [hlen, Nat.add_sub_cancel_left] at hn
      calc n = m * 10 ^ (9 - k) := hn.symm
        _ < 10 ^ k * 10 ^ (9 - k) := Nat.mul_lt_mul_of_pos_right hlt (Nat.pow_pos (by decide))
        _ = 1000000000 := by rw [← Nat.pow_add, Nat.add_sub_cancel' hk]
  · obtain ⟨rfl, -⟩ := Prod.mk.inj (Except.ok.inj h)
    decide

/-- The distance of an offset is whole minutes. -/
theorem readDistance_whole {x : Int} (h : readDistance cs = .ok (x, rest)) : x % 60 = 0 := by
  obtain ⟨⟨a, a'⟩, cs₁, -, h⟩ := of_bind_eq_ok h
  obtain ⟨-, cs₂, -, h⟩ := of_bind_eq_ok h
  obtain ⟨⟨b, b'⟩, cs₃, -, h⟩ := of_bind_eq_ok h
  dsimp only at h
  split_ifs at h
  · exact absurd h nofun
  · obtain ⟨rfl, -⟩ := Prod.mk.inj (Except.ok.inj h)
    omega

theorem readSigned_whole {x : Int} (h : readSigned cs = .ok (x, rest)) : x % 60 = 0 := by
  cases cs with
  | nil => exact absurd h nofun
  | cons c cs =>
    rw [readSigned] at h
    split_ifs at h
    · obtain ⟨rfl, -⟩ := Prod.mk.inj (Except.ok.inj h)
      rfl
    · exact readDistance_whole h
    · obtain ⟨y, _, hy, h⟩ := of_bind_eq_ok h
      have hwhole := readDistance_whole hy
      obtain ⟨rfl, -⟩ := Prod.mk.inj (Except.ok.inj h)
      omega

theorem readOffset_whole {x : Int} (h : readOffset cs = .ok (x, rest)) : x % 60 = 0 := by
  unfold readOffset at h
  split at h
  · split_ifs at h
    · obtain ⟨rfl, -⟩ := Prod.mk.inj (Except.ok.inj h)
      rfl
    · exact readSigned_whole h
  · exact readSigned_whole h

/-- The fraction and the offset of what is read. -/
theorem readReading_bounds {r : Reading} (h : readReading cs = .ok (r, rest)) :
    r.nano < 1000000000 ∧ r.offset % 60 = 0 := by
  obtain ⟨year, _, -, h⟩ := of_bind_eq_ok h
  obtain ⟨-, _, -, h⟩ := of_bind_eq_ok h
  obtain ⟨month, _, -, h⟩ := of_bind_eq_ok h
  obtain ⟨-, _, -, h⟩ := of_bind_eq_ok h
  obtain ⟨day, _, -, h⟩ := of_bind_eq_ok h
  obtain ⟨-, _, -, h⟩ := of_bind_eq_ok h
  obtain ⟨hour, _, -, h⟩ := of_bind_eq_ok h
  obtain ⟨-, _, -, h⟩ := of_bind_eq_ok h
  obtain ⟨minute, _, -, h⟩ := of_bind_eq_ok h
  obtain ⟨-, _, -, h⟩ := of_bind_eq_ok h
  obtain ⟨second, _, -, h⟩ := of_bind_eq_ok h
  obtain ⟨nano, _, hnano, h⟩ := of_bind_eq_ok h
  obtain ⟨-, _, -, h⟩ := of_bind_eq_ok h
  obtain ⟨offset, _, hoffset, h⟩ := of_bind_eq_ok h
  obtain ⟨rfl, -⟩ := Prod.mk.inj (Except.ok.inj h)
  exact ⟨readFraction_lt hnano, readOffset_whole hoffset⟩

/-! ### Instants -/

namespace Instant

/-- The second of the day. -/
def ofDay (t : Instant) : Nat :=
  (t.second % 86400).toNat

/-- One on a leap second, otherwise zero. -/
def leaps (t : Instant) : Nat :=
  if t.nano < 1000000000 then 0 else 1

/-- The numbers that the text of an instant gives. -/
def reading (t : Instant) : Reading :=
  ⟨Date.ofDays (t.second / 86400), t.ofDay / 3600, t.ofDay / 60 % 60, t.ofDay % 60 + t.leaps,
    t.nano - t.leaps * 1000000000, 0⟩

theorem ofDay_lt (t : Instant) : t.ofDay < 86400 := by
  unfold ofDay
  omega

theorem leaps_cases (t : Instant) : t.leaps = 0 ∧ t.nano < 1000000000 ∨
    t.leaps = 1 ∧ 1000000000 ≤ t.nano := by
  unfold leaps
  split_ifs <;> omega

theorem year_bounds (t : Instant) :
    -262143 ≤ t.reading.date.year ∧ t.reading.date.year ≤ 262142 := by
  have hfirst := t.first_le
  have hlast := t.le_last
  refine Date.year_ofDays_bounds ?_ ?_ <;> unfold firstSecond lastSecond at * <;> omega

theorem reading_second_le (t : Instant) : t.reading.second ≤ 60 := by
  show t.ofDay % 60 + t.leaps ≤ 60
  have := t.leaps_cases
  omega

theorem reading_nano_lt (t : Instant) : t.reading.nano < 1000000000 := by
  show t.nano - t.leaps * 1000000000 < 1000000000
  have := t.nano_lt
  have := t.leaps_cases
  omega

/-- The text of an instant gives its numbers. -/
theorem readReading_chars (t : Instant) : readReading t.chars = .ok (t.reading, []) := by
  have hyear := t.year_bounds
  obtain ⟨hmonth, hmonth', hday, -⟩ := Date.valid_ofDays (t.second / 86400)
  have hofDay := t.ofDay_lt
  have hfraction : readFraction (fractionChars t.reading.nano ++ ['Z']) =
      .ok (t.reading.nano, ['Z']) :=
    readFraction_fractionChars t.reading_nano_lt (by decide) (by decide)
  have hoffset : readOffset ['Z'] = .ok (t.reading.offset, []) := rfl
  have hwall := readReading_wall (by omega) ⟨hmonth, hmonth'⟩
    ⟨hday, Date.day_le (Date.valid_ofDays (t.second / 86400))⟩
    (show t.reading.hour ≤ 23 from Nat.le_of_lt_succ (Nat.div_lt_of_lt_mul hofDay))
    (show t.reading.minute ≤ 59 from Nat.le_of_lt_succ (Nat.mod_lt _ (by decide)))
    t.reading_second_le hfraction rfl hoffset
  rw [← hwall]
  simp only [chars, List.append_assoc, List.cons_append]
  rfl

/-- Whether a leap second, if the instant lies in one, ends a minute, as those of the calendar do. -/
def LeapEndsMinute (t : Instant) : Prop :=
  1000000000 ≤ t.nano → t.second % 60 = 59

instance (t : Instant) : Decidable t.LeapEndsMinute :=
  inferInstanceAs (Decidable (_ → _))

/-- **What the text of an instant is read as:** the instant, or in the place of a leap second that does
not end a minute the second behind it. -/
def asRead (t : Instant) : Instant :=
  if h : t.LeapEndsMinute then t
  else
    ⟨t.second + 1, t.nano - 1000000000, by have := t.first_le; omega,
      by have := t.le_last; unfold LeapEndsMinute lastSecond at *; omega,
      by have := t.nano_lt; omega⟩

/-- An instant is kept by its text exactly if its leap second, if it lies in one, ends a minute. -/
theorem asRead_eq_self {t : Instant} : t.asRead = t ↔ t.LeapEndsMinute := by
  unfold asRead
  constructor
  · intro h
    split_ifs at h with hkept
    · exact hkept
    · have hsecond : t.second + 1 = t.second := congrArg second h
      omega
  · exact fun h => dif_pos h

/-- The second and the nanoseconds of what is read. -/
theorem asRead_cases (t : Instant) :
    t.asRead.second = t.second ∧ t.asRead.nano = t.nano ∧ (t.leaps = 1 → t.ofDay % 60 = 59) ∨
      t.asRead.second = t.second + 1 ∧ t.asRead.nano = t.nano - 1000000000 ∧ t.leaps = 1 ∧
        t.ofDay % 60 ≠ 59 := by
  have hleaps := t.leaps_cases
  unfold ofDay
  by_cases h : t.LeapEndsMinute
  · left
    rw [asRead, dif_pos h]
    unfold LeapEndsMinute at h
    exact ⟨rfl, rfl, by omega⟩
  · right
    rw [asRead, dif_neg h]
    unfold LeapEndsMinute at h
    exact ⟨rfl, rfl, by omega, by omega⟩

/-- The numbers that the text of an instant gives name what it is read as. -/
theorem instant_reading (t : Instant) : t.reading.instant = .ok t.asRead := by
  have hleaps := t.leaps_cases
  have hasRead := t.asRead_cases
  -- Second 60 is a leap second; a leap second that ends no minute is written as a smaller number.
  have hsecond : t.reading.second = t.ofDay % 60 + t.leaps := rfl
  obtain ⟨leap, hleap, hcases⟩ : ∃ leap : Nat, (if t.reading.second = 60 then 1 else 0) = leap ∧
      (leap = 1 ∧ t.reading.second = 60 ∨ leap = 0 ∧ t.reading.second ≠ 60) := by
    by_cases h : t.reading.second = 60
    · exact ⟨1, if_pos h, .inl ⟨rfl, h⟩⟩
    · exact ⟨0, if_neg h, .inr ⟨rfl, h⟩⟩
  have hwall : t.reading.date.toDays * 86400 + t.reading.hour * 3600 + t.reading.minute * 60 +
      (t.reading.second - leap : Nat) = t.asRead.second := by
    show (Date.ofDays (t.second / 86400)).toDays * 86400 + (t.ofDay / 3600 : Nat) * 3600 +
      (t.ofDay / 60 % 60 : Nat) * 60 + (t.ofDay % 60 + t.leaps - leap : Nat) = t.asRead.second
    have hday : t.second / 86400 * 86400 + t.ofDay = t.second := by
      unfold ofDay
      omega
    rw [Date.toDays_ofDays]
    omega
  have hnano : t.reading.nano + leap * 1000000000 = t.asRead.nano := by
    show t.nano - t.leaps * 1000000000 + leap * 1000000000 = t.asRead.nano
    omega
  have hunix : ofUnix? (t.asRead.second - 0) t.asRead.nano = some t.asRead := by
    rw [Int.sub_zero]
    exact dif_pos ⟨t.asRead.first_le, t.asRead.le_last, t.asRead.nano_lt⟩
  have hoffset : t.reading.offset = 0 := rfl
  have hvalid : t.reading.date.Valid := Date.valid_ofDays _
  have hyear : yearInRange t.reading.date.year = true := by
    simpa [yearInRange] using t.year_bounds
  have hcalendar : ¬ (¬ t.reading.date.Valid ∨ yearInRange t.reading.date.year = false ∨
      86400 ≤ (0 : Int).natAbs) := by
    simp [hvalid, hyear]
  simp only [Reading.instant, hleap, hwall, hnano, hoffset, if_neg hcalendar, hunix]

/-- **The text of an instant is read as the instant,** but for a leap second that does not end a
minute. -/
theorem parse_text (t : Instant) : parse t.text = .ok t.asRead := by
  rw [parse, text, String.toList_ofList, read, t.readReading_chars]
  exact t.instant_reading

example : text ⟨-1, 1500000000, by decide, by decide, by decide⟩ = "1969-12-31T23:59:60.500Z" := by
  decide

/-- The second and the nanoseconds that numbers name. -/
theorem of_reading {r : Reading} {t : Instant} (h : r.instant = .ok t) :
    t.second = r.date.toDays * 86400 + r.hour * 3600 + r.minute * 60 +
        (r.second - if r.second = 60 then 1 else 0 : Nat) - r.offset ∧
      t.nano = r.nano + (if r.second = 60 then 1 else 0) * 1000000000 := by
  unfold Reading.instant ofUnix? at h
  dsimp only at h
  generalize (if r.second = 60 then 1 else 0) = leap at h ⊢
  split_ifs at h
  obtain rfl := Except.ok.inj h
  exact ⟨rfl, rfl⟩

/-- Numbers that are whole minutes off universal time name no leap second but one that ends a
minute: the second 60. -/
theorem leapEndsMinute_of_reading {r : Reading} {t : Instant} (hnano : r.nano < 1000000000)
    (hoffset : r.offset % 60 = 0) (h : r.instant = .ok t) : t.LeapEndsMinute := by
  obtain ⟨hsecond, hnano'⟩ := of_reading h
  intro hleap
  by_cases hsixty : r.second = 60
  · rw [if_pos hsixty] at hsecond
    omega
  · rw [if_neg hsixty] at hnano'
    omega

/-- **The instants that texts give** are those outside of leap seconds and in leap seconds that end
a minute: no text is read as another. -/
theorem exists_parse_eq_iff {t : Instant} : (∃ s, parse s = .ok t) ↔ t.LeapEndsMinute := by
  constructor
  · rintro ⟨s, h⟩
    rw [parse, read] at h
    rcases hr : readReading s.toList with e | ⟨r, rest⟩ <;> rw [hr] at h
    · exact absurd h nofun
    · obtain ⟨hnano, hoffset⟩ := readReading_bounds hr
      dsimp only at h
      split_ifs at h
      exact leapEndsMinute_of_reading hnano hoffset h
  · exact fun h => ⟨t.text, by rw [parse_text, asRead_eq_self.2 h]⟩

end Instant

end Time
end SoilWatch
