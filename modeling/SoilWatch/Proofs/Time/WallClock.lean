/-
# Local times

A local time is what a calendar and a clock show somewhere (`LocalTime`); with its offset from
universal time (`Zone`) it is one instant, and no other shows it there (`LocalTime.shows_iff`).  As
RFC 3339 writes it, with as many digits of a fraction as there are up to nine, the text is read as
that instant (`LocalTime.parse_text`).  An offset that has lost its plus sign is none, so a text with
a space in the place of the sign is refused, whatever the time is (`LocalTime.parse_signless`).
-/

import SoilWatch.Proofs.Time.Rfc3339

namespace SoilWatch
namespace Time

/-- The digits behind the point of a second, nine at most; without digits there is no point. -/
structure Fraction where
  places : Nat
  value : Nat
  places_le : places ≤ 9
  value_lt : value < 10 ^ places

namespace Fraction

/-- The fraction in nanoseconds. -/
def nano (f : Fraction) : Nat :=
  f.value * 10 ^ (9 - f.places)

/-- The point and the digits. -/
def chars (f : Fraction) : List Char :=
  if f.places = 0 then [] else '.' :: padded f.places f.value

theorem nano_lt (f : Fraction) : f.nano < 1000000000 := by
  calc f.value * 10 ^ (9 - f.places)
      < 10 ^ f.places * 10 ^ (9 - f.places) :=
        Nat.mul_lt_mul_of_pos_right f.value_lt (Nat.pow_pos (by decide))
    _ = 10 ^ (f.places + (9 - f.places)) := (Nat.pow_add 10 _ _).symm
    _ = 10 ^ 9 := by rw [Nat.add_sub_cancel' f.places_le]

/-- The digits are read up to a character that is none of them. -/
theorem readFraction_chars (f : Fraction) {c : Char} {rest : List Char} (hc : c.isDigit = false)
    (hpoint : c ≠ '.') : readFraction (f.chars ++ c :: rest) = .ok (f.nano, c :: rest) := by
  unfold chars
  split_ifs with hplaces
  · have hvalue : f.value = 0 := by
      have := f.value_lt
      rwa [hplaces, Nat.pow_zero, Nat.lt_one_iff] at this
    rw [List.nil_append, readFraction.eq_2 _ (by simpa using hpoint), nano, hvalue, Nat.zero_mul]
  · exact readFraction_padded (Nat.pos_of_ne_zero hplaces) f.places_le f.value_lt
      (Text.noDigitAhead_cons hc)

end Fraction

/-- **A local time**: a date of a year with four digits, a time of day without leap seconds, and the
letter between the two. -/
structure LocalTime where
  date : Date
  hour : Nat
  minute : Nat
  second : Nat
  fraction : Fraction
  letter : Char
  valid : date.Valid
  year_bounds : 0 ≤ date.year ∧ date.year ≤ 9999
  hour_le : hour ≤ 23
  minute_le : minute ≤ 59
  second_le : second ≤ 59
  letter_eq : letter = 'T' ∨ letter = 't'

/-- Hours and minutes, less than a day. -/
structure Distance where
  hour : Nat
  minute : Nat
  hour_le : hour ≤ 23
  minute_le : minute ≤ 59

/-- **An offset from universal time**: none, written as a letter, or a distance to the west or to the
east. -/
inductive Zone where
  | universal (letter : Char) (h : letter = 'Z' ∨ letter = 'z')
  | west (d : Distance)
  | east (d : Distance)

namespace Distance

variable (d : Distance)

/-- The seconds of a distance. -/
def seconds : Nat :=
  d.hour * 3600 + d.minute * 60

/-- The characters of a distance. -/
def chars : List Char :=
  padded 2 d.hour ++ ':' :: padded 2 d.minute

theorem seconds_lt : d.seconds < 86400 := by
  have := d.hour_le
  have := d.minute_le
  unfold seconds
  omega

/-- A number below a hundred has its two digits. -/
theorem padded_two : ∀ n < 100, padded 2 n = [Nat.digitChar (n / 10), Nat.digitChar (n % 10)] := by
  decide +kernel

theorem digit?_digitChar : ∀ n < 10, Text.digit? (Nat.digitChar n) = some n := by
  decide

theorem readPair_padded {n : Nat} (h : n < 100) (rest : List Char) :
    readPair (padded 2 n ++ rest) = .ok ((n / 10, n % 10), rest) := by
  rw [padded_two n h, List.cons_append, List.cons_append, List.nil_append, readPair,
    digit?_digitChar _ (by omega), digit?_digitChar _ (by omega)]

/-- **A distance is read as it is.** -/
theorem readDistance_chars : readDistance d.chars = .ok ((d.seconds : Int), []) := by
  have hhour := readPair_padded (show d.hour < 100 by have := d.hour_le; omega)
    (':' :: padded 2 d.minute)
  have hminute := readPair_padded (show d.minute < 100 by have := d.minute_le; omega) []
  have hsixty : ¬ 6 ≤ d.minute / 10 := by
    have := d.minute_le
    omega
  have hcolon : (modify fun cs => cs.dropWhile fun c => c = ':' || Text.isBlank c : Reader Unit)
      (':' :: padded 2 d.minute) = .ok ((), padded 2 d.minute ++ []) := by
    obtain ⟨c, cs, hcs, hc⟩ := padded_append_eq_cons 2 d.minute []
    have hne : c ≠ ':' := by rintro rfl; exact absurd hc (by decide)
    rw [List.append_nil] at hcs
    show Except.ok ((), List.dropWhile _ (':' :: padded 2 d.minute)) = _
    rw [List.dropWhile_cons_of_pos (by simp), List.append_nil, hcs,
      List.dropWhile_cons_of_neg (by simp [hne, isBlank_of_isDigit hc])]
  rw [chars, readDistance, bind_of_ok hhour]
  dsimp only
  rw [bind_of_ok hcolon, bind_of_ok hminute]
  dsimp only
  rw [if_neg hsixty, Nat.div_add_mod', Nat.div_add_mod']
  rfl

/-- A distance begins with a digit, and has more than two characters. -/
theorem chars_eq_cons : ∃ a b c cs, d.chars = a :: b :: c :: cs ∧ a.isDigit := by
  have := d.hour_le
  refine ⟨_, _, _, _, by rw [chars, padded_two d.hour (by omega)]; rfl, ?_⟩
  exact isDigit_of_mem_padded (n := d.hour)
    (by rw [padded_two d.hour (by omega)]; exact List.mem_cons_self)

end Distance

namespace Zone

/-- The seconds by which local time is ahead. -/
def seconds : Zone → Int
  | universal .. => 0
  | west d => -(d.seconds : Int)
  | east d => d.seconds

/-- The characters of an offset. -/
def chars : Zone → List Char
  | universal letter _ => [letter]
  | west d => '-' :: d.chars
  | east d => '+' :: d.chars

theorem seconds_bounds (z : Zone) : -86400 < z.seconds ∧ z.seconds < 86400 := by
  cases z with
  | universal =>
    simp only [seconds]
    omega
  | west d =>
    have := d.seconds_lt
    simp only [seconds]
    omega
  | east d =>
    have := d.seconds_lt
    simp only [seconds]
    omega

/-- An offset begins with neither a digit, a point nor a blank. -/
theorem chars_eq_cons (z : Zone) : ∃ c cs, z.chars = c :: cs ∧ c.isDigit = false ∧ c ≠ '.' ∧
    Text.isBlank c = false := by
  cases z with
  | universal letter h =>
    refine ⟨letter, [], rfl, ?_⟩
    rcases h with rfl | rfl <;> decide
  | west d => exact ⟨'-', d.chars, rfl, by decide⟩
  | east d => exact ⟨'+', d.chars, rfl, by decide⟩

/-- What does not begin like `UTC` is read as a signed offset. -/
theorem readOffset_cons {a : Char} (ha : a ≠ 'U' ∧ a ≠ 'u') (cs : List Char) :
    readOffset (a :: cs) = readSigned (a :: cs) := by
  have hletter : sameLetter 'U' a = false := by
    simp [sameLetter, ha.1]
    exact ha.2
  rcases cs with _ | ⟨b, _ | ⟨c, cs⟩⟩
  · rfl
  · rfl
  · rw [readOffset, hletter]
    rfl

/-- **An offset is read as it is.** -/
theorem readOffset_chars (z : Zone) : readOffset z.chars = .ok (z.seconds, []) := by
  cases z with
  | universal letter h => rcases h with rfl | rfl <;> rfl
  | west d =>
    rw [chars, readOffset_cons (by decide), readSigned, if_neg (by decide), if_neg (by decide),
      if_pos (.inl rfl), bind_of_ok d.readDistance_chars]
    rfl
  | east d =>
    rw [chars, readOffset_cons (by decide), readSigned, if_neg (by decide), if_pos rfl,
      d.readDistance_chars]
    rfl

end Zone

/-- The second of the day. -/
def LocalTime.ofDay (w : LocalTime) : Nat :=
  w.hour * 3600 + w.minute * 60 + w.second

/-- **What shows an instant**: the calendar and the clock of a place that is so many seconds ahead of
universal time. -/
structure Instant.Shows (t : Instant) (ahead : Int) (w : LocalTime) : Prop where
  date : Date.ofDays ((t.second + ahead) / 86400) = w.date
  ofDay : (t.second + ahead) % 86400 = w.ofDay
  nano : t.nano = w.fraction.nano

namespace LocalTime

variable (w : LocalTime)

theorem ofDay_lt : w.ofDay < 86400 := by
  have := w.hour_le
  have := w.minute_le
  have := w.second_le
  unfold ofDay
  omega

/-- A year of four digits lies in the middle of the years that instants have. -/
theorem toDays_bounds : -800000 ≤ w.date.toDays ∧ w.date.toDays ≤ 3000000 := by
  obtain ⟨hlow, hhigh, hday, -⟩ := w.valid
  have hlong := Date.day_le w.valid
  obtain ⟨hfirst, hlast⟩ := w.year_bounds
  simp only [Date.toDays]
  split_ifs <;> omega

/-- The second of an instant, by the date and the time that show it. -/
def unix (z : Zone) : Int :=
  w.date.toDays * 86400 + w.ofDay - z.seconds

theorem unix_bounds (z : Zone) : firstSecond ≤ w.unix z ∧ w.unix z ≤ lastSecond := by
  have := w.toDays_bounds
  have := w.ofDay_lt
  have := z.seconds_bounds
  unfold unix firstSecond lastSecond
  omega

/-- The instant of a local time with its offset. -/
def instant (z : Zone) : Instant :=
  ⟨w.unix z, w.fraction.nano, (w.unix_bounds z).1, (w.unix_bounds z).2,
    Nat.lt_trans w.fraction.nano_lt (by decide)⟩

/-- **A local time shows one instant** at an offset. -/
theorem shows_iff {w : LocalTime} {z : Zone} {t : Instant} :
    t.Shows z.seconds w ↔ t = w.instant z := by
  have hofDay := w.ofDay_lt
  constructor
  · rintro ⟨hdate, hclock, hnano⟩
    have hdays := Date.toDays_ofDays ((t.second + z.seconds) / 86400)
    rw [hdate] at hdays
    have hsecond : t.second = w.unix z := by
      unfold unix
      omega
    obtain ⟨second, nano, _, _, _⟩ := t
    rw [instant, Instant.mk.injEq]
    exact ⟨hsecond, hnano⟩
  · rintro rfl
    have hback : (w.instant z).second + z.seconds = w.date.toDays * 86400 + w.ofDay := by
      show w.unix z + z.seconds = _
      unfold unix
      omega
    refine ⟨?_, ?_, rfl⟩
    · -- The clock makes up less than a day, so the days are those of the date.
      rw [hback, show (w.date.toDays * 86400 + w.ofDay) / 86400 = w.date.toDays by omega,
        Date.ofDays_toDays w.valid]
    · rw [hback]
      omega

/-! ### The text -/

/-- The characters of a local time. -/
def chars : List Char :=
  padded 4 w.date.year.toNat ++ '-' :: (padded 2 w.date.month ++ '-' :: (padded 2 w.date.day ++
    w.letter :: (padded 2 w.hour ++ ':' :: (padded 2 w.minute ++ ':' :: (padded 2 w.second ++
      w.fraction.chars)))))

/-- The numbers that a local time and an offset give. -/
def reading (ahead : Int) : Reading :=
  ⟨w.date, w.hour, w.minute, w.second, w.fraction.nano, ahead⟩

/-- A local time is read as it is, up to what stands behind it. -/
theorem readReading_chars {c : Char} (hc : c.isDigit = false) (hpoint : c ≠ '.')
    (cs : List Char) : readReading (w.chars ++ c :: cs) =
      (do let offset ← readOffset; pure (w.reading offset) : Reader Reading)
        (Text.dropBlanks (c :: cs)) := by
  obtain ⟨hfirst, hlast⟩ := w.year_bounds
  obtain ⟨hlow, hhigh, hday, -⟩ := w.valid
  have hyear : yearChars w.date.year = padded 4 w.date.year.toNat := if_pos w.year_bounds
  have hword : -2147483648 ≤ w.date.year ∧ w.date.year ≤ 2147483647 := by omega
  have hfraction : readFraction (w.fraction.chars ++ c :: cs) = .ok (w.fraction.nano, c :: cs) :=
    w.fraction.readFraction_chars hc hpoint
  have hfront := readReading_front (r := w.reading 0) w.letter_eq hword ⟨hlow, hhigh⟩
    ⟨hday, Date.day_le w.valid⟩ w.hour_le w.minute_le (Nat.le_succ_of_le w.second_le) hfraction
  have hchars : w.chars ++ c :: cs = yearChars w.date.year ++ '-' :: (padded 2 w.date.month ++ '-' ::
      (padded 2 w.date.day ++ w.letter :: (padded 2 w.hour ++ ':' :: (padded 2 w.minute ++ ':' ::
        (padded 2 w.second ++ (w.fraction.chars ++ c :: cs)))))) := by
    simp only [chars, hyear, List.append_assoc, List.cons_append]
  rw [hchars]
  exact hfront

/-- The numbers of a local time and its offset name its instant. -/
theorem instant_reading (z : Zone) : (w.reading z.seconds).instant = .ok (w.instant z) := by
  have hleap : (if (w.reading z.seconds).second = 60 then 1 else 0) = 0 :=
    if_neg (Nat.ne_of_lt (Nat.lt_succ_of_le w.second_le))
  have hunix : (w.reading z.seconds).date.toDays * 86400 + (w.reading z.seconds).hour * 3600 +
      (w.reading z.seconds).minute * 60 + ((w.reading z.seconds).second - 0 : Nat) -
      (w.reading z.seconds).offset = w.unix z := by
    show w.date.toDays * 86400 + (w.hour : Int) * 3600 + (w.minute : Int) * 60 +
      (w.second - 0 : Nat) - z.seconds = w.unix z
    unfold unix ofDay
    omega
  have hinstant : Instant.ofUnix? (w.unix z) ((w.reading z.seconds).nano + 0 * 1000000000) =
      some (w.instant z) :=
    dif_pos ⟨(w.instant z).first_le, (w.instant z).le_last, (w.instant z).nano_lt⟩
  have hcalendar : ¬ (¬ (w.reading z.seconds).date.Valid ∨
      yearInRange (w.reading z.seconds).date.year = false ∨
      86400 ≤ (w.reading z.seconds).offset.natAbs) := by
    show ¬ (¬ w.date.Valid ∨ yearInRange w.date.year = false ∨ 86400 ≤ z.seconds.natAbs)
    have hyear := w.year_bounds
    have hahead := z.seconds_bounds
    simp only [w.valid, yearInRange, Bool.and_eq_false_iff, decide_eq_false_iff_not,
      not_true_eq_false, false_or]
    omega
  simp only [Reading.instant, hleap, hunix, if_neg hcalendar, hinstant]

/-- **A local time with its offset is read as its instant.** -/
theorem read_chars (z : Zone) : Instant.read (w.chars ++ z.chars) = .ok (w.instant z) := by
  obtain ⟨c, cs, hchars, hc, hpoint, hblank⟩ := z.chars_eq_cons
  have hdrop : Text.dropBlanks (c :: cs) = z.chars := by
    rw [hchars, Text.dropBlanks, List.dropWhile_cons_of_neg (by simp [hblank])]
  have hread := w.readReading_chars hc hpoint cs
  rw [hdrop, bind_of_ok z.readOffset_chars, ← hchars] at hread
  rw [Instant.read, hread]
  exact w.instant_reading z

/-- **With a space for the plus sign of its offset a local time is refused.** -/
theorem read_signless (d : Distance) :
    Instant.read (w.chars ++ ' ' :: d.chars) = .error .invalid := by
  obtain ⟨a, cs, hchars, ha⟩ := padded_append_eq_cons 2 d.hour (':' :: padded 2 d.minute)
  have hdrop : Text.dropBlanks (' ' :: d.chars) = a :: cs := by
    rw [Distance.chars, hchars, Text.dropBlanks, List.dropWhile_cons_of_pos (by decide),
      List.dropWhile_cons_of_neg (by simp [isBlank_of_isDigit ha])]
  have hnone : ∀ c : Char, c.isDigit = false → a ≠ c := by
    rintro c hc rfl
    exact absurd ha (by simp [hc])
  have hoffset : readOffset (a :: cs) = .error .invalid := by
    rw [Zone.readOffset_cons ⟨hnone 'U' rfl, hnone 'u' rfl⟩, readSigned,
      if_neg (not_or.2 ⟨hnone 'Z' rfl, hnone 'z' rfl⟩), if_neg (hnone '+' rfl),
      if_neg (not_or.2 ⟨hnone '-' rfl, hnone _ rfl⟩)]
  have hread := w.readReading_chars (c := ' ') (by decide) (by decide) d.chars
  rw [hdrop] at hread
  have hfault : (readOffset >>= fun offset => pure (w.reading offset) : Reader Reading) (a :: cs) =
      .error .invalid := by
    show (readOffset (a :: cs) >>= _) = _
    rw [hoffset]
    rfl
  rw [Instant.read, hread, hfault]

end LocalTime
end Time
end SoilWatch
