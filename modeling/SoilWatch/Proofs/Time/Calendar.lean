/-
# Days and dates

The date of a day is one of the calendar (`valid_ofDays`) and lies that many days after 1970-01-01
(`toDays_ofDays`), and no other date of the calendar does (`ofDays_toDays`); each day has the date
next to that of the day before (`ofDays_succ`).  An era is four centuries of twenty-five cycles of
four years; a century ends a day before its last cycle would, but the fourth does not.  A day of an
era is found in that scheme (`exists_place`), and there the closed formula for the year gives the
year of the place (`Place.yearOfEra_era`).  The months of a year that begins in March follow from the
day of the year alone (`ofMarch`).
-/

import SoilWatch.Time.Instant
import Mathlib.Data.Int.Notation
import Mathlib.Tactic.IntervalCases
import Mathlib.Tactic.SplitIfs

namespace SoilWatch
namespace Time
namespace Date

variable {e n : Int}

/-- No month is longer than 31 days. -/
theorem day_le {d : Date} (h : d.Valid) : d.day ≤ 31 := by
  have hday := h.2.2.2
  unfold daysInMonth at hday
  split_ifs at hday <;> omega

/-- The year of the era, by a day of the era. -/
def yearOfEra (e : Int) : Int := (e - e / 1460 + e / 36524 - e / 146096) / 365

/-- The day of the year that begins in March, by a day of the era. -/
def dayOfYear (e : Int) : Int := e - (365 * yearOfEra e + yearOfEra e / 4 - yearOfEra e / 100)

/-! ### The day of an era -/

/-- **Where a day of an era lies**: its century, the cycle of four years in it, the year in that and
the day in that.  The leap day is the last of a cycle, and the last cycle of a century has none
except in the fourth century. -/
structure Place where
  century : Int
  cycle : Int
  year : Int
  day : Int
  century_bounds : 0 ≤ century ∧ century ≤ 3
  cycle_bounds : 0 ≤ cycle ∧ cycle ≤ 24
  year_bounds : 0 ≤ year ∧ year ≤ 3
  day_bounds : 0 ≤ day ∧ day ≤ 365
  leap : day = 365 → year = 3 ∧ (cycle = 24 → century = 3)

namespace Place

/-- The day of the era at a place. -/
def era (p : Place) : Int :=
  36524 * p.century + 1461 * p.cycle + 365 * p.year + p.day

/-- The year of the era at a place. -/
def eraYear (p : Place) : Int :=
  100 * p.century + 4 * p.cycle + p.year

/-- The closed formula gives the year. -/
theorem yearOfEra_era (p : Place) : yearOfEra p.era = p.eraYear := by
  obtain ⟨c, k, y, d, hc, hk, hy, hd, hleap⟩ := p
  simp only [yearOfEra, era, eraYear]
  obtain ⟨e, he⟩ : ∃ e, e = 36524 * c + 1461 * k + 365 * y + d := ⟨_, rfl⟩
  rw [← he]
  have hcenturies : e / 36524 - e / 146096 = c := by
    obtain h | h : e = 146096 ∨ e / 36524 = c := by omega
    · omega
    · omega
  -- A cycle has one day more than four years of 365 days, a century 24 more.
  have hcycles : e / 1460 = 25 * c + k + (24 * c + k + 365 * y + d) / 1460 := by omega
  have hday : 0 ≤ d - (24 * c + k + 365 * y + d) / 1460 ∧
      d - (24 * c + k + 365 * y + d) / 1460 < 365 := by omega
  omega

/-- The day is what the years in front leave. -/
theorem dayOfYear_era (p : Place) : dayOfYear p.era = p.day := by
  rw [dayOfYear, yearOfEra_era]
  obtain ⟨c, k, y, d, hc, hk, hy, hd, hleap⟩ := p
  simp only [era, eraYear]
  omega

end Place

/-- Every day of an era has its place. -/
theorem exists_place (h : 0 ≤ e) (h' : e < 146097) : ∃ p : Place, p.era = e := by
  obtain ⟨c, hc⟩ : ∃ c, c = min (e / 36524) 3 := ⟨_, rfl⟩
  obtain ⟨r, hr⟩ : ∃ r, r = e - 36524 * c := ⟨_, rfl⟩
  obtain ⟨y, hy⟩ : ∃ y, y = min (r % 1461 / 365) 3 := ⟨_, rfl⟩
  refine ⟨⟨c, r / 1461, y, r % 1461 - 365 * y, ?_, ?_, ?_, ?_, ?_⟩, ?_⟩
  · omega
  · omega
  · omega
  · omega
  · omega
  · simp only [Place.era]
    omega

theorem Place.era_bounds (p : Place) : 0 ≤ p.era ∧ p.era < 146097 := by
  obtain ⟨c, k, y, d, hc, hk, hy, hd, hleap⟩ := p
  simp only [era]
  omega

/-! ### The date of a day -/

/-- The number of a month in a year that begins in March, by a day of the year. -/
def shifted (d : Int) : Int := (5 * d + 2) / 153

/-- The date of a day of a year that begins in March. -/
def ofMarch (y d : Int) : Date :=
  let month := if shifted d < 10 then shifted d + 3 else shifted d - 9
  ⟨y + if month ≤ 2 then 1 else 0, month.toNat, (d - (153 * shifted d + 2) / 5 + 1).toNat⟩

section March

variable {y d : Int}

theorem shifted_bounds (h : 0 ≤ d ∧ d ≤ 365) : 0 ≤ shifted d ∧ shifted d ≤ 11 := by
  unfold shifted
  omega

/-- March to December. -/
theorem ofMarch_early (h : 0 ≤ d) (hm : shifted d < 10) :
    ofMarch y d = ⟨y, (shifted d + 3).toNat, (d - (153 * shifted d + 2) / 5 + 1).toNat⟩ := by
  have hle : ¬ shifted d + 3 ≤ 2 := by
    unfold shifted
    omega
  simp only [ofMarch, if_pos hm, if_neg hle, Int.add_zero]

/-- January and February. -/
theorem ofMarch_late (h : d ≤ 365) (hm : 10 ≤ shifted d) : ofMarch y d =
    ⟨y + 1, (shifted d - 9).toNat, (d - (153 * shifted d + 2) / 5 + 1).toNat⟩ := by
  have hle : shifted d - 9 ≤ 2 := by
    unfold shifted
    omega
  simp only [ofMarch, if_neg (Int.not_lt.2 hm), if_pos hle]

/-- The days from 1970-01-01, by era, year of the era and day of the year. -/
theorem toDays_ofMarch (h : 0 ≤ d ∧ d ≤ 365) : (ofMarch y d).toDays =
    y / 400 * 146097 + (y % 400 * 365 + y % 400 / 4 - y % 400 / 100 + d) - 719468 := by
  obtain ⟨hlow, hhigh⟩ := shifted_bounds h
  have hday : ((d - (153 * shifted d + 2) / 5 + 1).toNat : Int) =
      d - (153 * shifted d + 2) / 5 + 1 := by
    unfold shifted
    omega
  by_cases hm : shifted d < 10
  · rw [ofMarch_early h.1 hm]
    have hmonth : ¬ (shifted d + 3).toNat ≤ 2 := by omega
    have hback : (((shifted d + 3).toNat : Int) + 9) % 12 = shifted d := by omega
    simp only [toDays, if_neg hmonth, hback, hday]
    omega
  · rw [ofMarch_late h.2 (Int.not_lt.1 hm)]
    have hmonth : (shifted d - 9).toNat ≤ 2 := by omega
    have hback : (((shifted d - 9).toNat : Int) + 9) % 12 = shifted d := by omega
    simp only [toDays, if_pos hmonth, hback, hday, Int.add_sub_cancel]
    omega

/-- The calendar has the date, if the leap day is one. -/
theorem valid_ofMarch (h : 0 ≤ d ∧ d ≤ 365) (hleap : d = 365 → isLeapYear (y + 1)) :
    (ofMarch y d).Valid := by
  obtain ⟨hlow, hhigh⟩ := shifted_bounds h
  by_cases hm : shifted d < 10
  · rw [ofMarch_early h.1 hm]
    refine ⟨?_, ?_, ?_, ?_⟩ <;> dsimp only
    · omega
    · omega
    · unfold shifted
      omega
    · unfold daysInMonth shifted at *
      split_ifs <;> omega
  · rw [ofMarch_late h.2 (Int.not_lt.1 hm)]
    have hcommon : ¬ isLeapYear (y + 1) = true → d ≤ 364 := fun hyear => by
      have := mt hleap hyear
      omega
    refine ⟨?_, ?_, ?_, ?_⟩ <;> dsimp only
    · omega
    · omega
    · unfold shifted
      omega
    · unfold daysInMonth shifted at *
      split_ifs with hfebruary hyear
      · omega
      · have := hcommon hyear
        omega
      · omega
      · omega

end March

/-! ### Every day has a date -/

/-- The day of an era, by the number of the era. -/
def dayOf (k : Int) (p : Place) : Int := k * 146097 + p.era - 719468

/-- Every day is the day of an era. -/
theorem exists_dayOf (n : Int) : ∃ k p, dayOf k p = n := by
  obtain ⟨p, hp⟩ := exists_place (e := (n + 719468) % 146097) (by omega) (by omega)
  exact ⟨(n + 719468) / 146097, p, by rw [dayOf, hp]; omega⟩

theorem ofDays_eq (n : Int) : ofDays n =
    ofMarch (yearOfEra ((n + 719468) % 146097) + (n + 719468) / 146097 * 400)
      (dayOfYear ((n + 719468) % 146097)) :=
  rfl

/-- The date at a place of an era. -/
theorem ofDays_dayOf (k : Int) (p : Place) :
    ofDays (dayOf k p) = ofMarch (p.eraYear + k * 400) p.day := by
  have hbounds := p.era_bounds
  have hera : (dayOf k p + 719468) / 146097 = k := by unfold dayOf; omega
  have hday : (dayOf k p + 719468) % 146097 = p.era := by unfold dayOf; omega
  rw [ofDays_eq, hera, hday, p.yearOfEra_era, p.dayOfYear_era]

/-- The leap day of a place is that of a leap year. -/
theorem Place.isLeapYear (k : Int) (p : Place) (h : p.day = 365) :
    isLeapYear (p.eraYear + k * 400 + 1) := by
  obtain ⟨hyear, hcycle⟩ := p.leap h
  have hcycles := p.cycle_bounds
  have hcenturies := p.century_bounds
  have hfour : (p.eraYear + k * 400 + 1) % 4 = 0 := by unfold eraYear; omega
  have hhundred : (p.eraYear + k * 400 + 1) % 100 ≠ 0 ∨ (p.eraYear + k * 400 + 1) % 400 = 0 := by
    unfold eraYear
    omega
  simp only [Time.isLeapYear, Bool.and_eq_true, Bool.or_eq_true, decide_eq_true_eq]
  exact ⟨hfour, hhundred⟩

/-- **The calendar has the date of every day.** -/
theorem valid_ofDays (n : Int) : (ofDays n).Valid := by
  obtain ⟨k, p, rfl⟩ := exists_dayOf n
  rw [ofDays_dayOf]
  exact valid_ofMarch p.day_bounds (p.isLeapYear k)

theorem Place.eraYear_bounds (p : Place) : 0 ≤ p.eraYear ∧ p.eraYear < 400 := by
  have := p.century_bounds
  have := p.cycle_bounds
  have := p.year_bounds
  unfold eraYear
  omega

/-- **The date of a day lies that many days after 1970-01-01.** -/
theorem toDays_ofDays (n : Int) : (ofDays n).toDays = n := by
  obtain ⟨k, p, rfl⟩ := exists_dayOf n
  have hbounds := p.eraYear_bounds
  have hera : (p.eraYear + k * 400) / 400 = k := by omega
  have hyear : (p.eraYear + k * 400) % 400 = p.eraYear := by omega
  have hday := p.dayOfYear_era
  rw [dayOfYear, p.yearOfEra_era] at hday
  rw [ofDays_dayOf, toDays_ofMarch p.day_bounds, hera, hyear, dayOf]
  omega

/-- The year of a day, by its place; January and February lie at the end of a place's year. -/
theorem year_ofDays_dayOf (k : Int) (p : Place) :
    (ofDays (dayOf k p)).year = p.eraYear + k * 400 + if p.day < 306 then 0 else 1 := by
  rw [ofDays_dayOf]
  by_cases hm : shifted p.day < 10
  · rw [ofMarch_early p.day_bounds.1 hm, if_pos (by unfold shifted at hm; omega), Int.add_zero]
  · rw [ofMarch_late p.day_bounds.2 (Int.not_lt.1 hm), if_neg (by unfold shifted at hm; omega)]

/-- The days that instants have lie in the years that instants have. -/
theorem year_ofDays_bounds (h : firstSecond / 86400 ≤ n) (h' : n ≤ lastSecond / 86400) :
    -262143 ≤ (ofDays n).year ∧ (ofDays n).year ≤ 262142 := by
  obtain ⟨k, p, rfl⟩ := exists_dayOf n
  rw [year_ofDays_dayOf]
  have hfirst : firstSecond / 86400 = -96465292 := by decide
  have hlast : lastSecond / 86400 = 95026236 := by decide
  rw [hfirst] at h
  rw [hlast] at h'
  obtain ⟨c, k', y, d, hc, hk, hy, hd, hleap⟩ := p
  simp only [dayOf, Place.era, Place.eraYear] at *
  -- Only in the first and the last era is there anything to decide.
  have hera : -656 ≤ k ∧ k ≤ 655 := by omega
  obtain rfl | hk₀ | rfl : k = -656 ∨ (-656 < k ∧ k < 655) ∨ k = 655 := by omega
  · split_ifs <;> omega
  · split_ifs <;> omega
  · have hcentury : c = 0 ∨ c = 1 := by omega
    split_ifs <;> omega

/-! ### Every date is that of its day -/

/-- Every day of a year that begins in March is the day of an era. -/
theorem exists_place_of_march {y d : Int} (h : 0 ≤ d ∧ d ≤ 365)
    (hleap : d = 365 → isLeapYear (y + 1)) :
    ∃ k, ∃ p : Place, p.eraYear + k * 400 = y ∧ p.day = d := by
  have hlast : d = 365 → (y + 1) % 4 = 0 ∧ ((y + 1) % 100 ≠ 0 ∨ (y + 1) % 400 = 0) := by
    intro hd
    simpa [isLeapYear] using hleap hd
  refine ⟨y / 400, ⟨y % 400 / 100, y % 100 / 4, y % 4, d, ?_, ?_, ?_, h, ?_⟩, ?_, rfl⟩
  · omega
  · omega
  · omega
  · omega
  · simp only [Place.eraYear]
    omega

/-- A day of a year that begins in March is found again by its distance from 1970-01-01. -/
theorem ofDays_ofMarch {y d : Int} (h : 0 ≤ d ∧ d ≤ 365) (hleap : d = 365 → isLeapYear (y + 1)) :
    ofDays (ofMarch y d).toDays = ofMarch y d := by
  obtain ⟨k, p, rfl, rfl⟩ := exists_place_of_march h hleap
  have hdays : (ofMarch (p.eraYear + k * 400) p.day).toDays = dayOf k p := by
    rw [← ofDays_dayOf, toDays_ofDays]
  rw [hdays, ofDays_dayOf]

/-- The first day of a month of a year that begins in March, by the number of the month. -/
def monthStart (m : Int) : Int := (153 * m + 2) / 5

/-- A day of a month is found by its distance from the first of March. -/
theorem shifted_monthStart {m k : Int} (hk : 0 ≤ k)
    (hlast : monthStart m + k < monthStart (m + 1)) : shifted (monthStart m + k) = m := by
  unfold shifted monthStart at *
  omega

/-- A day of a month lies in front of the next month; February, the last, is counted longer than it
is. -/
theorem monthStart_add_day {d : Date} (h : d.Valid) :
    monthStart ((d.month + 9) % 12 : Nat) + (d.day - 1 : Int) <
      monthStart ((d.month + 9) % 12 + 1 : Nat) := by
  obtain ⟨y, month, day⟩ := d
  obtain ⟨hlow, hhigh, -, hday⟩ := h
  dsimp only at hlow hhigh hday ⊢
  unfold daysInMonth at hday
  unfold monthStart
  interval_cases month <;> simp at hday ⊢ <;> (try split at hday) <;> omega

/-- February has 29 days in a leap year. -/
theorem day_le_of_february {d : Date} (h : d.Valid) (hm : d.month = 2) :
    d.day ≤ 29 ∧ (d.day = 29 → isLeapYear d.year) := by
  obtain ⟨-, -, -, hday⟩ := h
  rw [daysInMonth, if_pos hm] at hday
  split_ifs at hday with hleap
  · exact ⟨hday, fun _ => hleap⟩
  · exact ⟨by omega, fun hd => by omega⟩

/-- Every date of the calendar is a day of a year that begins in March. -/
theorem exists_ofMarch_eq {d : Date} (h : d.Valid) : ∃ y n, (0 ≤ n ∧ n ≤ 365) ∧
    (n = 365 → isLeapYear (y + 1)) ∧ ofMarch y n = d := by
  have hmonth := monthStart_add_day h
  have hfebruary := day_le_of_february h
  obtain ⟨year, month, day⟩ := d
  obtain ⟨hlow, hhigh, hday, -⟩ := h
  dsimp only at hlow hhigh hday hmonth hfebruary
  obtain ⟨m, hm⟩ : ∃ m : Nat, m = (month + 9) % 12 := ⟨_, rfl⟩
  have hnumber : m ≤ 9 ∧ month = m + 3 ∨ m = 10 ∧ month = 1 ∨ m = 11 ∧ month = 2 := by omega
  rw [← hm] at hmonth
  clear hm
  have hshifted : shifted (monthStart m + (day - 1 : Int)) = m :=
    shifted_monthStart (by omega) (by exact_mod_cast hmonth)
  -- The days are numbered up to 365, and only February, the last month, has that one.
  have hlast : 0 ≤ monthStart m + (day - 1 : Int) ∧ monthStart m + (day - 1 : Int) ≤ 365 ∧
      (monthStart m + (day - 1 : Int) = 365 → month = 2 ∧ day = 29) := by
    clear hshifted
    unfold monthStart at *
    omega
  have hback : (monthStart m + (day - 1 : Int) - monthStart m + 1).toNat = day := by omega
  by_cases hlate : month ≤ 2
  · refine ⟨year - 1, monthStart m + (day - 1), ⟨hlast.1, hlast.2.1⟩, fun hd => ?_, ?_⟩
    · obtain ⟨rfl, rfl⟩ := hlast.2.2 hd
      simpa using (hfebruary rfl).2 rfl
    · rw [ofMarch_late hlast.2.1 (by omega), hshifted]
      rw [show (153 * (m : Int) + 2) / 5 = monthStart m from rfl, hback,
        show ((m : Int) - 9).toNat = month by omega, Int.sub_add_cancel]
  · refine ⟨year, monthStart m + (day - 1), ⟨hlast.1, hlast.2.1⟩, fun hd => ?_, ?_⟩
    · have := (hlast.2.2 hd).1
      omega
    · rw [ofMarch_early hlast.1 (by omega), hshifted]
      rw [show (153 * (m : Int) + 2) / 5 = monthStart m from rfl, hback,
        show ((m : Int) + 3).toNat = month by omega]

/-- **The date that lies as many days after 1970-01-01 as a date of the calendar is that date.** -/
theorem ofDays_toDays {d : Date} (h : d.Valid) : ofDays d.toDays = d := by
  obtain ⟨y, n, hn, hleap, rfl⟩ := exists_ofMarch_eq h
  exact ofDays_ofMarch hn hleap

/-! ### One day after another -/

/-- The date of the day after. -/
def next (d : Date) : Date :=
  if d.day < daysInMonth d.year d.month then ⟨d.year, d.month, d.day + 1⟩
  else if d.month < 12 then ⟨d.year, d.month + 1, 1⟩
  else ⟨d.year + 1, 1, 1⟩

variable {d : Date}

theorem valid_next (h : d.Valid) : d.next.Valid := by
  obtain ⟨hlow, hhigh, hday, -⟩ := h
  have hlong : ∀ y m, 1 ≤ daysInMonth y m := fun y m => by
    unfold daysInMonth
    split_ifs <;> decide
  unfold next
  split_ifs with hinside hmonth
  · exact ⟨hlow, hhigh, Nat.le_add_left 1 d.day, hinside⟩
  · exact ⟨Nat.le_add_left 1 d.month, hmonth, Nat.le_refl 1, hlong _ _⟩
  · exact ⟨Nat.le_refl 1, (by decide : 1 ≤ 12), Nat.le_refl 1, hlong _ _⟩

/-- February ends a day later in a leap year. -/
theorem daysInMonth_february (y : Int) :
    daysInMonth y 2 = if y % 4 = 0 ∧ (y % 100 ≠ 0 ∨ y % 400 = 0) then 29 else 28 := by
  simp [daysInMonth, isLeapYear]

/-- The next date lies one day later, whether or not it begins a month or a year. -/
theorem toDays_next (h : d.Valid) : d.next.toDays = d.toDays + 1 := by
  obtain ⟨y, month, day⟩ := d
  obtain ⟨hlow, hhigh, -, hday⟩ := h
  dsimp only at hlow hhigh hday
  unfold next
  dsimp only
  split_ifs with hinside hmonth
  · simp only [toDays]
    omega
  · obtain rfl : day = daysInMonth y month := by omega
    clear hday hinside
    by_cases hfebruary : month = 2
    · -- The year that begins in March is over, so the next era may begin.
      rw [hfebruary, daysInMonth_february]
      simp only [toDays, Nat.reduceAdd, Nat.reduceLeDiff, ↓reduceIte]
      split_ifs <;> omega
    · simp only [toDays, daysInMonth]
      interval_cases month <;> simp at hfebruary ⊢ <;> omega
  · obtain rfl : month = 12 := by omega
    have hlast : daysInMonth y 12 = 31 := rfl
    obtain rfl : day = 31 := by omega
    simp only [toDays, Nat.reduceLeDiff, ↓reduceIte, add_sub_cancel_right]
    omega

/-- **The date of the day after a day is the next.** -/
theorem ofDays_succ (n : Int) : ofDays (n + 1) = (ofDays n).next := by
  rw [← ofDays_toDays (valid_next (valid_ofDays n)), toDays_next (valid_ofDays n), toDays_ofDays]

end Date
end Time
end SoilWatch
