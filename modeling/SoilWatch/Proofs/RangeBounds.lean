/-
# The bounds of a range

A range of a series is asked for between two instants, and every point that it lists stands at an
instant of its own, the start of its millisecond.  One would read the bounds as instants: every
stored point from the start on and up to the end is listed, and no other.

They are compared by milliseconds, counted from the nanoseconds of Unix time (`nanos`), and this is
not the same in two places.  Inside a millisecond the start is moved to the front, so that a range
can list one point that lies before it (`point_before_start`).  And a leap second is counted on into
the second behind it, so that a range which starts in one can leave out what follows.  The end is
rounded the same way, but there a point cannot lie between the two.

For bounds outside of leap seconds a range lists the stored points up to the end that are not before
the start or share its millisecond (`range_bounds_by_millisecond`); the bounds hold as instants if
the start is the start of its millisecond.
-/

import SoilWatch.Proofs.Series

namespace SoilWatch

namespace Time
namespace Instant

variable {t start stop : Instant} {ms : Int}

/-- The nanoseconds from the start of Unix time, a leap second counted on plainly. -/
def nanos (t : Instant) : Int :=
  t.second * 1000000000 + t.nano

/-- Inside a leap second. -/
def IsLeap (t : Instant) : Prop :=
  1000000000 ≤ t.nano

/-- At the start of a millisecond. -/
def IsWhole (t : Instant) : Prop :=
  t.nano % 1000000 = 0

instance : Decidable t.IsLeap := inferInstanceAs (Decidable (_ ≤ _))
instance : Decidable t.IsWhole := inferInstanceAs (Decidable (_ = _))

/-- Milliseconds are nanoseconds rounded down. -/
theorem millis_eq (t : Instant) : t.millis = t.nanos / 1000000 := by
  simp only [millis, nanos]
  omega

/-- Outside of leap seconds instants are ordered like their nanoseconds. -/
theorem le_iff_nanos_le {a b : Instant} (ha : ¬ a.IsLeap) (hb : ¬ b.IsLeap) :
    a ≤ b ↔ a.nanos ≤ b.nanos := by
  simp only [IsLeap, Nat.not_le] at ha hb
  show _ ∨ _ ↔ _
  simp only [nanos]
  omega

/-- The instant of a millisecond is its start, and no leap second. -/
theorem nanos_of_ofMillis? (h : ofMillis? ms = some t) : t.nanos = ms * 1000000 ∧ ¬ t.IsLeap := by
  unfold ofMillis? ofUnix? at h
  split at h
  · obtain rfl := Option.some.inj h
    simp only [nanos, IsLeap]
    omega
  · cases h

/-- A millisecond that is not behind the end of a range is an instant, unless the end lies in a leap
second. -/
theorem isSome_ofMillis?_of_le (hstop : ¬ stop.IsLeap) (hlow : start.millis ≤ ms)
    (hhigh : ms ≤ stop.millis) : (ofMillis? ms).isSome := by
  have hfirst := start.first_le
  have hlast := stop.le_last
  simp only [IsLeap, Nat.not_le] at hstop
  simp only [millis] at hlow hhigh
  rw [ofMillis?, ofUnix?, dif_pos]
  · rfl
  · omega

/-- Where a point lies against the start of a range. -/
theorem millis_le_iff (h : ofMillis? ms = some t) (start : Instant) :
    start.millis ≤ ms ↔ start.nanos ≤ t.nanos ∨ t.millis = start.millis := by
  have ht := (nanos_of_ofMillis? h).1
  rw [millis_eq t, millis_eq start]
  omega

/-- Where a point lies against the end of a range. -/
theorem le_millis_iff (h : ofMillis? ms = some t) (stop : Instant) :
    ms ≤ stop.millis ↔ t.nanos ≤ stop.nanos := by
  have ht := (nanos_of_ofMillis? h).1
  rw [millis_eq stop]
  omega

/-- At the start of its millisecond, a bound is not before a point of that millisecond. -/
theorem nanos_le_of_millis_eq (h : ofMillis? ms = some t) (hstart : start.IsWhole)
    (heq : t.millis = start.millis) : start.nanos ≤ t.nanos := by
  have ht := (nanos_of_ofMillis? h).1
  rw [millis_eq t, millis_eq start] at heq
  simp only [IsWhole] at hstart
  simp only [nanos] at heq ht ⊢
  omega

end Instant
end Time

open Time (Instant)

namespace Series

variable {ws : List Write} {d : Int} {k : Measurement} {start stop : Instant} {p : Point}
  {ps : List Point}

/-- A point that stands in the series of a device and a quantity. -/
def Stands (ws : List Write) (d : Int) (k : Measurement) (p : Point) : Prop :=
  p.key = k ∧ ∃ ms, Instant.ofMillis? ms = some p.time ∧ lastValue? ws d k ms = some p.value

theorem Stands.not_leap (h : Stands ws d k p) : ¬ p.time.IsLeap := by
  obtain ⟨-, ms, hms, -⟩ := h
  exact (Instant.nanos_of_ofMillis? hms).2

/-- A range that is read lists the points that stand within its milliseconds. -/
theorem mem_of_range_eq_ok (h : (ofWrites ws).range d k start stop = .ok ps) (p : Point) :
    p ∈ ps ↔ Stands ws d k p ∧ start ≤ stop ∧ p.time.nanos ≤ stop.nanos ∧
      (start.nanos ≤ p.time.nanos ∨ p.time.millis = start.millis) := by
  rw [range] at h
  split_ifs at h with hlt
  · obtain rfl := Except.ok.inj h
    simp [← Instant.not_lt, hlt]
  · have hread := isSome_of_mapM_point h
    have hlists := lists_within d k (fun ms => start.millis ≤ ms && ms ≤ stop.millis) hread
    obtain rfl : _ = ps := Except.ok.inj ((mapM_point hread).symm.trans h)
    rw [hlists.mem p, Stands]
    constructor
    · rintro ⟨hkey, ms, hin, hms, hv⟩
      obtain ⟨hlow, hhigh⟩ : start.millis ≤ ms ∧ ms ≤ stop.millis := by simpa using hin
      exact ⟨⟨hkey, ms, hms, hv⟩, Instant.not_lt.1 hlt, (Instant.le_millis_iff hms stop).1 hhigh,
        (Instant.millis_le_iff hms start).1 hlow⟩
    · rintro ⟨⟨hkey, ms, hms, hv⟩, -, hhigh, hlow⟩
      have hlow := (Instant.millis_le_iff hms start).2 hlow
      have hhigh := (Instant.le_millis_iff hms stop).2 hhigh
      exact ⟨hkey, ms, by simp [hlow, hhigh], hms, hv⟩

/-- A range can be read if its end lies in no leap second. -/
theorem exists_range_eq_ok (ws : List Write) (d : Int) (k : Measurement) (start : Instant)
    (hstop : ¬ stop.IsLeap) : ∃ ps, (ofWrites ws).range d k start stop = .ok ps := by
  rw [range]
  split_ifs
  · exact ⟨_, rfl⟩
  · refine ⟨_, mapM_point fun e he => ?_⟩
    obtain ⟨hlow, hhigh⟩ : start.millis ≤ e.millis ∧ e.millis ≤ stop.millis := by
      simpa using (List.mem_filter.1 he).2
    exact Instant.isSome_ofMillis?_of_le hstop hlow hhigh

/-- **The bounds of a range hold by the millisecond.**  Whatever was written, and for all bounds, a
range that is read lists the stored points whose nanoseconds are not behind those of the end, and
not before those of the start or in its very millisecond; one whose end lies in no leap second can
always be read, and the service answers with it.  If neither bound lies in a leap second, the end
holds as an instant and no stored point between the two is left out; if the start is the start of
its millisecond, too, then exactly the stored points between the two are listed. -/
theorem range_bounds_by_millisecond (ws : List Write) (d : Int) (k : Measurement)
    (start stop : Instant) :
    (∀ ps, (ofWrites ws).range d k start stop = .ok ps → ∀ p, p ∈ ps ↔
      Stands ws d k p ∧ start ≤ stop ∧ p.time.nanos ≤ stop.nanos ∧
        (start.nanos ≤ p.time.nanos ∨ p.time.millis = start.millis)) ∧
    (¬ stop.IsLeap → ∃ ps, (ofWrites ws).range d k start stop = .ok ps ∧
      (∀ setup store outbox, setup.seriesFault (.range k) = none →
        (Service.Telemetry.between setup d k start stop).run ⟨store, ofWrites ws, outbox⟩ =
          (.ok ps, ⟨store, ofWrites ws, outbox⟩)) ∧
      (¬ start.IsLeap →
        (∀ p ∈ ps, Stands ws d k p ∧ p.time ≤ stop ∧
          (start ≤ p.time ∨ p.time.millis = start.millis)) ∧
        (∀ p, Stands ws d k p → start ≤ p.time → p.time ≤ stop → p ∈ ps) ∧
        (start.IsWhole → ∀ p, p ∈ ps ↔ Stands ws d k p ∧ start ≤ p.time ∧ p.time ≤ stop))) := by
  refine ⟨fun ps => mem_of_range_eq_ok, fun hstop => ?_⟩
  obtain ⟨ps, hps⟩ := exists_range_eq_ok ws d k start hstop
  have hmem := mem_of_range_eq_ok hps
  refine ⟨ps, hps, fun setup store outbox hf => ?_, fun hstart => ?_⟩
  · simp [Service.Telemetry.between, Service.guardSeries, hf, hps, Except.mapError]
  have hlisted : ∀ p ∈ ps, Stands ws d k p ∧ p.time ≤ stop ∧
      (start ≤ p.time ∨ p.time.millis = start.millis) := by
    intro p hp
    obtain ⟨hstands, -, hhigh, hlow⟩ := (hmem p).1 hp
    rw [Instant.le_iff_nanos_le hstands.not_leap hstop,
      Instant.le_iff_nanos_le hstart hstands.not_leap]
    exact ⟨hstands, hhigh, hlow⟩
  have hkept : ∀ p, Stands ws d k p → start ≤ p.time → p.time ≤ stop → p ∈ ps := by
    intro p hstands hlow hhigh
    refine (hmem p).2 ⟨hstands, Instant.le_trans hlow hhigh,
      (Instant.le_iff_nanos_le hstands.not_leap hstop).1 hhigh,
      .inl ((Instant.le_iff_nanos_le hstart hstands.not_leap).1 hlow)⟩
  refine ⟨hlisted, hkept, fun hwhole p => ⟨fun hp => ?_, fun h => hkept p h.1 h.2.1 h.2.2⟩⟩
  obtain ⟨hstands, hhigh, hlow⟩ := hlisted p hp
  refine ⟨hstands, hlow.elim id fun heq => ?_, hhigh⟩
  obtain ⟨-, ms, hms, -⟩ := id hstands
  exact (Instant.le_iff_nanos_le hstart hstands.not_leap).2
    (Instant.nanos_le_of_millis_eq hms hwhole heq)

/-- A nanosecond after the start of Unix time. -/
def nextNano : Instant :=
  { Instant.epoch with nano := 1, nano_lt := by decide }

/-- A second after the start of Unix time. -/
def nextSecond : Instant :=
  { Instant.epoch with second := 1, first_le := by decide, le_last := by decide }

/-- One value at the start of Unix time. -/
def atEpoch : List Write := [⟨1, .capacitance, 7, .epoch⟩]

/-- From the start of Unix time on, the point is listed as one that lies between the bounds. -/
theorem point_between_bounds :
    ¬ nextSecond.IsLeap ∧ ¬ Instant.epoch.IsLeap ∧ Instant.epoch.IsWhole ∧
    ∃ ps, (ofWrites atEpoch).range 1 .capacitance .epoch nextSecond = .ok ps ∧
      ⟨7, .epoch, .capacitance⟩ ∈ ps := by
  have hstop : ¬ nextSecond.IsLeap := by decide
  have hstart : ¬ Instant.epoch.IsLeap := by decide
  have hwhole : Instant.epoch.IsWhole := by decide
  obtain ⟨ps, hps, -, hexact⟩ :=
    (range_bounds_by_millisecond atEpoch 1 .capacitance .epoch nextSecond).2 hstop
  exact ⟨hstop, hstart, hwhole, ps, hps,
    ((hexact hstart).2.2 hwhole _).2 ⟨⟨rfl, 0, by decide, by decide⟩, by decide, by decide⟩⟩

/-- **A point before the start is listed:** the range begins a nanosecond after the point. -/
theorem point_before_start :
    (ofWrites atEpoch).range 1 .capacitance nextNano nextSecond =
        .ok [⟨7, .epoch, .capacitance⟩] ∧ ¬ nextNano ≤ Instant.epoch := by
  refine ⟨?_, by decide⟩
  have hchannel : (ofWrites atEpoch).channel 1 .capacitance = [⟨1, .capacitance, 0, 7⟩] :=
    List.mergeSort_of_pairwise (by decide)
  rw [range, hchannel]
  decide

/-- Half a second into the leap second at the end of the first minute. -/
def inLeapSecond : Instant := ⟨59, 1500000000, by decide, by decide, by decide⟩

/-- A fifth of a second into the second minute. -/
def nextMinute : Instant := ⟨60, 200000000, by decide, by decide, by decide⟩

/-- A range that starts in a leap second leaves out a point of the second behind it. -/
example : (ofWrites [⟨1, .capacitance, 7, nextMinute⟩]).range 1 .capacitance inLeapSecond
    nextMinute = .ok [] ∧ inLeapSecond ≤ nextMinute := by
  refine ⟨?_, by decide⟩
  have hchannel : (ofWrites [⟨1, .capacitance, 7, nextMinute⟩]).channel 1 .capacitance =
      [⟨1, .capacitance, 60200, 7⟩] := List.mergeSort_of_pairwise (by decide)
  rw [range, hchannel]
  decide

end Series
end SoilWatch
