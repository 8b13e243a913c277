/-
# What remains of a sample that fails

A sample is two values, and they are written one after the other, behind a look at the device that
has the address.  Each write can be refused for itself (`Setup.seriesFault`), so a sample can end at
three places.  What the series then holds is known in every case: a value of the sample stands in it
if and only if the device was found and neither its own write nor one before it was refused
(`Stores`), everything else stands as before, and the sample succeeds if both values do.

So a sample is stored as a whole or not at all as long as the second write is not refused alone.  If
it is, the sample fails with the first of its two values stored (`capacitance_without_temperature`).
-/

import SoilWatch.Proofs.Series
import SoilWatch.Proofs.Store.History

namespace SoilWatch
namespace Service

open Time (Instant)

variable {setup : Setup} {s : System} {m : SampleMessage} {now : Instant} {d : Device}

/-- The value of a quantity in a device's sample. -/
def valueOf (m : SampleMessage) : Measurement → Int
  | .capacitance => m.capacitance
  | .temperature => m.temperature

/-- Why the write of a quantity does not happen: it is refused, or one before it is. -/
def refusal? (setup : Setup) : Measurement → Option String
  | .capacitance => setup.seriesFault (.write .capacitance)
  | .temperature =>
    (setup.seriesFault (.write .capacitance)).or (setup.seriesFault (.write .temperature))

/-- A series that differs from another in the values of a sample whose writes are not refused, at one
millisecond of one device. -/
def Stores (setup : Setup) (m : SampleMessage) (deviceId ms : Int) (old new : Series) : Prop :=
  ∀ id key ms', new.value? id key ms' =
    if id = deviceId ∧ ms' = ms ∧ refusal? setup key = none then some (valueOf m key)
    else old.value? id key ms'

/-- A sample for an address that no device has is turned down. -/
theorem run_record_stray (h : s.store.deviceByAddress? m.address = none) (now : Instant) :
    (Telemetry.record setup now m).run s = (.error (.noDevice m.address), s) := by
  simp [Telemetry.record, Provisioning.lookupAddress, lookStore, Flow.run_bind, h]

/-- How the two writes of a sample go. -/
theorem run_record_found (h : s.store.deviceByAddress? m.address = some d) :
    (Telemetry.record setup now m).run s =
      match setup.seriesFault (.write .capacitance), setup.seriesFault (.write .temperature) with
      | some reason, _ => (.error (.persistence "record_breadcrumb" reason), s)
      | none, some reason => (.error (.persistence "record_breadcrumb" reason),
          { s with series := s.series.write d.id .capacitance m.capacitance now })
      | none, none => (.ok (), { s with
          series := (s.series.write d.id .capacitance m.capacitance now).write d.id .temperature
            m.temperature now }) := by
  cases hc : setup.seriesFault (.write .capacitance) <;>
    cases ht : setup.seriesFault (.write .temperature) <;>
      simp [Telemetry.record, Telemetry.write, Provisioning.lookupAddress, lookStore, guardSeries,
        Flow.run_bind, h, hc, ht]

/-- A sample of a device stores what is not refused, and answers with the first refusal. -/
theorem stores_of_found (setup : Setup) (now : Instant)
    (h : s.store.deviceByAddress? m.address = some d) :
    ∃ series, (Telemetry.record setup now m).run s =
        ((refusal? setup .temperature).elim (.ok ())
          fun reason => .error (.persistence "record_breadcrumb" reason), { s with series }) ∧
      Stores setup m d.id now.millis s.series series := by
  rw [run_record_found h]
  cases hc : setup.seriesFault (.write .capacitance) with
  | some reason =>
    refine ⟨s.series, by simp [refusal?, hc], fun id key ms => ?_⟩
    have hrefused : refusal? setup key ≠ none := by cases key <;> simp [refusal?, hc]
    rw [if_neg fun hstored => hrefused hstored.2.2]
  | none =>
    cases ht : setup.seriesFault (.write .temperature) with
    | some reason =>
      refine ⟨s.series.write d.id .capacitance m.capacitance now, by simp [refusal?, hc, ht],
        fun id key ms => ?_⟩
      rw [Series.value?_write]
      cases key <;> simp [refusal?, hc, ht, valueOf, eq_comm]
    | none =>
      refine ⟨(s.series.write d.id .capacitance m.capacitance now).write d.id .temperature
        m.temperature now, by simp [refusal?, hc, ht], fun id key ms => ?_⟩
      rw [Series.value?_write, Series.value?_write]
      cases key <;> simp [refusal?, hc, ht, valueOf, eq_comm]

/-- **What remains of a sample.**  Whatever the two stores hold and whichever writes are refused, a
sample changes the series alone.  It is turned down for want of a device if and only if no device has
its address.  Otherwise the values whose writes are not refused stand at the millisecond for the
device that has the address, and all else is as before; the sample succeeds if that is both values,
and fails with the reason of the first refusal if it is not.  So the series is as it was behind every
failure but one: where the capacitance is taken and the temperature is refused, the capacitance
remains. -/
theorem sample_stored_as_far_as_taken (setup : Setup) (now : Instant) (m : SampleMessage)
    (s : System) :
    ∃ answer series, (Telemetry.record setup now m).run s = (answer, { s with series }) ∧
      (answer = .error (.noDevice m.address) ↔ s.store.deviceByAddress? m.address = none) ∧
      (∀ d, s.store.deviceByAddress? m.address = some d →
        Stores setup m d.id now.millis s.series series ∧
        (answer = .ok () ↔ ∀ key, refusal? setup key = none) ∧
        ∀ reason, answer = .error (.persistence "record_breadcrumb" reason) ↔
          refusal? setup .temperature = some reason) ∧
      ∀ e, answer = .error e → series = s.series ∨
        ∃ d reason, s.store.deviceByAddress? m.address = some d ∧
          setup.seriesFault (.write .capacitance) = none ∧
          setup.seriesFault (.write .temperature) = some reason ∧
          series = s.series.write d.id .capacitance m.capacitance now := by
  cases hfound : s.store.deviceByAddress? m.address with
  | none => exact ⟨_, s.series, run_record_stray hfound now, by simp, nofun, fun _ _ => .inl rfl⟩
  | some d =>
    obtain ⟨series, hrun, hstores⟩ := stores_of_found setup now hfound
    refine ⟨_, series, hrun, ?_, ?_, fun e he => ?_⟩
    · cases refusal? setup .temperature <;> simp
    · rintro _ ⟨⟩
      refine ⟨hstores, ?_, fun reason => ?_⟩
      · have hall : (∀ key, refusal? setup key = none) ↔ refusal? setup .temperature = none := by
          refine ⟨fun h => h _, fun h key => ?_⟩
          cases key with
          | capacitance => exact (Option.or_eq_none_iff.1 h).1
          | temperature => exact h
        rw [hall]
        cases refusal? setup .temperature <;> simp
      · cases refusal? setup .temperature <;> simp
    · have hseries := congrArg (fun r => r.2.series) ((run_record_found hfound).symm.trans hrun)
      cases hc : setup.seriesFault (.write .capacitance) with
      | some reason =>
        rw [hc] at hseries
        exact .inl hseries.symm
      | none =>
        cases ht : setup.seriesFault (.write .temperature) with
        | some reason =>
          rw [hc, ht] at hseries
          exact .inr ⟨d, reason, rfl, rfl, rfl, hseries.symm⟩
        | none => simp [refusal?, hc, ht] at he

/-- Surroundings in which no temperature can be written. -/
def withoutTemperatures : Setup :=
  { Setup.standard with
    seriesFault := fun call => if call = .write .temperature then some "no space" else none }

/-- The store behind a run in which Ann's device was completed with the address `AA`. -/
def fernAtAA : Store :=
  Store.empty.after [.call (.createUser "ann@example.com" "hash" "Ann" .epoch),
    .call (.createDevice 1 "Fern" "c1"), .call (.completeDevice "c1" "AA")]

/-- A sample of a device is stored as a whole where nothing is refused, and no part of a sample from
elsewhere is. -/
theorem fern_stored_whole :
    (∃ series, (Telemetry.record .standard .epoch ⟨"AA", 7, 8⟩).run ⟨fernAtAA, .empty, []⟩ =
        (.ok (), ⟨fernAtAA, series, []⟩) ∧
      series.value? 1 .capacitance 0 = some 7 ∧ series.value? 1 .temperature 0 = some 8 ∧
      series.value? 2 .temperature 0 = none) ∧
    (Telemetry.record withoutTemperatures .epoch ⟨"BB", 7, 8⟩).run ⟨fernAtAA, .empty, []⟩ =
      (.error (.noDevice "BB"), ⟨fernAtAA, .empty, []⟩) := by
  constructor
  · obtain ⟨answer, series, hrun, -, hfern, -⟩ :=
      sample_stored_as_far_as_taken .standard .epoch ⟨"AA", 7, 8⟩ ⟨fernAtAA, .empty, []⟩
    obtain ⟨hstores, hok, -⟩ := hfern ⟨1, 1, some "AA", "Fern"⟩ (by decide)
    obtain rfl := hok.2 fun key => by cases key <;> rfl
    exact ⟨series, hrun, hstores .., hstores .., hstores ..⟩
  · obtain ⟨answer, series, hrun, hnone, -, hkept⟩ :=
      sample_stored_as_far_as_taken withoutTemperatures .epoch ⟨"BB", 7, 8⟩ ⟨fernAtAA, .empty, []⟩
    have hdevice : fernAtAA.deviceByAddress? "BB" = none := by decide
    obtain rfl := hnone.2 hdevice
    rcases hkept _ rfl with rfl | ⟨d, _, hd, -⟩
    · exact hrun
    · exact absurd (hdevice.symm.trans hd) nofun

/-- **Half a sample is stored:** where the temperature is refused, the sample fails and its
capacitance stands in the series. -/
theorem capacitance_without_temperature :
    (Telemetry.record withoutTemperatures .epoch ⟨"AA", 7, 8⟩).run ⟨fernAtAA, .empty, []⟩ =
        (.error (.persistence "record_breadcrumb" "no space"),
          ⟨fernAtAA, Series.empty.write 1 .capacitance 7 .epoch, []⟩) ∧
      Series.empty.write 1 .capacitance 7 .epoch ≠ Series.empty := by
  exact ⟨by rfl, by decide⟩

end Service
end SoilWatch
