/-
# The listener and its script

The result of a run and the messages that it routes can be read off the script alone, whatever
becomes of the subscriptions and however the worker runs beside the pump.  Since messages are routed
in the order of their delivery, a sample that is delivered right behind the announcement of its
device finds the device bound to its address (`deviceByAddress?_bindAddress`), and both of its
points are stored.
-/

import SoilWatch.Proofs.Bus.Dispatch
import SoilWatch.Proofs.Bus.Worker

namespace SoilWatch

namespace Bus

open Time (Instant)
open Service (Call)

variable {setup : Setup} {s s' : System}

/-! ### A device and its first sample -/

/-- A completion that succeeds was committed, and changed nothing but the relational store. -/
theorem completes_of_run {address contract : String} {d : Device}
    (h : (Service.Provisioning.completeDevice address contract).run s = (.ok d, s')) :
    s.store.Completes contract address (.completed d) s'.store ∧
      s' = { s with store := s'.store } := by
  rw [Service.Provisioning.completeDevice, Service.onStore, Service.tryStore] at h
  simp only [Flow.run_bind, Flow.run_atomically] at h
  rcases hr : Store.completeDevice contract address s.store with ⟨e | out, t⟩
  · simp [hr] at h
  · rw [hr] at h
    have hcompletes := Store.completeDevice_eq_ok.1 hr
    cases out with
    | unknownContract => cases h
    | addressInUse => cases h
    | completed =>
      cases h
      exact ⟨hcompletes, rfl⟩

/-- A completion that succeeds has bound the device to the address. -/
theorem run_completeDevice_eq_ok {address contract : String} {d : Device}
    (h : (Service.Provisioning.completeDevice address contract).run s = (.ok d, s')) :
    s'.store.deviceByAddress? address = some d := by
  have hcompletes := (completes_of_run h).1
  generalize s'.store = t at hcompletes
  obtain _ | _ | ⟨-, hfree, -, -, hf⟩ := hcompletes
  exact Store.deviceByAddress?_bindAddress hfree hf

/-- A sample of a device that is bound to its address is stored, as two points. -/
theorem run_record (hw : ∀ key, setup.seriesFault (.write key) = none) {m : SampleMessage}
    {d : Device} (hd : s.store.deviceByAddress? m.address = some d) (now : Instant) :
    (Service.Telemetry.record setup now m).run s = (.ok (), { s with
      series := (s.series.write d.id .capacitance m.capacitance now).write d.id .temperature
        m.temperature now }) := by
  rw [Service.run_record_found hd, hw, hw]

/-- **A sample right behind the announcement of its device is stored,** wherever the two stand among
the messages. -/
theorem routed_announcement_sample (hw : ∀ key, setup.seriesFault (.write key) = none)
    {announcement sample : Octets} {c : ContractMessage} {m : SampleMessage}
    (hc : ContractMessage.format.read announcement = .ok c)
    (hm : SampleMessage.format.read sample = .ok m) (haddress : m.address = c.address)
    {clock : Nat → Instant} {before after : List Message} {d : Device}
    (hd : (Service.Provisioning.completeDevice c.address c.contract).run
      ((serviceTable setup).routed clock 0 before s) = (.ok d, s')) :
    (serviceTable setup).routed clock 0
        (before ++ ⟨provisionTopic, announcement⟩ :: ⟨sampleTopic, sample⟩ :: after) s =
      (serviceTable setup).routed clock (before.length + 2) after { s' with
        series := (s'.series.write d.id .capacitance m.capacitance
          (clock (before.length + 1))).write d.id .temperature m.temperature
          (clock (before.length + 1)) } := by
  have hbound := run_completeDevice_eq_ok hd
  rw [← haddress] at hbound
  rw [Table.routed_append, Nat.zero_add, Table.routed_cons, dispatch_provision, run_handleJson hc,
    hd, reported, Table.routed_cons, dispatch_sample, run_handleJson hm, run_record hw hbound,
    reported]

namespace Listener

/-- **The listener agrees with its script.**  A run follows the events up to the first that stops it
and ends with the result that this event gives it, or follows them all and is cancelled.  It routes
the messages among the events that it has followed, each once and in order, and every schedule of
the pump and the worker leads to the same report and state and can be completed.  A sample right
behind the announcement of its device is stored. -/
theorem listener_agrees_with_script :
    (∀ (σ : Type) (table : Table σ) (maxAttempts : Nat) (subscribe : Subscriptions)
        (clock : Nat → Instant) (events : List Event) (s : σ),
      (∃ consumed,
        Ends table.topics maxAttempts subscribe events consumed
          (run table maxAttempts subscribe clock events s).1.result ∧
        (run table maxAttempts subscribe clock events s).1.delivered = messages consumed ∧
        (run table maxAttempts subscribe clock events s).2 =
          table.routed clock 0 (messages consumed) s) ∧
      (∀ (schedule : List Turn) (m : Machine σ),
        m = (Machine.start events s).runAll table maxAttempts subscribe clock schedule →
        m.Finished →
          m.result.map m.progress.report =
            some (run table maxAttempts subscribe clock events s).1 ∧
          m.system = (run table maxAttempts subscribe clock events s).2) ∧
      ∀ schedule : List Turn, ∃ more, ((Machine.start events s).runAll table maxAttempts subscribe
        clock (schedule ++ more)).Finished) ∧
    ∀ setup : Setup, (∀ key, setup.seriesFault (.write key) = none) →
      ∀ (announcement sample : Octets) (c : ContractMessage) (m : SampleMessage),
        ContractMessage.format.read announcement = .ok c →
        SampleMessage.format.read sample = .ok m → m.address = c.address →
      ∀ (clock : Nat → Instant) (before after : List Message) (s s' : System) (d : Device),
        (Service.Provisioning.completeDevice c.address c.contract).run
          ((serviceTable setup).routed clock 0 before s) = (.ok d, s') →
        (serviceTable setup).routed clock 0
            (before ++ ⟨provisionTopic, announcement⟩ :: ⟨sampleTopic, sample⟩ :: after) s =
          (serviceTable setup).routed clock (before.length + 2) after { s' with
            series := (s'.series.write d.id .capacitance m.capacitance
              (clock (before.length + 1))).write d.id .temperature m.temperature
              (clock (before.length + 1)) } := by
  refine ⟨fun σ table maxAttempts subscribe clock events s => ⟨?_, ?_, fun schedule => ?_⟩,
    fun setup hw announcement sample c m hc hm haddress clock before after s s' d hd =>
      routed_announcement_sample hw hc hm haddress hd⟩
  · have hquiet : Quiet table.topics maxAttempts subscribe [] := quiet_nil
    obtain ⟨consumed, hends, hdelivered⟩ := pump_ends tracks_start hquiet events
    refine ⟨consumed, hends, hdelivered, ?_⟩
    rw [← hdelivered, run, Table.run_routeAll]
  · rintro schedule m rfl hf
    exact ((agrees_start events s).runAll schedule).finished hf
  · obtain ⟨more, hmore⟩ := exists_finished table maxAttempts subscribe clock
      ((Machine.start events s).runAll table maxAttempts subscribe clock schedule)
    exact ⟨more, by rwa [runAll_append]⟩

/-- A store with a device that is still to announce itself. -/
def stagedStore : Store :=
  (Store.createDevice 1 "Fern" "c"
    (Store.createUser "ann@example.com" "hash" "Ann" .epoch .empty).2).2

/-- What the device announces. -/
def fernAnnouncement : Octets :=
  Text.Utf8.encode "[\"AA\",\"c\"]"

/-- What the device measures. -/
def fernSample : Octets :=
  Text.Utf8.encode "[\"AA\",12,7]"

theorem read_fernAnnouncement :
    ContractMessage.format.read fernAnnouncement = .ok ⟨"AA", "c"⟩ := by
  decide +kernel

theorem read_fernSample : SampleMessage.format.read fernSample = .ok ⟨"AA", 12, 7⟩ := by
  decide +kernel

/-- A listener that may not try again. -/
def brokenOff : Machine Unit :=
  (Machine.start [.lost "gone"] ()).runAll ⟨[]⟩ 0 (fun _ _ => none) (fun _ => .epoch) [.listen]

/-- A listener that may not try again ends with the first loss, and the first sample of a device is
stored right behind its announcement. -/
theorem fern_announces_and_measures :
    (brokenOff.Finished ∧ brokenOff.result.map brokenOff.progress.report =
      some (run ⟨[]⟩ 0 (fun _ _ => none) (fun _ => .epoch) [.lost "gone"] ()).1) ∧
    (serviceTable .standard).routed (fun _ => .epoch) 0
        [⟨provisionTopic, fernAnnouncement⟩, ⟨sampleTopic, fernSample⟩] ⟨stagedStore, .empty, []⟩ =
      ⟨stagedStore.bindAddress 1 "AA",
        (Series.empty.write 1 .capacitance 12 .epoch).write 1 .temperature 7 .epoch, []⟩ := by
  have hfinished : brokenOff.Finished := ⟨rfl, rfl, .ok (), rfl⟩
  refine ⟨⟨hfinished, ?_⟩, ?_⟩
  · exact ((listener_agrees_with_script.1 Unit ⟨[]⟩ 0 (fun _ _ => none) (fun _ => .epoch)
      [.lost "gone"] ()).2.1 [.listen] _ rfl hfinished).1
  · exact listener_agrees_with_script.2 .standard (fun _ => rfl) fernAnnouncement fernSample _ _
      read_fernAnnouncement read_fernSample rfl (fun _ => .epoch) [] [] ⟨stagedStore, .empty, []⟩
      ⟨stagedStore.bindAddress 1 "AA", .empty, []⟩ ⟨1, 1, some "AA", "Fern"⟩ rfl

end Listener
end Bus
end SoilWatch
