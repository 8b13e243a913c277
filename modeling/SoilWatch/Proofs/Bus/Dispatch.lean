/-
# What a message leaves

A message either does what the service on its topic does or leaves everything as it was.  What
becomes of it is told by its topic, by the record that its payload writes, and by the rows of the
device (`Handled`): there are two ways to be handled well and six to be dropped, and in each of the
six nothing is written, because the payload is read before a service is called and the services
decide before they write.

A record that is written as JSON is read back as it was, so sending it on its topic is the same as
calling the service with it, up to the error being told as one of the topic (`reported`).
-/

import SoilWatch.Bus.Table
import SoilWatch.Proofs.Completion
import SoilWatch.Proofs.Isolation
import SoilWatch.Proofs.Recording
import SoilWatch.Proofs.Wire.Codec

namespace SoilWatch
namespace Bus

open Time (Instant)
open Service (Call Reachable)
open Text.IntegerRange (int64)

variable {setup : Setup} {s : System} {now : Instant}

/-! ### Handlers and services -/

/-- What a service comes to, as it is told on a topic. -/
def reported {α : Type} (topic : String) (r : Except Service.Error α × System) :
    Except Error Unit × System :=
  ((r.1.map fun _ => ()).mapError (.handler topic), r.2)

/-- **A payload that can be read does what the service does.** -/
theorem run_handleJson {α β : Type} {topic : String} {format : Wire.Format α} {payload : Octets}
    {a : α} (h : format.read payload = .ok a) (serve : α → Call β) (s : System) :
    (handleJson topic format serve payload).run s = reported topic ((serve a).run s) := by
  rw [handleJson, h]
  dsimp only
  rw [Flow.run_bind, Flow.run_attempt, reported]
  dsimp only
  cases ((serve a).run s).1 <;> rfl

/-- A payload that cannot be read is dropped. -/
theorem run_handleJson_malformed {α β : Type} {topic : String} {format : Wire.Format α}
    {payload : Octets} {f : Json.Failure} (h : format.read payload = .error f)
    (serve : α → Call β) (s : System) :
    (handleJson topic format serve payload).run s = (.error (.malformed topic f.error), s) := by
  rw [handleJson, h]
  rfl

theorem dispatch_provision (setup : Setup) (now : Instant) (payload : Octets) :
    (serviceTable setup).dispatch now ⟨provisionTopic, payload⟩ =
      handleJson provisionTopic ContractMessage.format
        (fun c => Service.Provisioning.completeDevice c.address c.contract) payload := rfl

theorem dispatch_sample (setup : Setup) (now : Instant) (payload : Octets) :
    (serviceTable setup).dispatch now ⟨sampleTopic, payload⟩ =
      handleJson sampleTopic SampleMessage.format (Service.Telemetry.record setup now) payload := rfl

/-- Topics match exactly. -/
theorem dispatch_unknown (setup : Setup) (now : Instant) {m : Message}
    (h : m.topic ≠ provisionTopic) (h' : m.topic ≠ sampleTopic) :
    (serviceTable setup).dispatch now m = .fail (.unknownTopic m.topic) := by
  have hnone : (serviceTable setup).find? m.topic = none := by
    simp [Table.find?, serviceTable, Ne.symm h, Ne.symm h']
  rw [Table.dispatch, hnone]

/-! ### The ways a message can go -/

/-- **What becomes of a message,** and what it leaves. -/
inductive Handled (now : Instant) (s : System) : Message → Except Error Unit → System → Prop where
  | unknown {m : Message} (h : m.topic ≠ provisionTopic) (h' : m.topic ≠ sampleTopic) :
    Handled now s m (.error (.unknownTopic m.topic)) s
  | announcementMalformed {payload : Octets} {f : Json.Failure}
    (h : ContractMessage.format.read payload = .error f) :
    Handled now s ⟨provisionTopic, payload⟩ (.error (.malformed provisionTopic f.error)) s
  | sampleMalformed {payload : Octets} {f : Json.Failure}
    (h : SampleMessage.format.read payload = .error f) :
    Handled now s ⟨sampleTopic, payload⟩ (.error (.malformed sampleTopic f.error)) s
  | unknownContract {payload : Octets} {c : ContractMessage}
    (h : ContractMessage.format.read payload = .ok c)
    (hunknown : ∀ r ∈ s.store.staging, r.contract ≠ c.contract) :
    Handled now s ⟨provisionTopic, payload⟩
      (.error (.handler provisionTopic (.notFound "provision contract"))) s
  | addressInUse {payload : Octets} {c : ContractMessage} {d other : Device}
    (h : ContractMessage.format.read payload = .ok c) (hstages : s.store.Stages c.contract d)
    (htaken : s.store.TakenBy c.address d other) :
    Handled now s ⟨provisionTopic, payload⟩
      (.error (.handler provisionTopic (.addressInUse c.address other.id))) s
  | completed {payload : Octets} {c : ContractMessage} {d : Device}
    (h : ContractMessage.format.read payload = .ok c) (hstages : s.store.Stages c.contract d)
    (hfree : ∀ other, ¬ s.store.TakenBy c.address d other) :
    Handled now s ⟨provisionTopic, payload⟩ (.ok ())
      { s with store := s.store.consume c.contract c.address d }
  | stray {payload : Octets} {m : SampleMessage} (h : SampleMessage.format.read payload = .ok m)
    (hstray : ∀ d ∈ s.store.devices, d.address ≠ some m.address) :
    Handled now s ⟨sampleTopic, payload⟩ (.error (.handler sampleTopic (.noDevice m.address))) s
  | stored {payload : Octets} {m : SampleMessage} {d : Device}
    (h : SampleMessage.format.read payload = .ok m) (hd : d ∈ s.store.devices)
    (ha : d.address = some m.address) :
    Handled now s ⟨sampleTopic, payload⟩ (.ok ()) { s with
      series := (s.series.write d.id .capacitance m.capacitance now).write d.id .temperature
        m.temperature now }

/-- An announcement that is read is decided by the rows of its contract and its address. -/
theorem handled_announcement (hs : s.store.Sound) (hf : s.store.forbidden = []) {payload : Octets}
    {c : ContractMessage} (h : ContractMessage.format.read payload = .ok c) :
    Handled now s ⟨provisionTopic, payload⟩
      (((serviceTable setup).dispatch now ⟨provisionTopic, payload⟩).run s).1
      (((serviceTable setup).dispatch now ⟨provisionTopic, payload⟩).run s).2 := by
  obtain ⟨out, t, hcompletes⟩ := hs.exists_completes hf c.contract c.address
  have hdecides := hs.decides hcompletes
  rw [dispatch_provision, run_handleJson h,
    Service.run_completion (Store.completeDevice_eq_ok.2 hcompletes), reported]
  cases out with
  | unknownContract =>
    obtain rfl := hdecides.unchanged nofun
    exact .unknownContract h (hdecides.unknown.1 rfl)
  | addressInUse id =>
    obtain rfl := hdecides.unchanged nofun
    obtain ⟨d, other, hstages, htaken, rfl⟩ := (hdecides.inUse id).1 rfl
    exact .addressInUse h hstages htaken
  | completed device =>
    obtain ⟨d, hstages, hfree, rfl⟩ := (hdecides.completed device).1 rfl
    obtain ⟨rfl, -⟩ := hdecides.consumed d hstages rfl
    exact .completed h hstages hfree

/-- A sample that is read is decided by the row of its address. -/
theorem handled_sample (hw : ∀ call, setup.seriesFault call = none) {payload : Octets}
    {m : SampleMessage} (h : SampleMessage.format.read payload = .ok m) :
    Handled now s ⟨sampleTopic, payload⟩
      (((serviceTable setup).dispatch now ⟨sampleTopic, payload⟩).run s).1
      (((serviceTable setup).dispatch now ⟨sampleTopic, payload⟩).run s).2 := by
  rw [dispatch_sample, run_handleJson h]
  cases hfound : s.store.deviceByAddress? m.address with
  | none =>
    rw [Service.run_record_stray hfound]
    exact .stray h fun d hd => by simpa using List.find?_eq_none.1 hfound d hd
  | some d =>
    have ha : d.address = some m.address := by simpa using List.find?_some hfound
    rw [Service.run_record_found hfound, hw, hw]
    exact .stored h (List.mem_of_find?_eq_some hfound) ha

/-- **A message goes one of these ways** where the stores do not fail. -/
theorem handled_dispatch (hw : ∀ call, setup.seriesFault call = none) (hs : s.store.Sound)
    (hf : s.store.forbidden = []) (m : Message) :
    Handled now s m (((serviceTable setup).dispatch now m).run s).1
      (((serviceTable setup).dispatch now m).run s).2 := by
  obtain ⟨topic, payload⟩ := m
  by_cases hprovision : topic = provisionTopic
  · subst hprovision
    cases hread : ContractMessage.format.read payload with
    | error f =>
      rw [dispatch_provision, run_handleJson_malformed hread]
      exact .announcementMalformed hread
    | ok c => exact handled_announcement hs hf hread
  · by_cases hsample : topic = sampleTopic
    · subst hsample
      cases hread : SampleMessage.format.read payload with
      | error f =>
        rw [dispatch_sample, run_handleJson_malformed hread]
        exact .sampleMalformed hread
      | ok m => exact handled_sample hw hread
    · rw [dispatch_unknown setup now hprovision hsample]
      exact .unknown hprovision hsample

/-! ### Frames -/

/-- An error with which a message is dropped. -/
inductive Drops (topic : String) : Error → Prop where
  | unknown : Drops topic (.unknownTopic topic)
  | malformed (error : Json.Error) : Drops topic (.malformed topic error)
  | noDevice (address : String) : Drops topic (.handler topic (.noDevice address))
  | notFound (what : String) : Drops topic (.handler topic (.notFound what))
  | addressInUse (address : String) (id : Int) :
    Drops topic (.handler topic (.addressInUse address id))

/-- The points of a device at most are changed: those of one sample. -/
def Samples (now : Instant) (payload : Octets) (s s' : System) : Prop :=
  s'.series = s.series ∨ ∃ m d, SampleMessage.format.read payload = .ok m ∧ d ∈ s.store.devices ∧
    d.address = some m.address ∧
    s'.series = (s.series.write d.id .capacitance m.capacitance now).write d.id .temperature
      m.temperature now

/-- The address and the contract of one device at most are changed. -/
def Announces (payload : Octets) (s s' : System) : Prop :=
  s'.store = s.store ∨ ∃ c d, ContractMessage.format.read payload = .ok c ∧
    s.store.Stages c.contract d ∧ s'.store = s.store.consume c.contract c.address d

/-- **What a message may change,** by its topic and its outcome. -/
structure Frame (now : Instant) (m : Message) (s : System) (answer : Except Error Unit)
    (s' : System) : Prop where
  outbox : s'.outbox = s.outbox
  sample : m.topic = sampleTopic → s'.store = s.store ∧ Samples now m.payload s s'
  provision : m.topic = provisionTopic → s'.series = s.series ∧ Announces m.payload s s'
  other : m.topic ≠ sampleTopic → m.topic ≠ provisionTopic →
    answer = .error (.unknownTopic m.topic) ∧ s' = s
  dropped : ∀ e, answer = .error e → Drops m.topic e ∧ s' = s

/-- **Each way a message can go keeps to its frame.** -/
theorem Handled.frame {m : Message} {answer : Except Error Unit} {s' : System}
    (h : Handled now s m answer s') : Frame now m s answer s' := by
  have hne : provisionTopic ≠ sampleTopic := by decide
  have hsame : Samples now m.payload s s := .inl rfl
  have hsame' : Announces m.payload s s := .inl rfl
  -- Where nothing is changed, only the error has to be one of those that drop a message.
  have hdropped {e : Error} (hdrops : Drops m.topic e)
      (hother : m.topic ≠ sampleTopic → m.topic ≠ provisionTopic →
        e = .unknownTopic m.topic) : Frame now m s (.error e) s :=
    { outbox := rfl
      sample := fun _ => ⟨rfl, hsame⟩
      provision := fun _ => ⟨rfl, hsame'⟩
      other := fun h h' => ⟨congrArg Except.error (hother h h'), rfl⟩
      dropped := fun e' he => ⟨Except.error.inj he ▸ hdrops, rfl⟩ }
  cases h with
  | unknown => exact hdropped .unknown fun _ _ => rfl
  | announcementMalformed => exact hdropped (.malformed _) fun _ h' => absurd rfl h'
  | sampleMalformed => exact hdropped (.malformed _) fun h' => absurd rfl h'
  | unknownContract => exact hdropped (.notFound _) fun _ h' => absurd rfl h'
  | addressInUse => exact hdropped (.addressInUse _ _) fun _ h' => absurd rfl h'
  | stray => exact hdropped (.noDevice _) fun h' => absurd rfl h'
  | completed h hstages =>
    exact {
      outbox := rfl
      sample := fun htopic => absurd htopic hne
      provision := fun _ => ⟨rfl, .inr ⟨_, _, h, hstages, rfl⟩⟩
      other := fun _ h' => absurd rfl h'
      dropped := nofun }
  | stored h hd ha =>
    exact {
      outbox := rfl
      sample := fun _ => ⟨rfl, .inr ⟨_, _, h, hd, ha, rfl⟩⟩
      provision := fun htopic => absurd htopic hne.symm
      other := fun h' => absurd rfl h'
      dropped := nofun }

/-- **A message that is dropped leaves no trace, and one that is handled does what the service does.**
In every state that can be reached and whose stores do not fail, a message goes one of the eight ways
and changes no more than its topic allows: a sample the points of one device, an announcement the
address and the contract of one device, and any other topic nothing at all.  Whenever it is dropped,
both stores and the mails are as they were.  In any state whatever, a record that is sent as JSON on
its topic comes to what the service comes to that is called with it, and leaves the same state. -/
theorem messages_keep_to_their_topic (setup : Setup) (hw : ∀ call, setup.seriesFault call = none)
    (s : System) (hs : Reachable s) (hf : s.store.forbidden = []) (now : Instant) :
    (∀ m : Message, ∃ answer s',
      ((serviceTable setup).dispatch now m).run s = (answer, s') ∧ Handled now s m answer s' ∧
        Frame now m s answer s') ∧
    (∀ (m : SampleMessage) (t : System), int64.contains m.capacitance →
      int64.contains m.temperature →
      ((serviceTable setup).dispatch now
          ⟨sampleTopic, Text.Utf8.encode m.toJson.compact⟩).run t =
        reported sampleTopic ((Service.Telemetry.record setup now m).run t)) ∧
    ∀ (c : ContractMessage) (t : System),
      ((serviceTable setup).dispatch now
          ⟨provisionTopic, Text.Utf8.encode c.toJson.compact⟩).run t =
        reported provisionTopic
          ((Service.Provisioning.completeDevice c.address c.contract).run t) := by
  refine ⟨fun m => ?_, ?_, ?_⟩
  · have hhandled : Handled now s m _ _ := handled_dispatch hw hs.sound hf m
    exact ⟨_, _, rfl, hhandled, hhandled.frame⟩
  · intro m t hcapacitance htemperature
    rw [dispatch_sample, run_handleJson (m.read_toJson hcapacitance htemperature)]
  · intro c t
    rw [dispatch_provision, run_handleJson c.read_toJson]

/-- A user with a device that is bound to `AA` and one whose contract is out. -/
def fernAndMoss : System :=
  ⟨Store.empty.after Service.oneBound, .empty, []⟩

/-- A topic in other letters is unknown, and a sample of a device is stored. -/
theorem lower_case_dropped_and_sample_stored :
    ((serviceTable .standard).dispatch .epoch ⟨"breadcrumb", []⟩).run fernAndMoss =
      (.error (.unknownTopic "breadcrumb"), fernAndMoss) ∧
    ((serviceTable .standard).dispatch .epoch ⟨sampleTopic, Text.Utf8.encode
        (SampleMessage.toJson ⟨"AA", 7, 8⟩).compact⟩).run fernAndMoss =
      (.ok (), { fernAndMoss with
        series := (Series.empty.write 1 .capacitance 7 .epoch).write 1 .temperature 8 .epoch }) := by
  obtain ⟨hframe, hsample, -⟩ := messages_keep_to_their_topic .standard (fun _ => rfl) fernAndMoss
    ⟨⟨_, rfl⟩, ⟨[], rfl⟩⟩ rfl .epoch
  obtain ⟨answer, s', hrun, -, hkept⟩ := hframe ⟨"breadcrumb", []⟩
  obtain ⟨rfl, rfl⟩ := hkept.other (by decide) (by decide)
  refine ⟨hrun, ?_⟩
  rw [hsample ⟨"AA", 7, 8⟩ fernAndMoss (by decide) (by decide)]
  rfl

end Bus
end SoilWatch
