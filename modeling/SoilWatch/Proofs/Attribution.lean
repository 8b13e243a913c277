/-
# Which device a sample belongs to

A sample names a hardware address, and its values are kept for the device that has the address when
the sample is served.  What the history says of an address is enough to tell the points of a device
in two stores at once: before the completion that gives an address to a device, every sample for the
address is turned down, and from then on every sample for it is accepted and becomes the two points
of the device at its millisecond (`Attributed`).

A reply does one of four things to addresses and points (`Impact`): it turns a sample down, stores
one, gives a free address to a device that had none, or leaves both alone.

The clock matters to the latest values only.  It does not go back and shows no leap second, so the
sample that was accepted last has the latest millisecond, too (`Clocked`).
-/

import SoilWatch.Proofs.Atomicity
import SoilWatch.Proofs.Bus.Agreement
import SoilWatch.Proofs.Recording
import SoilWatch.Proofs.Service.Turns
import SoilWatch.Proofs.Store.Addresses

namespace SoilWatch
namespace Service

open Time (Instant)
open SoilWatch.Flow

/-! ### Samples in a history -/

/-- A sample that was served: when, and how it was answered. -/
structure Delivery where
  time : Instant
  message : SampleMessage
  answer : Except Error Unit

/-- The value of a quantity in a sample. -/
def Delivery.value (x : Delivery) : Measurement → Int
  | .capacitance => x.message.capacitance
  | .temperature => x.message.temperature

/-- The sample of a reply, if it is the reply to one. -/
def Reply.delivery? : Reply → Option Delivery
  | ⟨_, .record now m, answer⟩ => some ⟨now, m, answer⟩
  | _ => none

/-- The samples of a history, in order. -/
def deliveries (h : List Reply) : List Delivery :=
  h.filterMap Reply.delivery?

/-- The samples for an address. -/
def sent (h : List Reply) (address : String) : List Delivery :=
  (deliveries h).filter (·.message.address = address)

/-- The samples for an address that were accepted. -/
def accepted (h : List Reply) (address : String) : List Delivery :=
  (sent h address).filter (·.answer.isOk)

/-- The last sample within a millisecond. -/
def lastAt? (xs : List Delivery) (ms : Int) : Option Delivery :=
  (xs.filter (·.time.millis = ms)).getLast?

/-- Whether a reply is the completion of a device with an address. -/
def Reply.Completes (address : String) (id : Int) (r : Reply) : Prop :=
  ∃ setup contract d, d.id = id ∧ r = ⟨setup, .completeDevice address contract, .ok d⟩

/-- **A device has an address since its completion:** all samples for the address before it were
turned down, all samples after it were accepted. -/
def BoundSince (h : List Reply) (address : String) (id : Int) : Prop :=
  ∃ before r after, h = before ++ r :: after ∧ r.Completes address id ∧
    (∀ x ∈ sent before address, x.answer = .error (.noDevice address)) ∧
    accepted h address = sent after address

section History

variable {h h' : List Reply} {r : Reply} {address : String} {x : Delivery}

theorem sent_append : sent (h ++ h') address = sent h address ++ sent h' address := by
  simp only [sent, deliveries, List.filterMap_append, List.filter_append]

theorem accepted_append :
    accepted (h ++ h') address = accepted h address ++ accepted h' address := by
  simp only [accepted, sent_append, List.filter_append]

/-- A reply to something else adds no sample. -/
theorem sent_of_none (hr : r.delivery? = none) : sent [r] address = [] := by
  simp [sent, deliveries, hr]

theorem sent_append_of_none (hr : r.delivery? = none) :
    sent (h ++ [r]) address = sent h address := by
  rw [sent_append, sent_of_none hr, List.append_nil]

theorem accepted_append_of_none (hr : r.delivery? = none) :
    accepted (h ++ [r]) address = accepted h address := by
  rw [accepted, sent_append_of_none hr, accepted]

theorem sent_of_some (hr : r.delivery? = some x) :
    sent [r] address = if x.message.address = address then [x] else [] := by
  simp [sent, deliveries, hr, List.filter_singleton]

theorem lastAt?_append_singleton (xs : List Delivery) (x : Delivery) (ms : Int) :
    lastAt? (xs ++ [x]) ms = if x.time.millis = ms then some x else lastAt? xs ms := by
  rw [lastAt?, List.filter_append]
  split_ifs with hms
  · simp [hms]
  · simp [hms, lastAt?]

/-- Where all samples for an address were turned down, none was accepted. -/
theorem accepted_eq_nil (hdown : ∀ x ∈ sent h address, x.answer = .error (.noDevice address)) :
    accepted h address = [] := by
  refine List.filter_eq_nil_iff.2 fun x hx => ?_
  rw [hdown x hx]
  exact Bool.false_ne_true

/-- A device keeps its address while all samples for it are accepted. -/
theorem BoundSince.append {id : Int} (hb : BoundSince h address id)
    (hr : ∀ x ∈ sent [r] address, x.answer.isOk) : BoundSince (h ++ [r]) address id := by
  obtain ⟨before, c, after, rfl, hc, hbefore, hafter⟩ := hb
  refine ⟨before, c, after ++ [r], by simp, hc, hbefore, ?_⟩
  rw [accepted_append, hafter, sent_append]
  congr 1
  exact List.filter_eq_self.2 hr

end History

/-! ### What a request does to addresses and points -/

/-- What a reply does to addresses and points. -/
inductive Impact (s s' : System) : Reply → Prop where
  | stray {setup : Setup} {now : Instant} {m : SampleMessage} (hfree : s.store.Free m.address)
      (h : s' = s) : Impact s s' ⟨setup, .record now m, .error (.noDevice m.address)⟩
  | stored {setup : Setup} {now : Instant} {m : SampleMessage} {id : Int}
      (haddress : s.store.addressOf id = some m.address) (hstore : s'.store = s.store)
      (hseries : s'.series = (s.series.write id .capacitance m.capacitance now).write id
        .temperature m.temperature now) : Impact s s' ⟨setup, .record now m, .ok ()⟩
  | bound {setup : Setup} {address contract : String} {d : Device}
      (hnone : s.store.addressOf d.id = none) (hfree : s.store.Free address)
      (haddress : ∀ id, s'.store.addressOf id =
        if id = d.id then some address else s.store.addressOf id)
      (hseries : s'.series = s.series) :
      Impact s s' ⟨setup, .completeDevice address contract, .ok d⟩
  | elsewhere {r : Reply} (hr : r.delivery? = none)
      (haddress : ∀ id, s'.store.addressOf id = s.store.addressOf id)
      (hseries : s'.series = s.series) : Impact s s' r

/-- A request that completes no device leaves every address. -/
theorem Request.addressOf_kept (setup : Setup) {r : Request}
    (hr : ∀ address contract, r ≠ .completeDevice address contract) (s : System) (id : Int) :
    ((r.call setup).run s).2.store.addressOf id = s.store.addressOf id := by
  have hops : ∀ op, r.Uses op → ∀ contract a, op ≠ .completeDevice contract a := by
    rintro op huses contract a rfl
    cases huses
    exact hr _ _ rfl
  refine (r.operates setup hops).run_store (J := fun t => t.addressOf id = s.store.addressOf id)
    (fun t op hop ht => ?_) rfl
  rw [op.addressOf_run hop, ht]

/-- **A reply does one of the four things.** -/
theorem Request.impact {setup : Setup} (hw : ∀ key, setup.seriesFault (.write key) = none)
    (r : Request) {s : System} (hs : s.store.Sound) :
    Impact s ((r.call setup).run s).2 ⟨setup, r, ((r.call setup).run s).1⟩ := by
  cases r with
  | record now m =>
    show Impact s ((Telemetry.record setup now m).run s).2
      ⟨setup, .record now m, ((Telemetry.record setup now m).run s).1⟩
    cases hfound : s.store.deviceByAddress? m.address with
    | none =>
      rw [run_record_stray hfound]
      exact .stray (Store.free_of_not_found hfound) rfl
    | some d =>
      rw [Bus.run_record hw hfound]
      exact .stored (hs.addressOf_of_found hfound) rfl rfl
  | completeDevice address contract =>
    rcases hrun : ((completeDevice address contract).call setup).run s with ⟨e | d, s'⟩
    · have hstore : s'.store = s.store := (completeDevice address contract).failsTo s e s' hrun
      have hseries := (completeDevice address contract).series_kept setup (by rintro _ _ ⟨⟩) s
      rw [hrun] at hseries
      exact .elsewhere rfl (fun id => by rw [hstore]) hseries
    · obtain ⟨hcompletes, hs'⟩ := Bus.completes_of_run hrun
      obtain ⟨hnone, hfree, haddress⟩ := hcompletes.addressOf hs
      exact .bound hnone hfree haddress (by rw [hs'])
  | _ =>
    exact .elsewhere rfl (addressOf_kept setup (by rintro _ _ ⟨⟩) s)
      (series_kept setup (by rintro _ _ ⟨⟩) s)

/-! ### What a run keeps -/

/-- **Stores and history agree about samples.**  For a free address all samples were turned down; a
device has its address since its completion; and the points under a number are those of the samples
that were accepted for the address of the device with that number. -/
structure Attributed (h : List Reply) (s : System) : Prop where
  sound : s.store.Sound
  keyed : s.series.Keyed
  free : ∀ address, s.store.Free address →
    ∀ x ∈ sent h address, x.answer = .error (.noDevice address)
  bound : ∀ id address, s.store.addressOf id = some address → BoundSince h address id
  points : ∀ id key ms, s.series.value? id key ms =
    (s.store.addressOf id).bind fun address => (lastAt? (accepted h address) ms).map (·.value key)

theorem attributed_empty : Attributed [] .empty where
  sound := Store.sound_empty
  keyed := Series.keyed_empty
  free _ _ _ hx := absurd hx List.not_mem_nil
  bound _ _ h := by cases h
  points _ _ _ := rfl

section Step

variable {h : List Reply} {r : Reply} {s s' : System}

/-- What is done to neither addresses nor points changes nothing. -/
theorem Attributed.elsewhere (ha : Attributed h s) (hs' : s'.store.Sound)
    (hr : r.delivery? = none) (haddress : ∀ id, s'.store.addressOf id = s.store.addressOf id)
    (hseries : s'.series = s.series) : Attributed (h ++ [r]) s' := by
  refine ⟨hs', hseries ▸ ha.keyed, fun address hfree => ?_, fun id address hid => ?_,
    fun id key ms => ?_⟩
  · rw [sent_append_of_none hr]
    exact ha.free address fun id => haddress id ▸ hfree id
  · refine (ha.bound id address (haddress id ▸ hid)).append ?_
    exact fun x hx => by simp [sent_of_none hr] at hx
  · rw [hseries, haddress, ha.points]
    simp only [accepted_append_of_none hr]

/-- A sample that is turned down leaves no point. -/
theorem Attributed.stray (ha : Attributed h s) {x : Delivery} (hr : r.delivery? = some x)
    (hfree : s.store.Free x.message.address)
    (hx : x.answer = .error (.noDevice x.message.address)) : Attributed (h ++ [r]) s := by
  have hdown : ∀ address, ∀ y ∈ sent [r] address, y.answer = .error (.noDevice address) := by
    intro address y hy
    rw [sent_of_some hr] at hy
    split_ifs at hy with heq
    · rw [List.mem_singleton.1 hy, hx, heq]
    · cases hy
  refine ⟨ha.sound, ha.keyed, fun address haddress y hy => ?_, fun id address hid => ?_,
    fun id key ms => ?_⟩
  · rw [sent_append] at hy
    rcases List.mem_append.1 hy with hy | hy
    · exact ha.free address haddress y hy
    · exact hdown address y hy
  · refine (ha.bound id address hid).append ?_
    have hne : x.message.address ≠ address := fun heq => hfree id (heq ▸ hid)
    exact fun y hy => by simp [sent_of_some hr, hne] at hy
  · simp only [accepted_append, accepted_eq_nil (hdown _), List.append_nil]
    exact ha.points id key ms

/-- A sample that is stored becomes the two points of the device with its address. -/
theorem Attributed.stored (ha : Attributed h s) {x : Delivery} {number : Int}
    (hr : r.delivery? = some x) (hx : x.answer = .ok ())
    (haddress : s.store.addressOf number = some x.message.address) (hstore : s'.store = s.store)
    (hseries : s'.series = (s.series.write number .capacitance x.message.capacitance x.time).write
      number .temperature x.message.temperature x.time) : Attributed (h ++ [r]) s' := by
  have hok : ∀ address, ∀ y ∈ sent [r] address, y.answer.isOk := by
    intro address y hy
    rw [sent_of_some hr] at hy
    split_ifs at hy
    · rw [List.mem_singleton.1 hy, hx]
      rfl
    · cases hy
  refine ⟨hstore ▸ ha.sound, hseries ▸ (ha.keyed.write ..).write .., fun address hfree => ?_,
    fun id address hid => (ha.bound id address (hstore ▸ hid)).append (hok address),
    fun id key ms => ?_⟩
  · rw [hstore] at hfree
    have hne : x.message.address ≠ address := fun heq => hfree number (heq ▸ haddress)
    rw [sent_append, sent_of_some hr, if_neg hne, List.append_nil]
    exact ha.free address hfree
  · rw [hstore, hseries, Series.value?_write, Series.value?_write, ha.points]
    by_cases hid : number = id
    · have hnew : accepted [r] x.message.address = [x] := by
        simp [accepted, sent_of_some hr, hx, Except.isOk, Except.toBool]
      rw [← hid, haddress, Option.bind_some, Option.bind_some, accepted_append, hnew,
        lastAt?_append_singleton]
      cases key <;> split_ifs <;> simp_all [Delivery.value]
    · -- The points of another number stay, and its address is another one.
      have hold : ∀ address, s.store.addressOf id = some address →
          accepted (h ++ [r]) address = accepted h address := by
        intro address haddress'
        have hne : x.message.address ≠ address :=
          fun heq => hid (ha.sound.addressOf_inj haddress (heq ▸ haddress'))
        have hnil : accepted [r] address = [] := by
          rw [accepted, sent_of_some hr, if_neg hne]
          rfl
        rw [accepted_append, hnil, List.append_nil]
      rw [if_neg fun hw => hid hw.1, if_neg fun hw => hid hw.1]
      cases haddress' : s.store.addressOf id with
      | none => rfl
      | some address => rw [Option.bind_some, Option.bind_some, hold address haddress']

/-- A completion gives an address whose samples were all turned down to a device without points. -/
theorem Attributed.completed (ha : Attributed h s) (hs' : s'.store.Sound) {address : String}
    {number : Int} (hr : r.delivery? = none) (hc : r.Completes address number)
    (hnone : s.store.addressOf number = none) (hfree : s.store.Free address)
    (haddress : ∀ id, s'.store.addressOf id =
      if id = number then some address else s.store.addressOf id)
    (hseries : s'.series = s.series) : Attributed (h ++ [r]) s' := by
  have hnil : accepted h address = [] := accepted_eq_nil (ha.free address hfree)
  refine ⟨hs', hseries ▸ ha.keyed, fun address' hfree' => ?_, fun id address' hid => ?_,
    fun id key ms => ?_⟩
  · rw [sent_append_of_none hr]
    refine ha.free address' fun id hid => ?_
    have hid' := hfree' id
    rw [haddress] at hid'
    split_ifs at hid' with heq
    · rw [heq, hnone] at hid
      cases hid
    · exact hid' hid
  · rw [haddress] at hid
    split_ifs at hid with heq
    · obtain rfl := Option.some.inj hid
      subst heq
      refine ⟨h, r, [], rfl, hc, ha.free address hfree, ?_⟩
      rw [accepted_append_of_none hr]
      exact hnil
    · refine (ha.bound id address' hid).append ?_
      exact fun x hx => by simp [sent_of_none hr] at hx
  · rw [hseries, haddress, ha.points]
    simp only [accepted_append_of_none hr]
    split_ifs with heq
    · rw [heq, hnone, Option.bind_some, hnil]
      rfl
    · rfl

/-- **A reply keeps stores and history in agreement.** -/
theorem Attributed.step (ha : Attributed h s) (hs' : s'.store.Sound) (hi : Impact s s' r) :
    Attributed (h ++ [r]) s' := by
  cases hi with
  | stray hfree hs =>
    subst hs
    exact ha.stray rfl hfree rfl
  | stored haddress hstore hseries => exact ha.stored rfl rfl haddress hstore hseries
  | bound hnone hfree haddress hseries =>
    exact ha.completed hs' rfl ⟨_, _, _, rfl, rfl⟩ hnone hfree haddress hseries
  | elsewhere hr haddress hseries => exact ha.elsewhere hs' hr haddress hseries

end Step

/-- The series store takes every point of a turn. -/
def Turn.StoresPoints : Turn → Prop
  | .serve setup _ => ∀ key, setup.seriesFault (.write key) = none
  | .refuse _ => True

/-- **Stores and history agree after every run.** -/
theorem attributed_served (run : List Turn) (hrun : ∀ turn ∈ run, turn.StoresPoints) :
    Attributed (replies .empty run) (served .empty run) := by
  refine turns_induction (P := fun run h s => (∀ turn ∈ run, turn.StoresPoints) → Attributed h s)
    (fun _ => attributed_empty) (fun run h s setup r ih hrun => ?_)
    (fun run h s events ih hrun => ?_) run hrun
  · have ha := ih fun turn hturn => hrun turn (List.mem_append_left _ hturn)
    have hw := hrun (.serve setup r) (List.mem_append_right _ (List.mem_singleton_self _))
    exact ha.step (r.sound setup ha.sound) (r.impact hw ha.sound)
  · have ha := ih fun turn hturn => hrun turn (List.mem_append_left _ hturn)
    exact ⟨ha.sound.refused events, ha.keyed, ha.free, ha.bound, ha.points⟩

/-! ### The latest values -/

/-- The clock does not go back from sample to sample, and shows no leap second. -/
structure Clocked (h : List Reply) : Prop where
  steady : ((deliveries h).map (·.time)).Pairwise (· ≤ ·)
  plain : ∀ x ∈ deliveries h, x.time.nano < 1000000000

end Service

namespace Time
namespace Instant

/-- Outside leap seconds milliseconds do not go back. -/
theorem millis_le_millis {a b : Instant} (h : a ≤ b) (ha : a.nano < 1000000000) :
    a.millis ≤ b.millis := by
  unfold millis
  rcases h with h | h <;> omega

/-- Outside leap seconds a millisecond is an instant. -/
theorem isSome_ofMillis?_millis {a : Instant} (ha : a.nano < 1000000000) :
    (ofMillis? a.millis).isSome := by
  have hfirst := a.first_le
  have hlast := a.le_last
  unfold ofMillis? ofUnix? millis
  rw [dif_pos (by omega)]
  rfl

end Instant
end Time

namespace Series

variable {s : Series} {d : Int} {k : Measurement} {e : Entry}

/-- The entry with the last millisecond is the latest point. -/
theorem Keyed.latest_eq (hs : s.Keyed) (he : e ∈ s.channel d k)
    (hlast : ∀ x ∈ s.channel d k, x.millis ≤ e.millis)
    (hinstant : (Time.Instant.ofMillis? e.millis).isSome) :
    s.latest d k = .ok (some e.toPoint) := by
  have hne := List.ne_nil_of_mem he
  have hsplit := List.dropLast_append_getLast hne
  have hsorted := hs.pairwise_channel d k
  rw [← hsplit] at he hsorted
  obtain ⟨-, -, hbefore⟩ := List.pairwise_append.1 hsorted
  have heq : e = (s.channel d k).getLast hne := by
    rcases List.mem_append.1 he with he | he
    · have hlt := hbefore e he _ (List.mem_singleton_self _)
      have hle := hlast _ (List.getLast_mem hne)
      omega
    · exact List.mem_singleton.1 he
  rw [latest, List.getLast?_eq_some_getLast hne, ← heq]
  dsimp only
  rw [Entry.point_eq_ok hinstant]
  rfl

/-- Without values there is no latest point. -/
theorem Keyed.latest_eq_none (hs : s.Keyed) (h : ∀ ms, s.value? d k ms = none) :
    s.latest d k = .ok none := by
  have hnil : s.channel d k = [] := by
    refine List.eq_nil_iff_forall_not_mem.2 fun e he => ?_
    obtain ⟨-, -, hv⟩ := hs.mem_channel.1 he
    rw [h] at hv
    cases hv
  rw [latest, hnil]
  rfl

end Series

namespace Service

open Time (Instant)
open SoilWatch.Flow

variable {h : List Reply} {s : System} {address : String} {x : Delivery}

theorem accepted_sublist (h : List Reply) (address : String) :
    (accepted h address).Sublist (deliveries h) :=
  List.filter_sublist.trans List.filter_sublist

theorem mem_of_lastAt? {xs : List Delivery} {ms : Int} (hx : lastAt? xs ms = some x) :
    x ∈ xs ∧ x.time.millis = ms := by
  obtain ⟨hmem, hms⟩ := List.mem_filter.1 (List.mem_of_getLast? hx)
  exact ⟨hmem, of_decide_eq_true hms⟩

/-- The sample that was accepted last has the last millisecond. -/
theorem Clocked.millis_le (hc : Clocked h) (hx : (accepted h address).getLast? = some x)
    {y : Delivery} (hy : y ∈ accepted h address) : y.time.millis ≤ x.time.millis := by
  obtain ⟨init, hsplit⟩ := List.getLast?_eq_some_iff.1 hx
  have hsteady : ((accepted h address).map (·.time)).Pairwise (· ≤ ·) :=
    hc.steady.sublist ((accepted_sublist h address).map _)
  rw [hsplit, List.map_append] at hsteady
  obtain ⟨-, -, hbefore⟩ := List.pairwise_append.1 hsteady
  have hplain := hc.plain y ((accepted_sublist h address).subset hy)
  rw [hsplit] at hy
  rcases List.mem_append.1 hy with hy | hy
  · exact Instant.millis_le_millis
      (hbefore _ (List.mem_map_of_mem hy) _ (List.mem_singleton_self _)) hplain
  · rw [List.mem_singleton.1 hy]

/-- The latest point of a device is that of the sample that was accepted last. -/
theorem Attributed.latest_eq (ha : Attributed h s) (hc : Clocked h) {id : Int}
    (hid : s.store.addressOf id = some address) (hx : (accepted h address).getLast? = some x)
    (key : Measurement) :
    s.series.latest id key =
      .ok (some (Series.Entry.toPoint ⟨id, key, x.time.millis, x.value key⟩)) := by
  have hvalue : ∀ ms, s.series.value? id key ms =
      (lastAt? (accepted h address) ms).map (·.value key) := fun ms => by
    rw [ha.points, hid, Option.bind_some]
  have hat : lastAt? (accepted h address) x.time.millis = some x := by
    obtain ⟨init, hsplit⟩ := List.getLast?_eq_some_iff.1 hx
    rw [hsplit, lastAt?_append_singleton, if_pos rfl]
  refine ha.keyed.latest_eq (ha.keyed.mem_channel.2 ⟨rfl, rfl, ?_⟩) (fun e he => ?_) ?_
  · show s.series.value? id key x.time.millis = some (x.value key)
    rw [hvalue, hat]
    rfl
  · obtain ⟨-, -, hv⟩ := ha.keyed.mem_channel.1 he
    rw [hvalue] at hv
    obtain ⟨y, hy, -⟩ := Option.map_eq_some_iff.1 hv
    obtain ⟨hmem, hms⟩ := mem_of_lastAt? hy
    exact hms ▸ hc.millis_le hx hmem
  · exact Instant.isSome_ofMillis?_millis
      (hc.plain x ((accepted_sublist h address).subset (List.mem_of_getLast? hx)))

/-- **The latest values of a device are those of the sample that was accepted last.** -/
theorem Attributed.run_latest (ha : Attributed h s) (hc : Clocked h) {setup : Setup}
    (hf : ∀ key, setup.seriesFault (.latest key) = none) {id : Int}
    (hid : s.store.addressOf id = some address) :
    (Telemetry.latest setup id).run s =
      (match (accepted h address).getLast? with
        | some x => .ok ⟨x.message.capacitance, x.message.temperature⟩
        | none => .error (.noTelemetry id), s) := by
  cases hx : (accepted h address).getLast? with
  | some x =>
    rw [Telemetry.run_latest hf (ha.latest_eq hc hid hx _) (ha.latest_eq hc hid hx _)]
    rfl
  | none =>
    have hnone : ∀ key, s.series.latest id key = .ok none := fun key =>
      ha.keyed.latest_eq_none fun ms => by
        rw [ha.points, hid, Option.bind_some, List.getLast?_eq_none_iff.1 hx]
        rfl
    rw [Telemetry.run_latest hf (hnone _) (hnone _)]
    rfl

/-! ### Attribution -/

/-- **A sample feeds the device that has its address, and no other.**  After every run from the
empty stores in which every point can be written, a device with an address has it since a completion
before which all samples for the address were turned down and after which all were accepted, and its
two series hold the values of these samples, millisecond by millisecond, the last one winning.  A
number without an address has no points.  As long as no device has an address, every sample for it
is turned down and changes nothing.  No two devices have the same address, and a sample that is
accepted changes the points of one device only.  If the clock does not go back, the latest values of
a device are those of the sample that was accepted last. -/
theorem samples_feed_their_device (run : List Turn) (hrun : ∀ turn ∈ run, turn.StoresPoints) :
    (∀ d ∈ (served .empty run).store.devices, ∀ address, d.address = some address →
      BoundSince (replies .empty run) address d.id ∧
      (∀ key ms, (served .empty run).series.value? d.id key ms =
        (lastAt? (accepted (replies .empty run) address) ms).map (·.value key)) ∧
      ∀ setup : Setup, (∀ key, setup.seriesFault (.latest key) = none) →
        Clocked (replies .empty run) →
        (Telemetry.latest setup d.id).run (served .empty run) =
          (match (accepted (replies .empty run) address).getLast? with
            | some x => .ok ⟨x.message.capacitance, x.message.temperature⟩
            | none => .error (.noTelemetry d.id), served .empty run)) ∧
    (∀ id, (∀ d ∈ (served .empty run).store.devices, d.id = id → d.address = none) →
      ∀ key ms, (served .empty run).series.value? id key ms = none) ∧
    (∀ address, (∀ d ∈ (served .empty run).store.devices, d.address ≠ some address) →
      (∀ x ∈ sent (replies .empty run) address, x.answer = .error (.noDevice address)) ∧
      ∀ (setup : Setup) (now : Instant) (m : SampleMessage), m.address = address →
        (Telemetry.record setup now m).run (served .empty run) =
          (.error (.noDevice address), served .empty run)) ∧
    (∀ d ∈ (served .empty run).store.devices, ∀ d' ∈ (served .empty run).store.devices,
      ∀ address, d.address = some address → d'.address = some address → d = d') ∧
    ∀ (setup : Setup) (now : Instant) (m : SampleMessage) (s' : System),
      (∀ key, setup.seriesFault (.write key) = none) →
      (Telemetry.record setup now m).run (served .empty run) = (.ok (), s') →
      ∃ d ∈ (served .empty run).store.devices, d.address = some m.address ∧
        ∀ id, id ≠ d.id → ∀ key ms,
          s'.series.value? id key ms = (served .empty run).series.value? id key ms := by
  have ha := attributed_served run hrun
  refine ⟨fun d hd address haddress => ?_, fun id hid key ms => ?_, fun address hfree => ⟨?_, ?_⟩,
    fun d hd d' hd' address h h' => ha.sound.eq_of_address_eq hd hd' h h',
    fun setup now m s' hw h => ?_⟩
  · have hid := (ha.sound.addressOf_eq hd).trans haddress
    refine ⟨ha.bound _ _ hid, fun key ms => ?_, fun setup hf hc => ha.run_latest hc hf hid⟩
    rw [ha.points, hid, Option.bind_some]
  · have hnone : (served .empty run).store.addressOf id = none := by
      refine Option.eq_none_iff_forall_ne_some.2 fun address haddress => ?_
      obtain ⟨d, hd, hd', ha⟩ := Store.exists_of_addressOf haddress
      rw [hid d hd hd'] at ha
      cases ha
    rw [ha.points, hnone, Option.bind_none]
  · refine ha.free address fun id hid => ?_
    obtain ⟨d, hd, -, ha⟩ := Store.exists_of_addressOf hid
    exact hfree d hd ha
  · rintro setup now m rfl
    exact run_record_stray (List.find?_eq_none.2 fun d hd => by simpa using hfree d hd) now
  · cases hfound : (served .empty run).store.deviceByAddress? m.address with
    | none =>
      rw [run_record_stray hfound] at h
      cases h
    | some d =>
      rw [Bus.run_record hw hfound] at h
      obtain ⟨-, rfl⟩ := Prod.mk.inj h
      refine ⟨d, List.mem_of_find?_eq_some hfound, by simpa using List.find?_some hfound,
        fun id hid key ms => ?_⟩
      have hne : ∀ key', ¬ (d.id = id ∧ key' = key ∧ now.millis = ms) := fun _ h => hid h.1.symm
      rw [Series.value?_write, if_neg (hne _), Series.value?_write, if_neg (hne _)]

/-- A device is created and completed; a sample comes before that and two in one millisecond
behind it. -/
def earlyAndTwice : List Turn :=
  [.serve .standard (.createUser [] .epoch "ann@example.com" "secret" "Ann"),
    .serve .standard (.createDevice [] (some 1) "Fern"),
    .serve .standard (.record .epoch ⟨"a1", 1, 2⟩),
    .serve .standard (.completeDevice "a1" (Provisioning.contractOf [])),
    .serve .standard (.record .epoch ⟨"a1", 3, 4⟩),
    .serve .standard (.record .epoch ⟨"a1", 5, 6⟩)]

/-- The early sample is turned down, and the later of the two others is the latest. -/
theorem later_sample_is_latest :
    (∀ turn ∈ earlyAndTwice, turn.StoresPoints) ∧ Clocked (replies .empty earlyAndTwice) ∧
    BoundSince (replies .empty earlyAndTwice) "a1" 1 ∧
    (sent (replies .empty earlyAndTwice) "a1").length = 3 ∧
    (accepted (replies .empty earlyAndTwice) "a1").length = 2 ∧
    (served .empty earlyAndTwice).series.value? 1 .capacitance 0 = some 5 ∧
    (Telemetry.latest .standard 1).run (served .empty earlyAndTwice) =
      (.ok ⟨5, 6⟩, served .empty earlyAndTwice) := by
  have hrun : ∀ turn ∈ earlyAndTwice, turn.StoresPoints := by
    simp [earlyAndTwice, Turn.StoresPoints, Setup.standard]
  have hdeliveries : (deliveries (replies .empty earlyAndTwice)).map (·.time) =
      [.epoch, .epoch, .epoch] := by rfl
  have hclocked : Clocked (replies .empty earlyAndTwice) := by
    refine ⟨by rw [hdeliveries]; decide, fun x hx => ?_⟩
    have htime := List.mem_map_of_mem (f := (·.time)) hx
    rw [hdeliveries] at htime
    have hepoch : x.time = .epoch := by simpa using htime
    rw [hepoch]
    decide
  have hdevices : (served .empty earlyAndTwice).store.devices = [⟨1, 1, some "a1", "Fern"⟩] := by
    rfl
  obtain ⟨hfed, -⟩ := samples_feed_their_device earlyAndTwice hrun
  obtain ⟨hbound, hvalue, hlatest⟩ :=
    hfed ⟨1, 1, some "a1", "Fern"⟩ (by rw [hdevices]; exact List.mem_singleton_self _) "a1" rfl
  refine ⟨hrun, hclocked, hbound, by rfl, by rfl, (hvalue _ _).trans (by rfl), ?_⟩
  exact (hlatest .standard (fun _ => rfl) hclocked).trans (by rfl)

end Service
end SoilWatch
