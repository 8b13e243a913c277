/-
# What a series store answers

A series store is written point by point, in whatever order of time.  What it answers can be read
off the writes: a millisecond at which a device was written has the value of the last write that fell
there (`lastValue?`), and a range lists these milliseconds in order, each once.  The table holds one
entry for each device, quantity and millisecond (`Keyed`), so a channel is known from its values
alone (`channel_congr`): nothing in it depends on the order of the writes, or on writes elsewhere.

Bounds of a range are compared twice.  An end before the start gives nothing, and this is decided to
the nanosecond; everything else is decided by milliseconds.
-/

import SoilWatch.Proofs.Blind
import SoilWatch.Service.Telemetry
import Mathlib.Data.List.Nodup
import Mathlib.Data.List.Induction
import Mathlib.Data.List.Pairwise

namespace SoilWatch

namespace Time
namespace Instant

/-! ### Milliseconds -/

/-- The instant of a millisecond has that millisecond. -/
theorem millis_of_ofMillis? {ms : Int} {t : Instant} (h : ofMillis? ms = some t) :
    t.millis = ms := by
  unfold ofMillis? ofUnix? at h
  split at h
  · obtain rfl := Option.some.inj h
    show ms / 1000 * 1000 + (((ms % 1000).toNat * 1000000 / 1000000 : Nat) : Int) = ms
    omega
  · cases h

/-- The instants of milliseconds lie in the order of the milliseconds. -/
theorem lt_of_ofMillis? {a b : Int} {s t : Instant} (hs : ofMillis? a = some s)
    (ht : ofMillis? b = some t) (h : a < b) : s < t := by
  unfold ofMillis? ofUnix? at hs ht
  split at hs
  · split at ht
    · obtain rfl := Option.some.inj hs
      obtain rfl := Option.some.inj ht
      show _ ∨ _
      dsimp only
      omega
    · cases ht
  · cases hs

/-- The first instant. -/
def first : Instant :=
  ⟨firstSecond, 0, Int.le_refl _, by decide, epoch.nano_lt⟩

/-- The last instant, inside a leap second. -/
def last : Instant :=
  ⟨lastSecond, 1999999999, by decide, by decide, by decide⟩

/-- Every instant lies between the first and the last, by milliseconds, too. -/
theorem millis_mem_first_last (t : Instant) : first.millis ≤ t.millis ∧ t.millis ≤ last.millis := by
  have hf := t.first_le
  have hl := t.le_last
  have hn := t.nano_lt
  simp only [millis, first, last]
  omega

theorem not_last_lt_first : ¬ last < first := by decide

end Instant
end Time

open Time (Instant)

/-- Lists in which a number increases are known from their members. -/
theorem eq_of_increasing {α : Type} {number : α → Int} {l l' : List α}
    (hl : l.Pairwise (number · < number ·)) (hl' : l'.Pairwise (number · < number ·))
    (h : ∀ a, a ∈ l ↔ a ∈ l') : l = l' := by
  have hperm : l.Perm l' := by
    refine (List.perm_ext_iff_of_nodup (hl.imp ?_) (hl'.imp ?_)).2 h <;>
      · rintro a _ hab rfl
        exact Int.lt_irrefl _ hab
  exact hperm.eq_of_pairwise (fun a b _ _ hab hba => absurd hab (Int.lt_asymm hba)) hl hl'

namespace Series

variable {s s' : Series} {d d' : Int} {k k' : Measurement} {ms : Int} {e : Entry}

/-! ### Writes -/

/-- A point that is written. -/
structure Write where
  deviceId : Int
  key : Measurement
  value : Int
  time : Instant

namespace Write

/-- Whether a write belongs to a device and a quantity. -/
def isOf (w : Write) (deviceId : Int) (key : Measurement) : Bool :=
  w.deviceId = deviceId && w.key = key

/-- Whether the millisecond of a write is an instant again, so that it can be read. -/
def Readable (w : Write) : Prop :=
  (Instant.ofMillis? w.time.millis).isSome

instance (w : Write) : Decidable w.Readable :=
  inferInstanceAs (Decidable (_ = true))

end Write

/-- The store behind a sequence of writes. -/
def ofWrites (ws : List Write) : Series :=
  ws.foldl (fun s w => s.write w.deviceId w.key w.value w.time) .empty

/-- The value of the last write of a device and a quantity that fell at a millisecond. -/
def lastValue? (ws : List Write) (deviceId : Int) (key : Measurement) (ms : Int) : Option Int :=
  (ws.filter fun w => w.isOf deviceId key && w.time.millis = ms).getLast?.map (·.value)

theorem ofWrites_append_singleton (ws : List Write) (w : Write) :
    ofWrites (ws ++ [w]) = (ofWrites ws).write w.deviceId w.key w.value w.time := by
  rw [ofWrites, List.foldl_append]
  rfl

theorem lastValue?_append_singleton (ws : List Write) (w : Write) :
    lastValue? (ws ++ [w]) d k ms =
      if w.isOf d k ∧ w.time.millis = ms then some w.value else lastValue? ws d k ms := by
  rw [lastValue?, List.filter_append]
  split
  · simp [*]
  · rename_i h
    have hw : (w.isOf d k && decide (w.time.millis = ms)) = false := by simpa using h
    rw [List.filter_singleton, hw, cond_false, List.append_nil]
    rfl

/-! ### The table -/

/-- What tells entries apart. -/
def Entry.place (e : Entry) : Int × Measurement × Int :=
  (e.deviceId, e.key, e.millis)

/-- A store has at most one entry for each device, quantity and millisecond. -/
def Keyed (s : Series) : Prop :=
  (s.entries.map Entry.place).Nodup

theorem isOf_iff : e.isOf d k = true ↔ e.deviceId = d ∧ e.key = k := by
  simp [Entry.isOf]

/-- A write is found at its place, and all else as before. -/
theorem value?_write (s : Series) (d d' : Int) (k k' : Measurement) (v : Int) (t : Instant)
    (ms : Int) : (s.write d k v t).value? d' k' ms =
      if d = d' ∧ k = k' ∧ t.millis = ms then some v else s.value? d' k' ms := by
  rw [value?, write, List.find?_cons]
  by_cases h : d = d' ∧ k = k' ∧ t.millis = ms
  · obtain ⟨rfl, rfl, rfl⟩ := h
    simp [Entry.isOf]
  · have hnew : (Entry.isOf ⟨d, k, t.millis, v⟩ d' k' && decide (t.millis = ms)) = false := by
      simpa [Entry.isOf, and_assoc] using h
    rw [if_neg h, hnew]
    dsimp only
    rw [List.find?_filter, value?]
    -- An entry that is found elsewhere was not taken away.
    congr 2
    funext e
    by_cases he : e.isOf d' k' = true ∧ e.millis = ms
    · obtain ⟨⟨rfl, rfl⟩, rfl⟩ := he.imp_left isOf_iff.1
      have : ¬ (e.isOf d k = true ∧ e.millis = t.millis) := by
        rintro ⟨hd, hm⟩
        obtain ⟨rfl, rfl⟩ := isOf_iff.1 hd
        exact h ⟨rfl, rfl, hm.symm⟩
      simp only [not_and] at this
      by_cases hd : e.isOf d k = true <;> simp_all
    · simp only [not_and] at he
      by_cases hd : e.isOf d' k' = true <;> simp_all

theorem keyed_empty : Keyed empty := List.nodup_nil

/-- A write puts one entry in the place of another. -/
theorem Keyed.write (hs : s.Keyed) (d : Int) (k : Measurement) (v : Int) (t : Instant) :
    (s.write d k v t).Keyed := by
  refine List.nodup_cons.2 ⟨?_, hs.sublist (List.filter_sublist.map _)⟩
  intro h
  obtain ⟨e, he, hplace⟩ := List.mem_map.1 h
  obtain ⟨-, hkept⟩ := List.mem_filter.1 he
  obtain ⟨rfl, rfl, hms⟩ : e.deviceId = d ∧ e.key = k ∧ e.millis = t.millis := by
    simpa [Entry.place] using hplace
  simp [Entry.isOf, hms] at hkept

theorem keyed_ofWrites (ws : List Write) : (ofWrites ws).Keyed := by
  induction ws using List.reverseRecOn with
  | nil => exact keyed_empty
  | append_singleton ws w ih =>
    rw [ofWrites_append_singleton]
    exact ih.write ..

/-- **The value at a millisecond is that of the last write.** -/
theorem value?_ofWrites (ws : List Write) (d : Int) (k : Measurement) (ms : Int) :
    (ofWrites ws).value? d k ms = lastValue? ws d k ms := by
  induction ws using List.reverseRecOn with
  | nil => rfl
  | append_singleton ws w ih =>
    rw [ofWrites_append_singleton, value?_write, lastValue?_append_singleton, ih]
    simp [Write.isOf, and_assoc]

/-! ### Channels -/

/-- An entry of a store is the one that is found at its place. -/
theorem Keyed.mem_entries (hs : s.Keyed) :
    e ∈ s.entries ↔ s.value? e.deviceId e.key e.millis = some e.value := by
  constructor
  · intro he
    rw [value?]
    cases hf : s.entries.find? fun x => x.isOf e.deviceId e.key && x.millis = e.millis with
    | none => exact absurd (List.find?_eq_none.1 hf e he) (by simp [Entry.isOf])
    | some x =>
      have hx := List.find?_some hf
      have hplace : x.place = e.place := by simpa [Entry.isOf, Entry.place, and_assoc] using hx
      rw [List.inj_on_of_nodup_map hs (List.mem_of_find?_eq_some hf) he hplace]
      rfl
  · intro h
    obtain ⟨x, hx, hv⟩ := Option.map_eq_some_iff.1 h
    have hplace := List.find?_some hx
    have : x = e := by
      cases x
      cases e
      simp_all [Entry.isOf]
    exact this ▸ List.mem_of_find?_eq_some hx

/-- The entries of a channel are the values of its device and quantity. -/
theorem Keyed.mem_channel (hs : s.Keyed) : e ∈ s.channel d k ↔
    e.deviceId = d ∧ e.key = k ∧ s.value? d k e.millis = some e.value := by
  rw [channel, List.mem_mergeSort, List.mem_filter, hs.mem_entries, isOf_iff]
  constructor
  · rintro ⟨hv, rfl, rfl⟩
    exact ⟨rfl, rfl, hv⟩
  · rintro ⟨rfl, rfl, hv⟩
    exact ⟨hv, rfl, rfl⟩

/-- A channel is in the order of time, one entry for each millisecond. -/
theorem Keyed.pairwise_channel (hs : s.Keyed) (d : Int) (k : Measurement) :
    (s.channel d k).Pairwise (·.millis < ·.millis) := by
  have hsorted : (s.channel d k).Pairwise (·.millis ≤ ·.millis) := by
    refine (List.pairwise_mergeSort (fun a b c => ?_) (fun a b => ?_) _).imp of_decide_eq_true
    · simp only [decide_eq_true_iff]
      omega
    · simp only [Bool.or_eq_true, decide_eq_true_iff]
      omega
  have hdistinct : (s.channel d k).Pairwise fun a b => a.place ≠ b.place := by
    have hperm : (s.channel d k).Perm (s.entries.filter (·.isOf d k)) := List.mergeSort_perm ..
    exact List.pairwise_map.1 ((hperm.map Entry.place).nodup_iff.2
      (hs.sublist (List.filter_sublist.map Entry.place)))
  refine (hsorted.and hdistinct).imp_of_mem fun {a b} ha hb hab => ?_
  obtain ⟨rfl, rfl, -⟩ := hs.mem_channel.1 ha
  obtain ⟨hd, hk, -⟩ := hs.mem_channel.1 hb
  refine Int.lt_iff_le_and_ne.2 ⟨hab.1, fun hms => hab.2 ?_⟩
  simp [Entry.place, hd, hk, hms]

/-- **A channel is known from its values.** -/
theorem channel_congr (hs : s.Keyed) (hs' : s'.Keyed)
    (h : ∀ ms, s.value? d k ms = s'.value? d k ms) : s.channel d k = s'.channel d k :=
  eq_of_increasing (hs.pairwise_channel d k) (hs'.pairwise_channel d k)
    fun e => by rw [hs.mem_channel, hs'.mem_channel, h]

theorem range_congr (h : s.channel d k = s'.channel d k) (start stop : Instant) :
    s.range d k start stop = s'.range d k start stop := by
  rw [range, range, h]

theorem latest_congr (h : s.channel d k = s'.channel d k) : s.latest d k = s'.latest d k := by
  rw [latest, latest, h]

/-! ### What is read -/

/-- The point of an entry whose millisecond is an instant. -/
def Entry.toPoint (e : Entry) : Point :=
  ⟨e.value, (Instant.ofMillis? e.millis).getD .epoch, e.key⟩

theorem Entry.point_eq_ok (h : (Instant.ofMillis? e.millis).isSome) : e.point = .ok e.toPoint := by
  obtain ⟨t, ht⟩ := Option.isSome_iff_exists.1 h
  rw [point, toPoint, ht]
  rfl

/-- Entries whose milliseconds are instants can all be read. -/
theorem mapM_point {es : List Entry} (h : ∀ e ∈ es, (Instant.ofMillis? e.millis).isSome) :
    es.mapM Entry.point = .ok (es.map Entry.toPoint) := by
  induction es with
  | nil => rfl
  | cons e es ih =>
    rw [List.mapM_cons, Entry.point_eq_ok (h e List.mem_cons_self),
      ih fun x hx => h x (List.mem_cons_of_mem _ hx)]
    rfl

/-- Entries that were read have milliseconds that are instants. -/
theorem isSome_of_mapM_point {es : List Entry} {ps : List Point} (h : es.mapM Entry.point = .ok ps) :
    ∀ e ∈ es, (Instant.ofMillis? e.millis).isSome := by
  induction es generalizing ps with
  | nil => exact nofun
  | cons e es ih =>
    rw [List.mapM_cons] at h
    cases hp : e.point with
    | error f => simp [hp, bind, Except.bind] at h
    | ok p =>
      cases hps : es.mapM Entry.point with
      | error f => simp [hp, hps, bind, Except.bind] at h
      | ok qs =>
        refine List.forall_mem_cons.2 ⟨?_, ih hps⟩
        unfold Entry.point at hp
        split at hp
        · rename_i t ht
          rw [ht]
          rfl
        · cases hp

/-- **A list of points says what was written:** one point for each millisecond of a kind at which a
device was written, with the value of the last write there, in the order of time. -/
structure Lists (ws : List Write) (deviceId : Int) (key : Measurement) (within : Int → Prop)
    (ps : List Point) : Prop where
  increasing : ps.Pairwise (·.time < ·.time)
  mem : ∀ p, p ∈ ps ↔ p.key = key ∧ ∃ ms, within ms ∧ Instant.ofMillis? ms = some p.time ∧
    lastValue? ws deviceId key ms = some p.value

variable {ws : List Write}

/-- Where something was written, it can be read. -/
theorem isSome_ofMillis? (hws : ∀ w ∈ ws, w.Readable) {v : Int}
    (h : lastValue? ws d k ms = some v) : (Instant.ofMillis? ms).isSome := by
  obtain ⟨w, hw, -⟩ := Option.map_eq_some_iff.1 h
  obtain ⟨hmem, hfell⟩ := List.mem_filter.1 (List.mem_of_getLast? hw)
  have hms : w.time.millis = ms := by
    rw [Bool.and_eq_true, decide_eq_true_iff] at hfell
    exact hfell.2
  exact hms ▸ hws w hmem

theorem isSome_of_mem_channel (hws : ∀ w ∈ ws, w.Readable) (he : e ∈ (ofWrites ws).channel d k) :
    (Instant.ofMillis? e.millis).isSome := by
  obtain ⟨-, -, hv⟩ := (keyed_ofWrites ws).mem_channel.1 he
  rw [value?_ofWrites] at hv
  exact isSome_ofMillis? hws hv

/-- Entries of a channel with milliseconds of a kind say what was written there, as far as their
milliseconds are instants. -/
theorem lists_within (d : Int) (k : Measurement) (within : Int → Bool)
    (hread : ∀ e ∈ (ofWrites ws).channel d k |>.filter (within ·.millis),
      (Instant.ofMillis? e.millis).isSome) :
    Lists ws d k (within · = true)
      (((ofWrites ws).channel d k |>.filter (within ·.millis)).map Entry.toPoint) := by
  have hs := keyed_ofWrites ws
  constructor
  · rw [List.pairwise_map]
    refine ((hs.pairwise_channel d k).sublist List.filter_sublist).imp_of_mem ?_
    intro a b ha hb hab
    obtain ⟨s, ht⟩ := Option.isSome_iff_exists.1 (hread a ha)
    obtain ⟨t, ht'⟩ := Option.isSome_iff_exists.1 (hread b hb)
    simp only [Entry.toPoint, ht, ht', Option.getD_some]
    exact Instant.lt_of_ofMillis? ht ht' hab
  · intro p
    simp only [List.mem_map]
    constructor
    · rintro ⟨e, he, rfl⟩
      obtain ⟨t, ht⟩ := Option.isSome_iff_exists.1 (hread e he)
      obtain ⟨hmem, hin⟩ := List.mem_filter.1 he
      obtain ⟨rfl, rfl, hv⟩ := hs.mem_channel.1 hmem
      rw [value?_ofWrites] at hv
      exact ⟨rfl, e.millis, hin, by rw [Entry.toPoint, ht]; rfl, hv⟩
    · rintro ⟨rfl, ms, hin, ht, hv⟩
      refine ⟨⟨d, p.key, ms, p.value⟩, List.mem_filter.2 ⟨hs.mem_channel.2 ⟨rfl, rfl, ?_⟩, hin⟩, ?_⟩
      · rw [value?_ofWrites, hv]
      · rw [Entry.toPoint, ht]
        rfl

theorem lists_channel (hws : ∀ w ∈ ws, w.Readable) (d : Int) (k : Measurement)
    (within : Int → Bool) :
    Lists ws d k (within · = true)
      (((ofWrites ws).channel d k |>.filter (within ·.millis)).map Entry.toPoint) :=
  lists_within d k within fun _ he => isSome_of_mem_channel hws (List.mem_of_mem_filter he)

/-- A range whose end is not before its start lists the milliseconds between the two. -/
theorem range_eq_ok (hws : ∀ w ∈ ws, w.Readable) (d : Int) (k : Measurement) {start stop : Instant}
    (h : ¬ stop < start) : (ofWrites ws).range d k start stop =
      .ok (((ofWrites ws).channel d k |>.filter fun e =>
        start.millis ≤ e.millis && e.millis ≤ stop.millis).map Entry.toPoint) := by
  rw [range, if_neg h]
  exact mapM_point fun e he => isSome_of_mem_channel hws (List.mem_of_mem_filter he)

/-- The latest point is the last of the channel. -/
theorem latest_eq_ok (hws : ∀ w ∈ ws, w.Readable) (d : Int) (k : Measurement) :
    (ofWrites ws).latest d k = .ok (((ofWrites ws).channel d k).map Entry.toPoint).getLast? := by
  rw [latest, List.getLast?_map]
  cases hl : ((ofWrites ws).channel d k).getLast? with
  | none => rfl
  | some e =>
    dsimp only
    rw [Entry.point_eq_ok (isSome_of_mem_channel hws (List.mem_of_getLast? hl))]
    rfl

/-- The range from the first instant to the last leaves nothing out. -/
theorem range_first_last (hws : ∀ w ∈ ws, w.Readable) (d : Int) (k : Measurement) :
    (ofWrites ws).range d k .first .last =
      .ok (((ofWrites ws).channel d k).map Entry.toPoint) := by
  rw [range_eq_ok hws d k Instant.not_last_lt_first]
  congr 2
  refine List.filter_eq_self.2 fun e he => ?_
  obtain ⟨t, ht⟩ := Option.isSome_iff_exists.1 (isSome_of_mem_channel hws he)
  have hbounds := t.millis_mem_first_last
  rw [Instant.millis_of_ofMillis? ht] at hbounds
  simpa using hbounds

/-- A channel is empty if and only if its device and quantity were never written. -/
theorem channel_eq_nil : (ofWrites ws).channel d k = [] ↔ ∀ w ∈ ws, w.isOf d k = false := by
  rw [List.eq_nil_iff_forall_not_mem]
  constructor
  · intro h w hw
    by_contra hof
    have hof : w.isOf d k = true := by simpa using hof
    have hfell : w ∈ ws.filter fun x => x.isOf d k && x.time.millis = w.time.millis := by
      simp [hw, hof]
    obtain ⟨v, hv⟩ : ∃ v, lastValue? ws d k w.time.millis = some v := by
      rw [lastValue?, List.getLast?_eq_some_getLast (List.ne_nil_of_mem hfell)]
      exact ⟨_, rfl⟩
    refine h ⟨d, k, w.time.millis, v⟩ ((keyed_ofWrites ws).mem_channel.2 ⟨rfl, rfl, ?_⟩)
    rw [value?_ofWrites]
    exact hv
  · intro h e he
    obtain ⟨-, -, hv⟩ := (keyed_ofWrites ws).mem_channel.1 he
    rw [value?_ofWrites] at hv
    obtain ⟨w, hw, -⟩ := Option.map_eq_some_iff.1 hv
    obtain ⟨hmem, hfell⟩ := List.mem_filter.1 (List.mem_of_getLast? hw)
    simp [h w hmem] at hfell

/-- **A channel depends on the writes of its device and quantity only.** -/
theorem channel_ofWrites_filter {p : Write → Bool} (hp : ∀ w, w.isOf d k = true → p w = true) :
    (ofWrites (ws.filter p)).channel d k = (ofWrites ws).channel d k := by
  refine channel_congr (keyed_ofWrites _) (keyed_ofWrites _) fun ms => ?_
  rw [value?_ofWrites, value?_ofWrites, lastValue?, lastValue?, List.filter_filter]
  congr 2
  refine List.filter_congr fun w _ => ?_
  by_cases h : w.isOf d k = true
  · rw [hp w h, Bool.and_true]
  · rw [Bool.not_eq_true] at h
    rw [h, Bool.false_and, Bool.false_and]

end Series

/-! ### The service -/

namespace Service
namespace Telemetry

open SoilWatch.Flow

variable {setup : Setup} {s s' : System} {d : Int}

theorem blind_guardSeries (operation : String) (call : SeriesCall) :
    (guardSeries setup operation call).Blind s s' := by
  unfold guardSeries
  split
  · exact blind_fail _
  · exact blind_pure ()

/-- The latest values depend on the two channels of the device only. -/
theorem blind_latest (setup : Setup) (h : ∀ key, s.series.channel d key = s'.series.channel d key) :
    (latest setup d).Blind s s' := by
  have hpoint : ∀ key, (latestPoint setup d key).Blind s s' := fun key =>
    (blind_guardSeries _ _).bind fun _ _ =>
      blind_examine (by rw [Series.latest_congr (h key)])
  refine (hpoint .capacitance).bind fun c _ => (hpoint .temperature).bind fun t _ => ?_
  split
  · exact blind_pure _
  · exact blind_fail _

/-- The points between two instants depend on the channel only. -/
theorem blind_between (setup : Setup) {key : Measurement}
    (h : s.series.channel d key = s'.series.channel d key) (start stop : Instant) :
    (between setup d key start stop).Blind s s' :=
  (blind_guardSeries _ _).bind fun _ _ => blind_examine (by rw [Series.range_congr h])

/-- The sample that the latest points of a device make, if there are two. -/
def sampleOf (deviceId : Int) : Option Point → Option Point → Except Error Sample
  | some c, some t => .ok ⟨c.value, t.value⟩
  | _, _ => .error (.noTelemetry deviceId)

theorem sampleOf_eq_error {c t : Option Point} :
    sampleOf d c t = .error (.noTelemetry d) ↔ c = none ∨ t = none := by
  cases c <;> cases t <;> simp [sampleOf]

/-- The latest values are those of the latest points. -/
theorem run_latest (hf : ∀ key, setup.seriesFault (.latest key) = none) {c t : Option Point}
    (hc : s.series.latest d .capacitance = .ok c) (ht : s.series.latest d .temperature = .ok t) :
    (latest setup d).run s = (sampleOf d c t, s) := by
  simp only [latest, latestPoint, guardSeries, hf, run_bind, run_pure, run_examine, hc, ht,
    Except.mapError]
  cases c <;> cases t <;> rfl

end Telemetry
end Service

namespace Series

/-- **A series store refines the writes.**  Whatever was written, in whatever order, a range is empty
if its end is before its start, and otherwise has one point for each millisecond within its bounds
at which the device was written, in the order of time, with the value of the last write there.  The
latest point is the last of the range that leaves nothing out, and there is one if and only if the
device was written; the latest sample is made of the two latest points.  Writes of other devices or
quantities change none of this. -/
theorem series_refines_writes (ws : List Write) (hws : ∀ w ∈ ws, w.Readable) (d : Int) :
    (∀ (k : Measurement) (start stop : Instant),
      (stop < start → (ofWrites ws).range d k start stop = .ok []) ∧
      (¬ stop < start → ∃ ps, (ofWrites ws).range d k start stop = .ok ps ∧
        Lists ws d k (fun ms => start.millis ≤ ms ∧ ms ≤ stop.millis) ps) ∧
      (ofWrites (ws.filter (·.isOf d k))).range d k start stop =
        (ofWrites ws).range d k start stop) ∧
    (∀ k : Measurement,
      (∃ ps, Lists ws d k (fun _ => True) ps ∧ (ofWrites ws).range d k .first .last = .ok ps ∧
        (ofWrites ws).latest d k = .ok ps.getLast? ∧
        (ps = [] ↔ ∀ w ∈ ws, w.isOf d k = false)) ∧
      (ofWrites (ws.filter (·.isOf d k))).latest d k = (ofWrites ws).latest d k) ∧
    ∀ (setup : Setup) (store : Store) (outbox : List Mail),
      ((∀ key, setup.seriesFault (.latest key) = none) → ∃ c t : Option Point,
        (ofWrites ws).latest d .capacitance = .ok c ∧
        (ofWrites ws).latest d .temperature = .ok t ∧
        (Service.Telemetry.latest setup d).run ⟨store, ofWrites ws, outbox⟩ =
          (Service.Telemetry.sampleOf d c t, ⟨store, ofWrites ws, outbox⟩) ∧
        (Service.Telemetry.sampleOf d c t = .error (.noTelemetry d) ↔
          (∀ w ∈ ws, w.isOf d .capacitance = false) ∨ ∀ w ∈ ws, w.isOf d .temperature = false)) ∧
      ((Service.Telemetry.latest setup d).run
          ⟨store, ofWrites (ws.filter (·.deviceId = d)), outbox⟩).1 =
        ((Service.Telemetry.latest setup d).run ⟨store, ofWrites ws, outbox⟩).1 := by
  refine ⟨fun k start stop => ⟨fun h => by rw [range, if_pos h], fun h => ?_, ?_⟩,
    fun k => ⟨?_, ?_⟩, fun setup store outbox => ⟨fun hf => ?_, ?_⟩⟩
  · refine ⟨_, range_eq_ok hws d k h, ?_⟩
    simpa using lists_channel hws d k fun ms => start.millis ≤ ms && ms ≤ stop.millis
  · exact range_congr (channel_ofWrites_filter fun _ h => h) start stop
  · refine ⟨_, ?_, range_first_last hws d k, latest_eq_ok hws d k, ?_⟩
    · simpa using lists_channel hws d k fun _ => true
    · rw [List.map_eq_nil_iff, channel_eq_nil]
  · exact latest_congr (channel_ofWrites_filter fun _ h => h)
  · refine ⟨_, _, latest_eq_ok hws d .capacitance, latest_eq_ok hws d .temperature,
      Service.Telemetry.run_latest hf (latest_eq_ok hws d .capacitance)
        (latest_eq_ok hws d .temperature), ?_⟩
    rw [Service.Telemetry.sampleOf_eq_error, List.getLast?_eq_none_iff, List.getLast?_eq_none_iff,
      List.map_eq_nil_iff, List.map_eq_nil_iff, channel_eq_nil, channel_eq_nil]
  · have hkept : ∀ key, (ofWrites (ws.filter (·.deviceId = d))).channel d key =
        (ofWrites ws).channel d key := fun key =>
      channel_ofWrites_filter fun w hw => (Bool.and_eq_true_iff.1 hw).1
    exact (Service.Telemetry.blind_latest setup hkept).answer_eq

/-- An instant inside the last second before Unix time. -/
def beforeEpoch (nano : Nat) (h : nano < 1000000000) : Instant :=
  ⟨-1, nano, by decide, by decide, by omega⟩

/-- A value of a later instant first, then two values of one millisecond before Unix time, and one
of another device between them. -/
def outOfOrder : List Write :=
  [⟨1, .capacitance, 10, .epoch⟩, ⟨1, .capacitance, 20, beforeEpoch 999000001 (by decide)⟩,
    ⟨2, .capacitance, 30, .epoch⟩, ⟨1, .capacitance, 40, beforeEpoch 999999999 (by decide)⟩]

/-- At a millisecond that was written twice the last value is read, a range is read in the order of
time, and without a temperature there is no sample. -/
theorem range_out_of_order :
    (∀ w ∈ outOfOrder, w.Readable) ∧
    (∃ ps, (ofWrites outOfOrder).range 1 .capacitance (beforeEpoch 999999999 (by decide)) .epoch =
        .ok ps ∧
      Lists outOfOrder 1 .capacitance (fun ms => -1 ≤ ms ∧ ms ≤ 0) ps ∧
      ps = [⟨40, beforeEpoch 999000000 (by decide), .capacitance⟩, ⟨10, .epoch, .capacitance⟩]) ∧
    (ofWrites outOfOrder).range 1 .capacitance .epoch (beforeEpoch 0 (by decide)) = .ok [] ∧
    ((Service.Telemetry.latest .standard 1).run ⟨.empty, ofWrites outOfOrder, []⟩).1 =
      .error (.noTelemetry 1) := by
  have hws : ∀ w ∈ outOfOrder, w.Readable := by decide
  obtain ⟨hrange, -, hsample⟩ := series_refines_writes outOfOrder hws 1
  refine ⟨hws, ?_, ?_, ?_⟩
  · obtain ⟨ps, hps, hlists⟩ :=
      (hrange .capacitance (beforeEpoch 999999999 (by decide)) .epoch).2.1 (by decide)
    have hchannel : (ofWrites outOfOrder).channel 1 .capacitance =
        [⟨1, .capacitance, -1, 40⟩, ⟨1, .capacitance, 0, 10⟩] :=
      List.mergeSort_of_pairwise (by decide)
    rw [range_eq_ok hws 1 .capacitance (by decide), hchannel] at hps
    exact ⟨ps, by rw [range_eq_ok hws 1 .capacitance (by decide), hchannel, hps], hlists,
      (Except.ok.inj hps).symm⟩
  · exact (hrange .capacitance .epoch (beforeEpoch 0 (by decide))).1 (by decide)
  · obtain ⟨c, t, -, -, hrun, herror⟩ := (hsample .standard .empty []).1 fun _ => rfl
    rw [hrun]
    exact herror.2 (.inr (by decide))

end Series
end SoilWatch
