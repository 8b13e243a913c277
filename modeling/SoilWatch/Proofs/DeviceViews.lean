/-
# What is shown about devices

A history of requests describes the devices of its users without any store (`described`): there is
one device for each creation that succeeded, numbered in their order; it has the name of its last
renaming, or else of its creation, without the blanks around it; and it has the address with which
it was completed.  `Tiding` is what a reply tells of this.

The store holds exactly the devices that the history describes (`Told`).  A reply does to the rows
what it tells (`Change`), and it does the same to the description, since a tiding about a number is
about the device that has the number.  So what a user is shown, as a list or one by one, is read off
the history, and a device that is answered by a completion or a renaming is the one that is listed
from then on.
-/

import SoilWatch.Proofs.Atomicity
import SoilWatch.Proofs.Bus.Agreement
import SoilWatch.Proofs.Isolation
import SoilWatch.Proofs.Service.Turns

namespace SoilWatch
namespace Service

open SoilWatch.Flow

/-! ### What a history tells of devices -/

/-- A device that was created: for whom, under which name, and with which contract. -/
structure Creation where
  owner : Int
  name : String
  contract : String

/-- What a reply tells of devices. -/
inductive Tiding where
  | created (c : Creation)
  | renamed (userId id : Int) (name : String)
  | completed (id : Int) (address contract : String)

/-- What a reply tells of devices, if it tells something. -/
def Reply.tiding? : Reply → Option Tiding
  | ⟨_, .createDevice _ (some userId) name, .ok contract⟩ =>
    some (.created ⟨userId, name, contract⟩)
  | ⟨_, .rename (some userId) id name, .ok _⟩ => some (.renamed userId id name)
  | ⟨_, .completeDevice address contract, .ok d⟩ => some (.completed d.id address contract)
  | _ => none

/-- What a history tells of devices, in order. -/
def tidings (h : List Reply) : List Tiding :=
  h.filterMap Reply.tiding?

/-- The creation that was told of. -/
def Tiding.creation? : Tiding → Option Creation
  | created c => some c
  | _ => none

/-- The name that was given to the device with that number. -/
def Tiding.nameFor? (id : Int) : Tiding → Option String
  | renamed _ id' name => if id' = id then some name else none
  | _ => none

/-- The address to which the device with that number was bound. -/
def Tiding.addressFor? (id : Int) : Tiding → Option String
  | completed id' address _ => if id' = id then some address else none
  | _ => none

/-- The creations that succeeded, in order. -/
def creations (h : List Reply) : List Creation :=
  (tidings h).filterMap Tiding.creation?

/-- The names that a device was given after its creation, in order. -/
def namesFor (h : List Reply) (id : Int) : List String :=
  (tidings h).filterMap (Tiding.nameFor? id)

/-- The addresses to which a device was bound, in order. -/
def addressesFor (h : List Reply) (id : Int) : List String :=
  (tidings h).filterMap (Tiding.addressFor? id)

/-- The device that was created so and got that number, as the history describes it. -/
def Creation.device (c : Creation) (h : List Reply) (id : Int) : Device where
  id := id
  userId := c.owner
  address := (addressesFor h id).getLast?
  displayName := Text.trim ((namesFor h id).getLast?.getD c.name)

/-- **The devices that a history describes:** one for each creation, numbered from `n + 1` on. -/
def described (n : Int) (h : List Reply) : List Device :=
  (creations h).zipIdx.map fun c => c.1.device h (n + c.2 + 1)

/-- **The devices of a user that a history describes:** one for each creation of the user. -/
def listed (n : Int) (h : List Reply) (u : Int) : List Device :=
  ((creations h).zipIdx.filter (·.1.owner = u)).map fun c => c.1.device h (n + c.2 + 1)

/-- The creation that gave a device that number. -/
def CreatedAs (n : Int) (h : List Reply) (id : Int) (c : Creation) : Prop :=
  ∃ i : Nat, (creations h)[i]? = some c ∧ id = n + i + 1

section History

variable {n id u : Int} {h h' : List Reply} {r : Reply} {c : Creation} {d : Device}

theorem listed_eq (n : Int) (h : List Reply) (u : Int) :
    listed n h u = (described n h).filter (·.userId = u) := by
  rw [described, List.filter_map]
  rfl

theorem mem_described : d ∈ described n h ↔ ∃ c, CreatedAs n h d.id c ∧ d = c.device h d.id := by
  simp only [described, CreatedAs, List.mem_map, Prod.exists, List.mem_zipIdx_iff_getElem?]
  constructor
  · rintro ⟨c, i, hc, rfl⟩
    exact ⟨c, ⟨i, hc, rfl⟩, rfl⟩
  · rintro ⟨c, ⟨i, hc, hid⟩, hd⟩
    exact ⟨c, i, hc, by rw [← hid, ← hd]⟩

theorem mem_listed : d ∈ listed n h u ↔ d ∈ described n h ∧ d.userId = u := by
  rw [listed_eq, List.mem_filter, decide_eq_true_iff]

/-- A creation that has given a number stays the one that has given it. -/
theorem CreatedAs.append (hc : CreatedAs n h id c) : CreatedAs n (h ++ h') id c := by
  obtain ⟨i, hi, hid⟩ := hc
  refine ⟨i, ?_, hid⟩
  rw [creations, tidings, List.filterMap_append, List.filterMap_append]
  exact (List.getElem?_append_left (List.getElem?_eq_some_iff.1 hi).1).trans hi

theorem CreatedAs.le (hc : CreatedAs n h id c) : id ≤ n + (creations h).length := by
  obtain ⟨i, hi, rfl⟩ := hc
  have := (List.getElem?_eq_some_iff.1 hi).1
  omega

/-- With a reply there is one more tiding at most. -/
theorem filterMap_tidings_append {α : Type} (f : Tiding → Option α) :
    (tidings (h ++ [r])).filterMap f =
      (tidings h).filterMap f ++ (r.tiding?.bind f).toList := by
  rw [tidings, List.filterMap_append, List.filterMap_append, ← tidings]
  cases hr : r.tiding? with
  | none => simp [hr]
  | some t => cases hf : f t <;> simp [hr, hf]

theorem creations_append : creations (h ++ [r]) =
    creations h ++ (r.tiding?.bind Tiding.creation?).toList :=
  filterMap_tidings_append _

theorem namesFor_append : namesFor (h ++ [r]) id =
    namesFor h id ++ (r.tiding?.bind (Tiding.nameFor? id)).toList :=
  filterMap_tidings_append _

theorem addressesFor_append : addressesFor (h ++ [r]) id =
    addressesFor h id ++ (r.tiding?.bind (Tiding.addressFor? id)).toList :=
  filterMap_tidings_append _

theorem mem_tidings_append {t : Tiding} :
    t ∈ tidings (h ++ [r]) ↔ t ∈ tidings h ∨ r.tiding? = some t := by
  rw [tidings, List.filterMap_append, List.mem_append]
  cases hr : r.tiding? <;> simp [hr, tidings, eq_comm]

/-- A reply that tells of no creation changes the devices one by one. -/
theorem described_append_map {f : Device → Device} (hr : r.tiding?.bind Tiding.creation? = none)
    (hf : ∀ (c : Creation) id, c.device (h ++ [r]) id = f (c.device h id)) :
    described n (h ++ [r]) = (described n h).map f := by
  rw [described, creations_append, hr, Option.toList_none, List.append_nil, described, List.map_map]
  exact List.map_congr_left fun c _ => hf c.1 _

/-- A creation puts one more device behind the others. -/
theorem described_append_created (hr : r.tiding? = some (.created c)) :
    described n (h ++ [r]) =
      described n h ++ [c.device h (n + (creations h).length + 1)] := by
  -- A creation gives no name and no address to a device that is there.
  have hdevice (c : Creation) (id : Int) : c.device (h ++ [r]) id = c.device h id := by
    simp [Creation.device, namesFor_append, addressesFor_append, hr, Tiding.nameFor?,
      Tiding.addressFor?]
  rw [described, creations_append, hr]
  simp [described, List.zipIdx_append, Tiding.creation?, hdevice]

/-- A new name is the name of the device with that number. -/
theorem device_append_renamed {name : String} (hr : r.tiding? = some (.renamed u id name))
    (c : Creation) (id' : Int) : c.device (h ++ [r]) id' =
      Provisioning.named id (Text.trim name) (c.device h id') := by
  simp only [Creation.device, namesFor_append, addressesFor_append, hr, Option.bind_some,
    Tiding.nameFor?, Tiding.addressFor?, Provisioning.named, Option.toList_none, List.append_nil]
  by_cases hid : id = id'
  · simp [hid]
  · simp [hid, Ne.symm hid]

/-- An address is the address of the device with that number. -/
theorem device_append_completed {address contract : String}
    (hr : r.tiding? = some (.completed id address contract)) (c : Creation) (id' : Int) :
    c.device (h ++ [r]) id' =
      if id' = id then { c.device h id' with address := some address } else c.device h id' := by
  simp only [Creation.device, namesFor_append, addressesFor_append, hr, Option.bind_some,
    Tiding.nameFor?, Tiding.addressFor?, Option.toList_none, List.append_nil]
  by_cases hid : id = id'
  · simp [hid]
  · simp [hid, Ne.symm hid]

end History

/-! ### What a request does to devices -/

namespace Provisioning

variable {s s' : System} {who : Caller} {id : Int} {name address contract : String} {d : Device}

/-- A name is kept without the blanks around it, unless nothing is left. -/
theorem displayName_eq_ok {kept : String} :
    (displayName name).run s = (.ok kept, s') ↔
      Text.trim name ≠ "" ∧ kept = Text.trim name ∧ s' = s := by
  unfold displayName
  dsimp only
  split_ifs with hempty
  · simp only [String.isEmpty_iff] at hempty
    simp [hempty, Flow.run_fail]
  · simp only [String.isEmpty_iff] at hempty
    simp [hempty, Flow.run_pure, eq_comm]

/-- A creation that succeeds has added a device of the user who asked, with the contract. -/
theorem of_createDevice {random : Octets}
    (h : (createDevice random who name).run s = (.ok contract, s')) :
    ∃ u, who = some u ∧ Text.trim name ≠ "" ∧
      s'.store = s.store.addDevice u (Text.trim name) contract := by
  cases who with
  | none => cases h
  | some u =>
    obtain ⟨_, _, hwho, hasked⟩ := run_bind_eq_ok.1 h
    cases hwho
    obtain ⟨kept, t, hkept, hrest⟩ := run_bind_eq_ok.1 hasked
    obtain ⟨hname, rfl, ht⟩ := displayName_eq_ok.1 hkept
    subst t
    obtain ⟨d, t, hcreate, hanswer⟩ := run_bind_eq_ok.1 hrest
    have hrun := of_run_onStore (.createDevice u (Text.trim name) (contractOf random)) hcreate
    obtain ⟨-, -, -, -, -, hs'⟩ := Store.createDevice_eq_ok.1 hrun
    rw [run_pure] at hanswer
    obtain ⟨hcontract, ht⟩ := Prod.mk.inj hanswer
    subst t
    rw [← Except.ok.inj hcontract]
    exact ⟨u, rfl, hname, hs'⟩

/-- **A renaming that succeeds** has given a device of the user who asked its new name, and answers
with the device as it is now. -/
theorem of_rename (hs : s.store.Sound) (h : (rename who id name).run s = (.ok d, s')) :
    ∃ d₀ ∈ s.store.devices, who = some d₀.userId ∧ d₀.id = id ∧ Text.trim name ≠ "" ∧
      d = named id (Text.trim name) d₀ ∧ s' = setName s id (Text.trim name) := by
  obtain ⟨kept, t, hkept, hrest⟩ := run_bind_eq_ok.1 h
  obtain ⟨hname, rfl, ht⟩ := displayName_eq_ok.1 hkept
  subst t
  obtain ⟨d₀, t, hd₀, hstored⟩ := run_bind_eq_ok.1 hrest
  have ht : t = s := by
    have hlooks : (device who id).Looks := steps_device (fun _ => rfl) who id
    simpa [hd₀] using hlooks.run_snd s
  subst t
  cases who with
  | none => cases hd₀
  | some u =>
    obtain ⟨hmem, hid, hu⟩ := device_eq_ok hs hd₀
    subst id u
    obtain ⟨renamed, t, hrenamed, hanswer⟩ := run_bind_eq_ok.1 hstored
    rw [run_renameDevice s hmem] at hrenamed
    split_ifs at hrenamed
    · cases (Prod.mk.inj hrenamed).1
    · obtain ⟨hrenamed, ht⟩ := Prod.mk.inj hrenamed
      obtain rfl := Except.ok.inj hrenamed
      rw [if_pos rfl, run_pure] at hanswer
      obtain ⟨hd, hs'⟩ := Prod.mk.inj hanswer
      exact ⟨d₀, hmem, rfl, rfl, hname, (Except.ok.inj hd).symm.trans (if_pos rfl).symm,
        hs'.symm.trans ht.symm⟩

/-- **A completion that succeeds** has bound the device of the contract, and answers with the device
as it is now. -/
theorem of_completeDevice (h : (completeDevice address contract).run s = (.ok d, s')) :
    ⟨d.id, contract⟩ ∈ s.store.staging ∧ d ∈ s'.store.devices ∧
      s'.store = s.store.bindAddress d.id address := by
  have hcompletes := (Bus.completes_of_run h).1
  generalize s'.store = t at hcompletes ⊢
  obtain _ | _ | @⟨staged, _, hstaged, -, -, -, hf⟩ := hcompletes
  have hid : d.id = staged.deviceId := by simpa using List.find?_some hf
  have hcontract : staged.contract = contract := by simpa using List.find?_some hstaged
  rw [hid, ← hcontract]
  exact ⟨List.mem_of_find?_eq_some hstaged, List.mem_of_find?_eq_some hf, rfl⟩

end Provisioning

/-- What becomes of devices and contracts when a reply tells this. -/
inductive Change (s s' : Store) : Option Tiding → Prop where
  | created (c : Creation) (hname : Text.trim c.name ≠ "")
      (h : s' = s.addDevice c.owner (Text.trim c.name) c.contract) : Change s s' (some (.created c))
  | renamed (d : Device) (name : String) (hd : d ∈ s.devices) (hname : Text.trim name ≠ "")
      (h : s' = s.setName d.id (Text.trim name)) : Change s s' (some (.renamed d.userId d.id name))
  | completed (id : Int) (address contract : String) (hrow : ⟨id, contract⟩ ∈ s.staging)
      (h : s' = s.bindAddress id address) : Change s s' (some (.completed id address contract))
  | quiet (hd : s.SameTable s' .devices) (hc : s.SameTable s' .staging) : Change s s' none

/-- **What a request does to devices is what its reply tells.** -/
theorem Request.change (setup : Setup) (r : Request) {s : System} (hs : s.store.Sound) :
    Change s.store ((r.call setup).run s).2.store
      (Reply.tiding? ⟨setup, r, ((r.call setup).run s).1⟩) := by
  have hsame (hd : ∀ op, r.Uses op → .devices ∉ op.writes)
      (hc : ∀ op, r.Uses op → .staging ∉ op.writes) :
      Change s.store ((r.call setup).run s).2.store none :=
    .quiet (r.run_same setup hd s) (r.run_same setup hc s)
  cases r with
  | createDevice random who name =>
    rcases hr : ((createDevice random who name).call setup).run s with ⟨e | contract, s'⟩
    · have hstore : s'.store = s.store := (createDevice random who name).failsTo s e s' hr
      cases who <;> exact hstore ▸ .quiet (.refl _ _) (.refl _ _)
    · obtain ⟨u, rfl, hname, hs'⟩ := Provisioning.of_createDevice hr
      exact .created ⟨u, name, contract⟩ hname hs'
  | completeDevice address contract =>
    rcases hr : ((completeDevice address contract).call setup).run s with ⟨e | d, s'⟩
    · have hstore : s'.store = s.store := (completeDevice address contract).failsTo s e s' hr
      exact hstore ▸ .quiet (.refl _ _) (.refl _ _)
    · obtain ⟨hrow, -, hs'⟩ := Provisioning.of_completeDevice hr
      exact .completed d.id address contract hrow hs'
  | rename who id name =>
    rcases hr : ((rename who id name).call setup).run s with ⟨e | d, s'⟩
    · have hstore : s'.store = s.store := (rename who id name).failsTo s e s' hr
      cases who <;> exact hstore ▸ .quiet (.refl _ _) (.refl _ _)
    · obtain ⟨d₀, hd₀, rfl, rfl, hname, -, rfl⟩ := Provisioning.of_rename hs hr
      exact .renamed d₀ name hd₀ hname rfl
  | _ =>
    refine hsame ?_ ?_ <;>
      · rintro _ ⟨⟩
        all_goals simp [Store.Operation.writes]

/-! ### What a run keeps -/

/-- A tiding fits a history: who renames a device is its owner, and a device is completed with the
contract of its creation. -/
def Tiding.Fits (n : Int) (h : List Reply) : Tiding → Prop
  | created _ => True
  | renamed userId id _ => ∃ c, CreatedAs n h id c ∧ c.owner = userId
  | completed id _ contract => ∃ c, CreatedAs n h id c ∧ c.contract = contract

/-- **The store has the devices that the history describes,** and the history fits them. -/
structure Told (n : Int) (h : List Reply) (s : Store) : Prop where
  sound : s.Sound
  devices : s.devices = described n h
  counted : s.counters.devices = n + (creations h).length
  staged : ∀ row ∈ s.staging, ∃ c, CreatedAs n h row.deviceId c ∧ c.contract = row.contract
  fits : ∀ t ∈ tidings h, t.Fits n h
  once : ∀ id, (addressesFor h id).length ≤ 1
  named : ∀ d ∈ s.devices, d.displayName ≠ ""

section Step

variable {n : Int} {h h' : List Reply} {r : Reply} {s s' : Store} {t : Tiding}

theorem Tiding.Fits.append (ht : t.Fits n h) : t.Fits n (h ++ h') := by
  cases t with
  | created => trivial
  | renamed | completed =>
    obtain ⟨c, hc, heq⟩ := ht
    exact ⟨c, hc.append, heq⟩

/-- Nothing was told of a number that was not given. -/
theorem Told.fresh (ht : Told n h s) (id : Int) (hid : n + (creations h).length < id) :
    namesFor h id = [] ∧ addressesFor h id = [] := by
  constructor
  · refine List.filterMap_eq_nil_iff.2 fun t hmem => ?_
    cases t with
    | created | completed => rfl
    | renamed =>
      obtain ⟨c, hc, -⟩ := ht.fits _ hmem
      have := hc.le
      exact if_neg (by omega)
  · refine List.filterMap_eq_nil_iff.2 fun t hmem => ?_
    cases t with
    | created | renamed => rfl
    | completed =>
      obtain ⟨c, hc, -⟩ := ht.fits _ hmem
      have := hc.le
      exact if_neg (by omega)

/-- A store without devices has none that a history would describe. -/
theorem told_nil (hs : s.Sound) (hnone : s.devices = []) : Told s.counters.devices [] s where
  sound := hs
  devices := hnone
  counted := (Int.add_zero _).symm
  staged row hrow := by
    obtain ⟨d, hd, -⟩ := hs.lifecycle.owned row hrow
    rw [hnone] at hd
    cases hd
  fits _ ht := absurd ht List.not_mem_nil
  once _ := Nat.zero_le _
  named d hd := by
    rw [hnone] at hd
    cases hd

/-- A reply that creates nothing keeps both in agreement if it changes both alike. -/
theorem Told.mapped (ht : Told n h s) (hs' : s'.Sound) {f : Device → Device}
    (hr : r.tiding?.bind Tiding.creation? = none)
    (hf : ∀ (c : Creation) id, c.device (h ++ [r]) id = f (c.device h id))
    (hd : s'.devices = s.devices.map f) (hn : s'.counters.devices = s.counters.devices)
    (hc : s'.staging ⊆ s.staging) (hfits : ∀ t, r.tiding? = some t → t.Fits n h)
    (honce : ∀ id, (addressesFor (h ++ [r]) id).length ≤ 1)
    (hnamed : ∀ d ∈ s.devices, (f d).displayName ≠ "") : Told n (h ++ [r]) s' where
  sound := hs'
  devices := by rw [hd, ht.devices, described_append_map hr hf]
  counted := by rw [hn, ht.counted, creations_append, hr, Option.toList_none, List.append_nil]
  staged row hrow := by
    obtain ⟨c, hc, hcontract⟩ := ht.staged row (hc hrow)
    exact ⟨c, hc.append, hcontract⟩
  fits t hmem := by
    rcases mem_tidings_append.1 hmem with hmem | hmem
    · exact (ht.fits t hmem).append
    · exact (hfits t hmem).append
  once := honce
  named := by
    rw [hd, List.forall_mem_map]
    exact hnamed

/-- A reply that tells nothing of devices changes nothing about them. -/
theorem Told.quiet (ht : Told n h s) (hs' : s'.Sound) (hr : r.tiding? = none)
    (hd : s.SameTable s' .devices) (hc : s.SameTable s' .staging) : Told n (h ++ [r]) s' := by
  refine ht.mapped hs' (f := id) (by rw [hr]; rfl) (fun c id => ?_)
    (by rw [List.map_id]; exact hd.1) hd.2
    (fun row hrow => by rwa [← show s'.staging = s.staging from hc]) (by simp [hr])
    (fun id => ?_) ht.named
  · simp [Creation.device, namesFor_append, addressesFor_append, hr]
  · simpa [addressesFor_append, hr] using ht.once id

/-- A device that is created is the next that the history describes. -/
theorem Told.created (ht : Told n h s) (hs' : s'.Sound) {c : Creation}
    (hr : r.tiding? = some (.created c)) (hname : Text.trim c.name ≠ "")
    (h' : s' = s.addDevice c.owner (Text.trim c.name) c.contract) : Told n (h ++ [r]) s' := by
  have hcreations : creations (h ++ [r]) = creations h ++ [c] := by
    rw [creations_append, hr]
    rfl
  have hdevice : s.newDevice c.owner (Text.trim c.name) =
      c.device h (n + (creations h).length + 1) := by
    obtain ⟨hnames, haddresses⟩ := ht.fresh (n + (creations h).length + 1) (by omega)
    simp [Creation.device, hnames, haddresses, Store.newDevice, ht.counted]
  subst h'
  exact {
    sound := hs'
    devices := by
      rw [described_append_created hr, ← ht.devices, ← hdevice]
      rfl
    counted := by
      show s.counters.devices + 1 = _
      rw [ht.counted, hcreations, List.length_append]
      simp only [List.length_singleton]
      omega
    staged := by
      intro row hrow
      rcases List.mem_append.1 hrow with hrow | hrow
      · obtain ⟨c', hc', hcontract⟩ := ht.staged row hrow
        exact ⟨c', hc'.append, hcontract⟩
      · rw [List.mem_singleton.1 hrow]
        exact ⟨c, ⟨(creations h).length, by rw [hcreations]; simp, by rw [ht.counted]⟩, rfl⟩
    fits := by
      intro t hmem
      rcases mem_tidings_append.1 hmem with hmem | hmem
      · exact (ht.fits t hmem).append
      · obtain rfl := Option.some.inj (hr.symm.trans hmem)
        trivial
    once := fun id => by simpa [addressesFor_append, hr, Tiding.addressFor?] using ht.once id
    named := by
      intro d hd
      rcases List.mem_append.1 hd with hd | hd
      · exact ht.named d hd
      · rw [List.mem_singleton.1 hd]
        exact hname }

/-- A device that is renamed has the new name in the description, too. -/
theorem Told.renamed (ht : Told n h s) (hs' : s'.Sound) {d : Device} {name : String}
    (hr : r.tiding? = some (.renamed d.userId d.id name)) (hd : d ∈ s.devices)
    (hname : Text.trim name ≠ "") (h' : s' = s.setName d.id (Text.trim name)) :
    Told n (h ++ [r]) s' := by
  subst h'
  refine ht.mapped hs' (by rw [hr]; rfl) (device_append_renamed hr) rfl rfl (List.Subset.refl _)
    (fun t htold => ?_) (fun id => ?_) fun d' hd' => ?_
  · obtain rfl := Option.some.inj (hr.symm.trans htold)
    rw [ht.devices] at hd
    obtain ⟨c, hc, heq⟩ := mem_described.1 hd
    exact ⟨c, hc, by rw [heq]; rfl⟩
  · simpa [addressesFor_append, hr, Tiding.addressFor?] using ht.once id
  · unfold Provisioning.named
    split_ifs
    · exact hname
    · exact ht.named d' hd'

/-- A device that is completed has its address in the description, too, and had none before. -/
theorem Told.completed (ht : Told n h s) (hs' : s'.Sound) {id : Int} {address contract : String}
    (hr : r.tiding? = some (.completed id address contract)) (hrow : ⟨id, contract⟩ ∈ s.staging)
    (h' : s' = s.bindAddress id address) : Told n (h ++ [r]) s' := by
  obtain ⟨c, hc, hcontract⟩ := ht.staged _ hrow
  -- A device whose contract is out has no address, so the history tells of none either.
  have hunbound : addressesFor h id = [] := by
    have hd : c.device h id ∈ s.devices := by
      rw [ht.devices]
      exact mem_described.2 ⟨c, hc, rfl⟩
    exact List.getLast?_eq_none_iff.1 (ht.sound.lifecycle.address_eq_none hd hrow rfl)
  subst h'
  refine ht.mapped hs' (by rw [hr]; rfl) (device_append_completed hr) rfl rfl
    (List.filter_subset_self _) (fun t htold => ?_) (fun id' => ?_) fun d' hd' => ?_
  · obtain rfl := Option.some.inj (hr.symm.trans htold)
    exact ⟨c, hc, hcontract⟩
  · rw [addressesFor_append, hr, Option.bind_some, Tiding.addressFor?]
    split_ifs with hid
    · rw [← hid, hunbound]
      exact Nat.le_refl 1
    · simpa using ht.once id'
  · have hnamed := ht.named d' hd'
    split_ifs <;> exact hnamed

/-- **A reply keeps store and history in agreement.** -/
theorem Told.step (ht : Told n h s) (hs' : s'.Sound) (hc : Change s s' r.tiding?) :
    Told n (h ++ [r]) s' := by
  generalize htold : r.tiding? = told at hc
  cases hc with
  | created c hname h => exact ht.created hs' htold hname h
  | renamed d name hd hname h => exact ht.renamed hs' htold hd hname h
  | completed id address contract hrow h => exact ht.completed hs' htold hrow h
  | quiet hd hc => exact ht.quiet hs' htold hd hc

end Step

/-- **Store and history agree after every run.** -/
theorem told_served {start : System} (hstart : start.store.Sound)
    (hnone : start.store.devices = []) (run : List Turn) :
    Told start.store.counters.devices (replies start run) (served start run).store := by
  refine turns_induction (P := fun _ h s => Told start.store.counters.devices h s.store)
    (told_nil hstart hnone) (fun run h s setup r ht => ?_) (fun run h s events ht => ?_) run
  · exact ht.step (r.sound setup ht.sound) (r.change setup ht.sound)
  · exact { ht with sound := ht.sound.refused events }

/-! ### What is shown -/

/-- **What is shown about devices is what the history describes.**  A user is shown the devices that
are listed for the user, in the order of their creation, and each of them under its number; every
other number is answered like one that no device has.  A device was completed at most once, with the
contract of its creation, and renamed by its owner only.  A device that a completion or a renaming
answers with is the one that is listed and shown from then on. -/
structure Views (n : Int) (h : List Reply) (s : System) : Prop where
  all : ∀ u, (Provisioning.devices (some u)).run s = (.ok (listed n h u), s)
  increasing : ∀ u, (listed n h u).Pairwise (·.id < ·.id)
  named : ∀ u, ∀ d ∈ listed n h u, d.displayName ≠ ""
  one : ∀ u id d, (Provisioning.device (some u) id).run s = (.ok d, s) ↔
    d ∈ listed n h u ∧ d.id = id
  missing : ∀ u id, (∀ d ∈ listed n h u, d.id ≠ id) →
    (Provisioning.device (some u) id).run s = (.error (.notFound "device"), s)
  once : ∀ id, (addressesFor h id).length ≤ 1
  fits : ∀ t ∈ tidings h, t.Fits n h
  completed : ∀ setup address contract d s',
    (Provisioning.completeDevice address contract).run s = (.ok d, s') →
      d ∈ listed n (h ++ [⟨setup, .completeDevice address contract, .ok d⟩]) d.userId ∧
      (Provisioning.device (some d.userId) d.id).run s' = (.ok d, s')
  renamed : ∀ setup who id name d s', (Provisioning.rename who id name).run s = (.ok d, s') →
    who = some d.userId ∧ d.id = id ∧
      d ∈ listed n (h ++ [⟨setup, .rename who id name, .ok d⟩]) d.userId ∧
      (Provisioning.device (some d.userId) d.id).run s' = (.ok d, s')

section Views

variable {n : Int} {h : List Reply} {s s' : System} {d : Device}

/-- A device under a number is shown to its owner. -/
theorem Told.run_device_eq_ok (ht : Told n h s.store) {u id : Int} :
    (Provisioning.device (some u) id).run s = (.ok d, s) ↔ d ∈ listed n h u ∧ d.id = id := by
  rw [mem_listed, ← ht.devices]
  constructor
  · intro hrun
    obtain ⟨hd, hid, hu⟩ := Provisioning.device_eq_ok ht.sound hrun
    exact ⟨⟨hd, hu⟩, hid⟩
  · rintro ⟨⟨hd, hu⟩, hid⟩
    rw [Provisioning.run_device, (ownDevice_eq_some ht.sound).2 ⟨hd, hid, hu⟩]

/-- A device of the store is listed for its owner, and shown. -/
theorem Told.shown (ht : Told n h s.store) (hd : d ∈ s.store.devices) :
    d ∈ listed n h d.userId ∧ (Provisioning.device (some d.userId) d.id).run s = (.ok d, s) := by
  have hlisted : d ∈ listed n h d.userId := mem_listed.2 ⟨ht.devices ▸ hd, rfl⟩
  exact ⟨hlisted, ht.run_device_eq_ok.2 ⟨hlisted, rfl⟩⟩

/-- Store and history agree behind a request that succeeds. -/
theorem Told.answered (ht : Told n h s.store) (setup : Setup) (r : Request) {a : r.Answer}
    (hr : (r.call setup).run s = (.ok a, s')) : Told n (h ++ [⟨setup, r, .ok a⟩]) s'.store := by
  have hs' := r.sound setup ht.sound
  have hchange := r.change setup ht.sound
  rw [hr] at hs' hchange
  exact ht.step hs' hchange

/-- **What agrees with the history is shown as the history describes it.** -/
theorem Told.views (ht : Told n h s.store) : Views n h s where
  all u := by
    show (Except.ok (s.store.devicesOf u), s) = _
    rw [listed_eq, ← ht.devices]
    rfl
  increasing u := by
    rw [listed_eq, ← ht.devices]
    exact ht.sound.ordered.filter _
  named u d hd := ht.named d (ht.devices ▸ (mem_listed.1 hd).1)
  one u id d := ht.run_device_eq_ok
  missing u id hnone := by
    rw [Provisioning.run_device]
    cases hfound : (s.store.deviceById? id).filter (·.userId = u) with
    | none => rfl
    | some d =>
      obtain ⟨hd, hid, hu⟩ := (ownDevice_eq_some ht.sound).1 hfound
      exact absurd hid (hnone d (mem_listed.2 ⟨ht.devices ▸ hd, hu⟩))
  once := ht.once
  fits := ht.fits
  completed setup address contract d s' hrun :=
    (ht.answered setup (.completeDevice address contract) hrun).shown
      (Provisioning.of_completeDevice hrun).2.1
  renamed setup who id name d s' hrun := by
    obtain ⟨d₀, hd₀, rfl, rfl, -, rfl, rfl⟩ := Provisioning.of_rename ht.sound hrun
    have hd : Provisioning.named d₀.id (Text.trim name) d₀ ∈
        (Provisioning.setName s d₀.id (Text.trim name)).store.devices := List.mem_map_of_mem hd₀
    have hanswered := ht.answered setup (.rename (some d₀.userId) d₀.id name) hrun
    have hshown := hanswered.shown hd
    rw [Provisioning.named_userId, Provisioning.named_id] at hshown ⊢
    exact ⟨rfl, rfl, hshown⟩

end Views

/-- **What is shown about devices follows the history.**  From every store at which a run can arrive
and that has no devices, whoever is registered, and behind every sequential run of requests of any
users, whatever the store refuses in between. -/
theorem device_views_refine_history (start : System) (hstart : start.store.Sound)
    (hnone : start.store.devices = []) (run : List Turn) :
    Views start.store.counters.devices (replies start run) (served start run) :=
  (told_served hstart hnone run).views

/-- A store with two users. -/
def twoUsers : Store :=
  Store.empty.after [.call (.createUser "ann@example.com" "hash" "Ann" .epoch),
    .call (.createUser "bob@example.com" "hash" "Bob" .epoch)]

/-- The users create three devices; one of Ann's is renamed, by her and not by Bob, and the other is
completed. -/
def threePlants : List Turn :=
  [.serve .standard (.createDevice [1] (some 1) " Fern"),
    .serve .standard (.createDevice [2] (some 2) "Moss"),
    .serve .standard (.createDevice [3] (some 1) "Oak\n"),
    .serve .standard (.rename (some 2) 1 "Mine"),
    .serve .standard (.rename (some 1) 1 "\tIvy "),
    .serve .standard (.completeDevice "a1" (Provisioning.contractOf [3]))]

/-- Ann is shown her two devices under their last names, and not the device of Bob. -/
theorem ann_sees_ivy_and_oak :
    twoUsers.Sound ∧ twoUsers.devices = [] ∧
    (Provisioning.devices (some 1)).run (served ⟨twoUsers, .empty, []⟩ threePlants) =
      (.ok [⟨1, 1, none, "Ivy"⟩, ⟨3, 1, some "a1", "Oak"⟩],
        served ⟨twoUsers, .empty, []⟩ threePlants) ∧
    (Provisioning.device (some 1) 2).run (served ⟨twoUsers, .empty, []⟩ threePlants) =
      (.error (.notFound "device"), served ⟨twoUsers, .empty, []⟩ threePlants) := by
  have hsound : twoUsers.Sound := Store.sound_after _
  have hnone : twoUsers.devices = [] := rfl
  have hviews := device_views_refine_history ⟨twoUsers, .empty, []⟩ hsound hnone threePlants
  have hlisted : listed twoUsers.counters.devices
      (replies ⟨twoUsers, .empty, []⟩ threePlants) 1 =
        [⟨1, 1, none, "Ivy"⟩, ⟨3, 1, some "a1", "Oak"⟩] := by
    rfl
  refine ⟨hsound, hnone, (hviews.all 1).trans (by rw [hlisted]), hviews.missing 1 2 ?_⟩
  rw [hlisted]
  decide

end Service
end SoilWatch
