/-
# How a completion is decided

A device presents a contract and a hardware address.  What becomes of this is decided by three
questions: is the contract out for a device, does another device have the address, and if neither
stands in the way, which row is it that gets the address (`Decides`).  The outcome says which of the
three ways it went, and there is always an outcome: in a sound store that refuses no event a
completion does not fail (`Sound.exists_completes`).

`Completes` lists the ways in which a completion commits, with the searches that it makes in the
tables.  Here the searches are gone.  Since a device has one contract at most and its number tells
it from all others, the rows that are searched for and the rows that are changed are the same, and
the store behind a completion is the old one but for one row of each of two tables (`consume`).
-/

import SoilWatch.Proofs.Store.Addresses
import SoilWatch.Service.Provisioning

namespace SoilWatch
namespace Store

variable {s s' : Store} {contract address : String} {d other : Device} {out : Outcome}

/-- A contract is out for a device. -/
def Stages (s : Store) (contract : String) (d : Device) : Prop :=
  d ∈ s.devices ∧ ⟨d.id, contract⟩ ∈ s.staging

/-- A device other than `d` has an address. -/
def TakenBy (s : Store) (address : String) (d other : Device) : Prop :=
  other ∈ s.devices ∧ other.address = some address ∧ other.id ≠ d.id

/-- A device with an address. -/
def bound (d : Device) (address : String) : Device :=
  { d with address := some address }

/-- The store in which a device has an address and its contract is gone. -/
def consume (s : Store) (contract address : String) (d : Device) : Store :=
  { s with
    devices := s.devices.map fun x => if x = d then bound d address else x
    staging := s.staging.filter (· ≠ ⟨d.id, contract⟩) }

/-- **What decides a completion.**  The contract is unknown if no row has it; the address is in use
if another device than the one of the contract has it; and otherwise the device of the contract is
completed.  Only the last changes the store, and then the device is found under its address and its
number, and the contract is unknown. -/
structure Decides (s : Store) (contract address : String) (out : Outcome) (s' : Store) : Prop where
  unknown : out = .unknownContract ↔ ∀ r ∈ s.staging, r.contract ≠ contract
  inUse : ∀ id, out = .addressInUse id ↔
    ∃ d other, s.Stages contract d ∧ s.TakenBy address d other ∧ other.id = id
  completed : ∀ device, out = .completed device ↔
    ∃ d, s.Stages contract d ∧ (∀ other, ¬ s.TakenBy address d other) ∧ device = bound d address
  unchanged : (∀ device, out ≠ .completed device) → s' = s
  consumed : ∀ d, s.Stages contract d → out = .completed (bound d address) →
    s' = s.consume contract address d ∧ s'.deviceByAddress? address = some (bound d address) ∧
      s'.deviceById? d.id = some (bound d address) ∧ ∀ r ∈ s'.staging, r.contract ≠ contract

/-! ### The rows of a contract -/

/-- A contract that is found is out for a device. -/
theorem Sound.stages_of_found (hs : s.Sound) {staged : StagingRow}
    (h : s.stagingByContract? contract = some staged) :
    ∃ d, s.Stages contract d ∧ d.id = staged.deviceId := by
  have hmem : staged ∈ s.staging := List.mem_of_find?_eq_some h
  have hcontract : staged.contract = contract := by simpa using List.find?_some h
  obtain ⟨d, hd, hid⟩ := hs.lifecycle.owned staged hmem
  refine ⟨d, ⟨hd, ?_⟩, hid⟩
  rw [hid, ← hcontract]
  exact hmem

/-- The row of a contract is found. -/
theorem Sound.found_of_stages (hs : s.Sound) (h : s.Stages contract d) :
    s.stagingByContract? contract = some ⟨d.id, contract⟩ :=
  hs.consistent.contracts.find?_eq_some h.2 rfl

/-- A contract is out for one device. -/
theorem Sound.eq_of_stages (hs : s.Sound) (h : s.Stages contract d) (h' : s.Stages contract other) :
    d = other := by
  have hrow := (hs.found_of_stages h).symm.trans (hs.found_of_stages h')
  exact hs.lifecycle.eq_of_id_eq h.1 h'.1 (congrArg StagingRow.deviceId (Option.some.inj hrow))

/-- The contract that is out for a device is its only one. -/
theorem Sound.eq_row_of_stages (hs : s.Sound) (h : s.Stages contract d) {r : StagingRow}
    (hr : r ∈ s.staging) (hid : r.deviceId = d.id) : r = ⟨d.id, contract⟩ := by
  have hrow : r ∈ s.contractsOf d.id := List.mem_filter.2 ⟨hr, by simpa using hid⟩
  have hstaged : ⟨d.id, contract⟩ ∈ s.contractsOf d.id := List.mem_filter.2 ⟨h.2, by simp⟩
  rcases hs.lifecycle.inPhase d h.1 with ⟨-, hone⟩ | ⟨-, hnone⟩
  · obtain ⟨row, hrow'⟩ := List.length_eq_one_iff.1 hone
    rw [hrow', List.mem_singleton] at hrow hstaged
    rw [hrow, hstaged]
  · rw [hnone] at hrow
    cases hrow

/-- Binding the device of a contract changes its row and takes its contract, and nothing else. -/
theorem Sound.bindAddress_eq_consume (hs : s.Sound) (h : s.Stages contract d) (address : String) :
    s.bindAddress d.id address = s.consume contract address d := by
  have hdevices : s.devices.map (fun x => if x.id = d.id then { x with address := some address }
      else x) = s.devices.map fun x => if x = d then bound d address else x := by
    refine List.map_congr_left fun x hx => ?_
    by_cases hid : x.id = d.id
    · obtain rfl := hs.lifecycle.eq_of_id_eq hx h.1 hid
      rw [if_pos rfl, if_pos rfl, bound]
    · have hne : x ≠ d := fun heq => hid (congrArg Device.id heq)
      rw [if_neg hid, if_neg hne]
  have hstaging : s.staging.filter (·.deviceId ≠ d.id) =
      s.staging.filter (· ≠ ⟨d.id, contract⟩) := by
    refine List.filter_congr fun r hr => decide_eq_decide.2 (not_congr ?_)
    exact ⟨hs.eq_row_of_stages h hr, congrArg StagingRow.deviceId⟩
  rw [bindAddress, consume, hdevices, hstaging]

/-- An address that no other device has is free for the device. -/
theorem free_of_not_takenBy (h : ∀ other, ¬ s.TakenBy address d other) :
    ∀ x ∈ s.devices, x.id ≠ d.id → x.address ≠ some address :=
  fun x hx hid ha => h x ⟨hx, ha, hid⟩

/-- The device of a contract is found with its address as soon as it is bound. -/
theorem Sound.deviceById?_bound (hs : s.Sound) (h : d ∈ s.devices) (address : String) :
    (s.bindAddress d.id address).deviceById? d.id = some (bound d address) := by
  rw [deviceById?_bindAddress, hs.deviceById?_eq h, Option.map_some, if_pos rfl, bound]

/-! ### The decision -/

/-- **A completion does not fail** where no event is refused. -/
theorem Sound.exists_completes (hs : s.Sound) (hf : s.forbidden = [])
    (contract address : String) : ∃ out s', s.Completes contract address out s' := by
  cases hcontract : s.stagingByContract? contract with
  | none => exact ⟨_, _, .unknown hcontract⟩
  | some staged =>
    obtain ⟨d, hd, hid⟩ := hs.stages_of_found hcontract
    by_cases htaken : ∃ other, s.TakenBy address d other
    · obtain ⟨other, hother, ha, hne⟩ := htaken
      -- The device that is found under the address is the other one: an address belongs to one.
      cases hfound : s.deviceByAddress? address with
      | none => exact absurd (by simpa using ha) (List.find?_eq_none.1 hfound other hother)
      | some x =>
        have hx : x.address = some address := by simpa using List.find?_some hfound
        obtain rfl := hs.eq_of_address_eq (List.mem_of_find?_eq_some hfound) hother hx ha
        exact ⟨_, _, .inUse hcontract hfound (hid ▸ hne)⟩
    · have hfree := free_of_not_takenBy (not_exists.1 htaken)
      have hallows : ∀ t e n, s.Allows t e n := fun t e n => .inr (by rw [hf]; exact List.not_mem_nil)
      have hfound := hs.deviceById?_bound hd.1 address
      rw [hid] at hfree hfound
      exact ⟨_, _, .bound hcontract hfree (hallows _ _ _) (hallows _ _ _) hfound⟩

/-- An unknown contract is out for no device. -/
theorem not_stages_of_unknown (h : s.stagingByContract? contract = none) (d : Device) :
    ¬ s.Stages contract d := by
  intro hd
  have hother : ∀ r ∈ s.staging, r.contract ≠ contract := ne_of_find?_eq_none h
  exact hother _ hd.2 rfl

/-- **A completion is decided by the rows of the tables.** -/
theorem Sound.decides (hs : s.Sound) (h : s.Completes contract address out s') :
    s.Decides contract address out s' := by
  cases h with
  | unknown hnone =>
    exact {
      unknown := ⟨fun _ => ne_of_find?_eq_none hnone, fun _ => rfl⟩
      inUse := fun id => ⟨nofun, fun ⟨d, _, hd, _⟩ => absurd hd (not_stages_of_unknown hnone d)⟩
      completed := fun device =>
        ⟨nofun, fun ⟨d, hd, _⟩ => absurd hd (not_stages_of_unknown hnone d)⟩
      unchanged := fun _ => rfl
      consumed := fun _ _ => nofun }
  | @inUse staged other hcontract hfound hne =>
    obtain ⟨d, hd, hid⟩ := hs.stages_of_found hcontract
    have hother : other ∈ s.devices := List.mem_of_find?_eq_some hfound
    have ha : other.address = some address := by simpa using List.find?_some hfound
    have htaken : s.TakenBy address d other := ⟨hother, ha, hid ▸ hne⟩
    exact {
      unknown := ⟨nofun, fun hall => absurd rfl (hall _ hd.2)⟩
      inUse := by
        refine fun id => ⟨fun hout => ⟨d, other, hd, htaken, Outcome.addressInUse.inj hout⟩, ?_⟩
        rintro ⟨d', other', -, ⟨hother', ha', -⟩, rfl⟩
        rw [hs.eq_of_address_eq hother hother' ha ha']
      completed := by
        refine fun device => ⟨nofun, ?_⟩
        rintro ⟨d', hd', hfree, -⟩
        obtain rfl := hs.eq_of_stages hd hd'
        exact absurd htaken (hfree other)
      unchanged := fun _ => rfl
      consumed := fun _ _ => nofun }
  | @bound staged device hcontract hfree hb hdel hfound =>
    obtain ⟨d, hd, hid⟩ := hs.stages_of_found hcontract
    rw [← hid] at hfree hfound ⊢
    obtain rfl : bound d address = device :=
      Option.some.inj ((hs.deviceById?_bound hd.1 address).symm.trans hfound)
    have hnobody : ∀ other, ¬ s.TakenBy address d other :=
      fun other ⟨hmem, ha, hne⟩ => hfree other hmem hne ha
    exact {
      unknown := ⟨nofun, fun hall => absurd rfl (hall _ hd.2)⟩
      inUse := by
        refine fun id => ⟨nofun, ?_⟩
        rintro ⟨d', other, hd', htaken, -⟩
        obtain rfl := hs.eq_of_stages hd hd'
        exact absurd htaken (hnobody other)
      completed := by
        refine fun device => ⟨fun hout => ⟨d, hd, hnobody, (Outcome.completed.inj hout).symm⟩, ?_⟩
        rintro ⟨d', hd', -, rfl⟩
        rw [hs.eq_of_stages hd hd']
      unchanged := fun hout => absurd rfl (hout _)
      consumed := by
        rintro d' hd' -
        obtain rfl := hs.eq_of_stages hd hd'
        refine ⟨hs.bindAddress_eq_consume hd address,
          deviceByAddress?_bindAddress hfree hfound, hfound, fun r hr hcontract' => ?_⟩
        obtain ⟨hmem, hother⟩ := List.mem_filter.1 hr
        have hrow : r = ⟨d.id, contract⟩ :=
          List.inj_on_of_nodup_map hs.consistent.contracts hmem hd.2 hcontract'
        simp [hrow] at hother }

end Store

namespace Service

/-- What the service answers to an outcome. -/
def answerOf (address : String) : Store.Outcome → Except Error Device
  | .completed device => .ok device
  | .unknownContract => .error (.notFound "provision contract")
  | .addressInUse id => .error (.addressInUse address id)

/-- The service answers as the store decides. -/
theorem run_completion {contract address : String} {s : System} {out : Store.Outcome} {t : Store}
    (h : s.store.completeDevice contract address = (.ok out, t)) :
    (Provisioning.completeDevice address contract).run s =
      (answerOf address out, { s with store := t }) := by
  rw [Provisioning.completeDevice, onStore, tryStore]
  simp only [Flow.run_bind, Flow.run_atomically, h, Flow.run_pure]
  cases out <;> rfl

/-- **How a completion is decided.**  In every store at which a run arrives and that refuses no
event, a completion does not fail: its outcome is decided by the rows of the contract and of the
address, and it changes the rows of the device that it completes and no others.  The service answers
by the outcome.  A contract that was presented with the address of another device still completes
its device with every address that is free. -/
theorem completion_decided (run : List Store.Action)
    (hf : (Store.empty.after run).forbidden = []) (contract address : String) :
    ∃ out s', (Store.empty.after run).completeDevice contract address = (.ok out, s') ∧
      (Store.empty.after run).Decides contract address out s' ∧
      (∀ series outbox, (Provisioning.completeDevice address contract).run
        ⟨Store.empty.after run, series, outbox⟩ =
          (answerOf address out, ⟨s', series, outbox⟩)) ∧
      ((∃ device, out = .completed device) → ∀ address',
        s'.completeDevice contract address' = (.ok .unknownContract, s')) ∧
      ((∃ id, out = .addressInUse id) → ∀ address',
        (∀ d ∈ (Store.empty.after run).devices, d.address ≠ some address') →
        ∃ d t, s'.Stages contract d ∧
          s'.completeDevice contract address' = (.ok (.completed (Store.bound d address')), t) ∧
          ∀ series outbox, (Provisioning.completeDevice address' contract).run
            ⟨s', series, outbox⟩ = (.ok (Store.bound d address'), ⟨t, series, outbox⟩)) := by
  have hs := Store.sound_after run
  generalize Store.empty.after run = s at hs hf
  obtain ⟨out, s', hcompletes⟩ := hs.exists_completes hf contract address
  have hdecides := hs.decides hcompletes
  have hrun := Store.completeDevice_eq_ok.2 hcompletes
  refine ⟨out, s', hrun, hdecides, fun series outbox => run_completion hrun, ?_, ?_⟩
  · rintro ⟨device, hout⟩ address'
    obtain ⟨d, hd, -, rfl⟩ := (hdecides.completed device).1 hout
    obtain ⟨-, -, -, hgone⟩ := hdecides.consumed d hd hout
    refine Store.completeDevice_eq_ok.2 (.unknown (List.find?_eq_none.2 fun r hr => ?_))
    simpa using hgone r hr
  · rintro ⟨id, hout⟩ address' hfree
    obtain ⟨d, _, hd, -⟩ := (hdecides.inUse id).1 hout
    obtain rfl := hdecides.unchanged (by rw [hout]; exact nofun)
    obtain ⟨out', t, hcompletes'⟩ := hs.exists_completes hf contract address'
    have hout' := ((hs.decides hcompletes').completed (Store.bound d address')).2
      ⟨d, hd, fun other h => hfree other h.1 h.2.1, rfl⟩
    rw [hout'] at hcompletes'
    have hrun' := Store.completeDevice_eq_ok.2 hcompletes'
    refine ⟨d, t, hd, hrun', fun series outbox => ?_⟩
    rw [run_completion (s := ⟨s', series, outbox⟩) hrun', answerOf]

/-- A user with a device that is bound to `AA` and one whose contract `c2` is out. -/
def oneBound : List Store.Action :=
  [.call (.createUser "ann@example.com" "hash" "Ann" .epoch), .call (.createDevice 1 "Fern" "c1"),
    .call (.completeDevice "c1" "AA"), .reopen, .call (.createDevice 1 "Moss" "c2")]

/-- The second contract is refused the address of the first device, and then completes with another
one; the first contract is used up. -/
theorem taken_address_refused :
    (Store.empty.after oneBound).forbidden = [] ∧
    (Store.empty.after oneBound).completeDevice "c1" "BB" =
      (.ok .unknownContract, Store.empty.after oneBound) ∧
    (Store.empty.after oneBound).completeDevice "c2" "AA" =
      (.ok (.addressInUse 1), Store.empty.after oneBound) ∧
    ∃ t, (Store.empty.after oneBound).completeDevice "c2" "BB" =
      (.ok (.completed ⟨2, 1, some "BB", "Moss"⟩), t) := by
  have hf : (Store.empty.after oneBound).forbidden = [] := rfl
  have hdevices : (Store.empty.after oneBound).devices =
    [⟨1, 1, some "AA", "Fern"⟩, ⟨2, 1, none, "Moss"⟩] := rfl
  have hstaging : (Store.empty.after oneBound).staging = [⟨2, "c2"⟩] := rfl
  obtain ⟨out, s', hrun, hdecides, -, -, hagain⟩ := completion_decided oneBound hf "c2" "AA"
  obtain ⟨out₁, s₁, hrun₁, hdecides₁, -⟩ := completion_decided oneBound hf "c1" "BB"
  have hout : out = .addressInUse 1 := (hdecides.inUse 1).2
    ⟨⟨2, 1, none, "Moss"⟩, ⟨1, 1, some "AA", "Fern"⟩, ⟨by simp [hdevices], by simp [hstaging]⟩,
      ⟨by simp [hdevices], rfl, by decide⟩, rfl⟩
  have hout₁ : out₁ = .unknownContract := hdecides₁.unknown.2 (by simp [hstaging])
  obtain rfl := hdecides.unchanged (by rw [hout]; exact nofun)
  obtain rfl := hdecides₁.unchanged (by rw [hout₁]; exact nofun)
  refine ⟨hf, hout₁ ▸ hrun₁, hout ▸ hrun, ?_⟩
  obtain ⟨d, t, ⟨hd, hd'⟩, hcompleted, -⟩ := hagain ⟨1, hout⟩ "BB" (by simp [hdevices])
  have hmoss : d = ⟨2, 1, none, "Moss"⟩ := by
    rw [hdevices] at hd
    rw [hstaging] at hd'
    simp at hd hd'
    rcases hd with rfl | rfl
    · simp at hd'
    · rfl
  rw [hmoss] at hcompleted
  exact ⟨t, hcompleted⟩

end Service
end SoilWatch
