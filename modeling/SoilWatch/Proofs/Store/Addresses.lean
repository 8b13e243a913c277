/-
# Hardware addresses of devices

What a sample needs of the table of devices is the address of the device with a number
(`addressOf`).  In a sound store two devices have different addresses, so an address leads to one
number and back.  One operation alone changes an address: a completion gives one to a device that
had none, and the address was free (`Completes.addressOf`).
-/

import SoilWatch.Proofs.Store.Consistency
import Mathlib.Data.List.Pairwise

namespace SoilWatch
namespace Store

variable {s s' : Store} {d d' : Device} {id id' : Int} {a : String}

/-- The address of the device with a number. -/
def addressOf (s : Store) (id : Int) : Option String :=
  (s.deviceById? id).bind (·.address)

/-- Whether no device has an address. -/
def Free (s : Store) (address : String) : Prop :=
  ∀ id, s.addressOf id ≠ some address

theorem Sound.deviceById?_eq (hs : s.Sound) (hd : d ∈ s.devices) : s.deviceById? d.id = some d :=
  Unique.find?_eq_some hs.lifecycle.nodup hd rfl

theorem Sound.addressOf_eq (hs : s.Sound) (hd : d ∈ s.devices) : s.addressOf d.id = d.address := by
  rw [addressOf, hs.deviceById?_eq hd, Option.bind_some]

/-- An address that is found belongs to a device. -/
theorem exists_of_addressOf (h : s.addressOf id = some a) :
    ∃ d ∈ s.devices, d.id = id ∧ d.address = some a := by
  obtain ⟨d, hd, ha⟩ := Option.bind_eq_some_iff.1 h
  exact ⟨d, List.mem_of_find?_eq_some hd, by simpa using List.find?_some hd, ha⟩

/-- **An address belongs to one device.** -/
theorem Sound.eq_of_address_eq (hs : s.Sound) (hd : d ∈ s.devices) (hd' : d' ∈ s.devices)
    (h : d.address = some a) (h' : d'.address = some a) : d = d' := by
  by_contra hne
  have hpairwise : s.devices.Pairwise fun d d' => ¬ (d.address = some a ∧ d'.address = some a) := by
    refine hs.consistent.addresses.imp ?_
    rintro x y hxy ⟨hx, hy⟩
    simp [hx, hy] at hxy
  have : Std.Symm fun d d' : Device => ¬ (d.address = some a ∧ d'.address = some a) :=
    ⟨fun _ _ hxy hyx => hxy hyx.symm⟩
  exact hpairwise.forall hd hd' hne ⟨h, h'⟩

/-- An address leads to one number. -/
theorem Sound.addressOf_inj (hs : s.Sound) (h : s.addressOf id = some a)
    (h' : s.addressOf id' = some a) : id = id' := by
  obtain ⟨d, hd, rfl, ha⟩ := exists_of_addressOf h
  obtain ⟨d', hd', rfl, ha'⟩ := exists_of_addressOf h'
  rw [hs.eq_of_address_eq hd hd' ha ha']

/-- The device that is found under an address has it. -/
theorem Sound.addressOf_of_found (hs : s.Sound) (h : s.deviceByAddress? a = some d) :
    s.addressOf d.id = some a := by
  rw [hs.addressOf_eq (List.mem_of_find?_eq_some h)]
  simpa using List.find?_some h

/-- An address under which no device is found is free. -/
theorem free_of_not_found (h : s.deviceByAddress? a = none) : s.Free a := by
  intro id hid
  obtain ⟨d, hd, -, ha⟩ := exists_of_addressOf hid
  simpa [ha] using List.find?_eq_none.1 h d hd

/-! ### What changes an address -/

/-- A step that completes no device leaves every address. -/
theorem DeviceStep.addressOf (h : DeviceStep s s' none) (id : Int) :
    s'.addressOf id = s.addressOf id := by
  cases h with
  | same hd hs => rw [Store.addressOf, Store.addressOf, deviceById?, deviceById?, hd.1]
  | created userId displayName contract h =>
    subst h
    rw [Store.addressOf, Store.addressOf, deviceById?, deviceById?, addDevice, List.find?_append]
    cases s.devices.find? (·.id = id) with
    | some d => rfl
    | none =>
      -- A device that is created has no address yet.
      rw [Option.none_or, List.find?_singleton]
      split <;> rfl
  | renamed number displayName h =>
    subst h
    rw [Store.addressOf, Store.addressOf, deviceById?, deviceById?, setName,
      find?_map_eq fun d => by split <;> rfl]
    cases s.devices.find? (·.id = id) with
    | none => rfl
    | some d =>
      simp only [Option.map_some, Option.bind_some]
      split <;> rfl

/-- An operation that completes no device leaves every address, also when it fails. -/
theorem Operation.addressOf_run {op : Operation}
    (hop : ∀ contract a, op ≠ .completeDevice contract a) (s : Store) (id : Int) :
    (op.run s).2.addressOf id = s.addressOf id := by
  rcases hr : op.run s with ⟨e | answer, s'⟩
  · rw [run_eq_error hr]
  · have hstep := op.deviceStep hr
    have hnone : Record.completed? ⟨op, .ok answer⟩ = none := by
      cases op with
      | completeDevice contract a => exact absurd rfl (hop contract a)
      | _ => rfl
    rw [hnone] at hstep
    exact hstep.addressOf id

/-- Binding a device changes the row that is found, if it is the one. -/
theorem deviceById?_bindAddress (s : Store) (number : Int) (a : String) (id : Int) :
    (s.bindAddress number a).deviceById? id = (s.deviceById? id).map fun d =>
      if d.id = number then { d with address := some a } else d :=
  find?_map_eq (fun d => by split <;> rfl) s.devices

/-- **A completion gives a free address to a device that had none,** and leaves all others. -/
theorem Completes.addressOf (hs : s.Sound) {contract : String}
    (h : Completes s contract a (.completed d) s') :
    s.addressOf d.id = none ∧ s.Free a ∧
      ∀ id, s'.addressOf id = if id = d.id then some a else s.addressOf id := by
  obtain _ | _ | ⟨hcontract, hfree, -, -, hfound⟩ := h
  rename_i staged
  have hid : d.id = staged.deviceId := by simpa using List.find?_some hfound
  have hstaged : staged ∈ s.staging := List.mem_of_find?_eq_some hcontract
  have hnone : s.addressOf staged.deviceId = none := by
    obtain ⟨d', hd', hid'⟩ := hs.lifecycle.owned staged hstaged
    rw [← hid', hs.addressOf_eq hd', hs.lifecycle.address_eq_none hd' hstaged hid'.symm]
  refine ⟨hid ▸ hnone, fun id h => ?_, fun id => ?_⟩
  · obtain ⟨d', hd', rfl, ha⟩ := exists_of_addressOf h
    by_cases hid' : d'.id = staged.deviceId
    · rw [hid', hnone] at h
      cases h
    · exact hfree d' hd' hid' ha
  · rw [deviceById?_bindAddress] at hfound
    obtain ⟨d', hd', rfl⟩ := Option.map_eq_some_iff.1 hfound
    have hnumber : d'.id = staged.deviceId := by simpa using List.find?_some hd'
    rw [Store.addressOf, Store.addressOf, deviceById?_bindAddress, if_pos hnumber]
    dsimp only
    split_ifs with heq
    · rw [heq, hnumber, hd', Option.map_some, if_pos hnumber, Option.bind_some]
    · cases hother : s.deviceById? id with
      | none => rfl
      | some x =>
        have hx : x.id = id := by simpa using List.find?_some hother
        rw [Option.map_some, if_neg fun h => heq (by rw [← hx, h, hnumber]), Option.bind_some]

end Store
end SoilWatch
