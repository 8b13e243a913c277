/-
# Names and addresses apart

A device has a name and, once it is completed, an address.  To rename it is to change the one, and to
complete it the other.  A store may be stripped of the names (`Store.unnamed`), or of the addresses
and the contracts that lead to them (`Store.unbound`).  A renaming leaves the first as it is and a
completion the second.  And each of the two goes the same way in a store that is stripped of what
does not concern it: it fails for the same reason, or answers and leaves what it would have answered
and left, stripped (`completeDevice_unnamed`, `rename_unbound`).
-/

import SoilWatch.Proofs.Store.Consistency

namespace SoilWatch

/-- A device without its name. -/
def Device.unnamed (d : Device) : Device :=
  { d with displayName := "" }

/-- A device without its address. -/
def Device.unbound (d : Device) : Device :=
  { d with address := none }

namespace Store

variable {α β : Type}

/-- The store without the names of devices. -/
def unnamed (s : Store) : Store :=
  { s with devices := s.devices.map Device.unnamed }

/-- The store without the addresses of devices and without the contracts. -/
def unbound (s : Store) : Store :=
  { s with devices := s.devices.map Device.unbound, staging := [] }

/-- An outcome without the name of the device. -/
def Outcome.unnamed : Outcome → Outcome
  | .completed d => .completed d.unnamed
  | o => o

/-! ### What is not touched -/

section Untouched

variable {s : Store} {id : Int} {contract address displayName : String}

theorem unbound_bindAddress : (s.bindAddress id address).unbound = s.unbound := by
  rw [unbound, bindAddress, map_column_eq fun d => by split <;> rfl]
  rfl

theorem unnamed_setName : (s.setName id displayName).unnamed = s.unnamed := by
  rw [unnamed, setName, map_column_eq fun d => by split <;> rfl]
  rfl

/-- **A completion leaves all but addresses and contracts,** whether it is committed or fails. -/
theorem unbound_completeDevice : (s.completeDevice contract address).2.unbound = s.unbound := by
  rcases hr : s.completeDevice contract address with ⟨e | out, t⟩
  · rw [transact_eq_error hr]
  · cases completeDevice_eq_ok.1 hr with
    | unknown | inUse => rfl
    | bound => exact unbound_bindAddress

/-- **A renaming leaves all but names,** whether it is committed or fails. -/
theorem unnamed_rename : (s.rename id displayName).2.unnamed = s.unnamed := by
  rcases hr : s.rename id displayName with ⟨e | b, t⟩
  · rw [transact_eq_error hr]
  · obtain ⟨-, -, rfl⟩ := rename_eq_ok.1 hr
    exact unnamed_setName

/-- What is refused does not concern addresses and contracts. -/
theorem unbound_refuse {s' : Store} (h : s.unbound = s'.unbound) (events : List (Table × Event)) :
    ({ s with forbidden := events } : Store).unbound = { s' with forbidden := events }.unbound :=
  congrArg (fun s : Store => { s with forbidden := events }) h

/-- What is refused does not concern names. -/
theorem unnamed_refuse {s' : Store} (h : s.unnamed = s'.unnamed) (events : List (Table × Event)) :
    ({ s with forbidden := events } : Store).unnamed = { s' with forbidden := events }.unnamed :=
  congrArg (fun s : Store => { s with forbidden := events }) h

end Untouched

/-! ### What does not matter -/

/-- A transaction goes the same way in a stripped store: it fails for the same reason, or answers and
leaves what it would have, stripped. -/
def Transaction.Strips (strip : Store → Store) (g : α → α) (t : Transaction α) : Prop :=
  ∀ s, t (strip s) = (t s).map fun p => (g p.1, strip p.2)

section Strips

open Transaction

variable {strip : Store → Store} {g : α → α} {h : β → β}

theorem strips_bind {x : Transaction α} {f : α → Transaction β} (hx : Strips strip g x)
    (hf : ∀ a s, f (g a) (strip s) = (f a s).map fun p => (h p.1, strip p.2)) :
    Strips strip h (x >>= f) := by
  intro s
  show (x (strip s) >>= fun p => f p.1 p.2) = Except.map _ (x s >>= fun p => f p.1 p.2)
  rw [hx s]
  cases x s with
  | error e => rfl
  | ok p => exact hf p.1 p.2

theorem transact_strip {t : Transaction α} (ht : Strips strip g t) (name : String) (s : Store) :
    transact name t (strip s) = ((transact name t s).1.map g, strip (transact name t s).2) := by
  unfold transact
  rw [ht s]
  cases t s <;> rfl

/-- Stores that are the same when stripped answer alike and are left alike. -/
theorem alike_of_strip {t : Store → Except Error α × Store}
    (ht : ∀ s, t (strip s) = ((t s).1.map g, strip (t s).2)) {s s' : Store}
    (hs : strip s = strip s') : (t s).1.map g = (t s').1.map g ∧ strip (t s).2 = strip (t s').2 :=
  Prod.mk.inj ((ht s).symm.trans (hs ▸ ht s'))

theorem strips_changeRows {t : Table} {e : Event} {touched : Store → Nat} {change : Store → Store}
    (hforbidden : ∀ s, (strip s).forbidden = s.forbidden)
    (htouched : ∀ s, touched (strip s) = touched s)
    (hchange : ∀ s, change (strip s) = strip (change s)) :
    Strips strip id (changeRows t e touched change) := by
  intro s
  unfold changeRows
  rw [hforbidden, htouched, hchange]
  split <;> rfl

/-- Changes of rows that do not get into each other's way can be swapped. -/
theorem map_swap {f g : α → α} (hfg : ∀ r, f (g r) = g (f r)) (rows : List α) :
    (rows.map g).map f = (rows.map f).map g := by
  rw [List.map_map, List.map_map]
  exact List.map_congr_left fun r _ => hfg r

theorem devicesWithId_unbound (deviceId : Int) (s : Store) :
    devicesWithId deviceId s.unbound = devicesWithId deviceId s := by
  show ((s.devices.map Device.unbound).filter (·.id = deviceId)).length = _
  rw [List.filter_map, List.length_map]
  rfl

theorem devicesWithId_unnamed (deviceId : Int) (s : Store) :
    devicesWithId deviceId s.unnamed = devicesWithId deviceId s := by
  show ((s.devices.map Device.unnamed).filter (·.id = deviceId)).length = _
  rw [List.filter_map, List.length_map]
  rfl

theorem setName_unbound (deviceId : Int) (displayName : String) (s : Store) :
    s.unbound.setName deviceId displayName = (s.setName deviceId displayName).unbound := by
  have hdevice : ∀ d : Device,
      (if d.unbound.id = deviceId then { d.unbound with displayName } else d.unbound) =
        (if d.id = deviceId then { d with displayName } else d).unbound := by
    intro d
    show (if d.id = deviceId then _ else _) = _
    split <;> rfl
  rw [unbound, setName, setName, map_swap hdevice]
  rfl

/-- **A renaming does not depend on addresses and contracts.** -/
theorem rename_unbound (deviceId : Int) (displayName : String) (s : Store) :
    s.unbound.rename deviceId displayName =
      ((s.rename deviceId displayName).1.map id, (s.rename deviceId displayName).2.unbound) := by
  have hrename : Strips unbound id (renameDevice deviceId displayName) := by
    exact strips_changeRows (fun _ => rfl) (devicesWithId_unbound deviceId)
      (setName_unbound deviceId displayName)
  exact transact_strip (strips_bind hrename fun n s => rfl) _ s

theorem deviceById?_unbound (s : Store) (deviceId : Int) :
    s.unbound.deviceById? deviceId = (s.deviceById? deviceId).map Device.unbound :=
  find?_map_eq (f := Device.unbound) (fun _ => rfl) s.devices

theorem deviceById?_unnamed (s : Store) (deviceId : Int) :
    s.unnamed.deviceById? deviceId = (s.deviceById? deviceId).map Device.unnamed :=
  find?_map_eq (f := Device.unnamed) (fun _ => rfl) s.devices

theorem deviceByAddress?_unnamed (s : Store) (address : String) :
    s.unnamed.deviceByAddress? address = (s.deviceByAddress? address).map Device.unnamed :=
  find?_map_eq (f := Device.unnamed) (fun _ => rfl) s.devices

theorem strips_bindDevice (deviceId : Int) (address : String) :
    Strips unnamed id (bindDevice deviceId address) := by
  intro s
  have hdevice : ∀ d : Device,
      (if d.unnamed.id = deviceId then { d.unnamed with address := some address } else d.unnamed) =
        (if d.id = deviceId then { d with address := some address } else d).unnamed := by
    intro d
    show (if d.id = deviceId then _ else _) = _
    split <;> rfl
  have hother : (s.unnamed.devices.any fun d => d.id ≠ deviceId ∧ d.address = some address) =
      s.devices.any fun d => d.id ≠ deviceId ∧ d.address = some address := List.any_map
  unfold bindDevice
  rw [devicesWithId_unnamed, hother, show s.unnamed.forbidden = s.forbidden from rfl]
  split_ifs
  · rfl
  · rfl
  · rw [unnamed, map_swap hdevice]
    rfl

theorem strips_bindStaged (deviceId : Int) (address : String) :
    Strips unnamed Device.unnamed (bindStaged deviceId address) := by
  refine strips_bind (strips_bindDevice deviceId address) fun n s => ?_
  have hdelete : Strips unnamed id (deleteStaging deviceId) :=
    strips_changeRows (fun _ => rfl) (fun _ => rfl) fun _ => rfl
  refine strips_bind hdelete (fun n s => ?_) s
  unfold findStaged
  rw [deviceById?_unnamed]
  cases s.deviceById? deviceId <;> rfl

/-- **A completion does not depend on names.** -/
theorem completeDevice_unnamed (contract address : String) (s : Store) :
    s.unnamed.completeDevice contract address =
      ((s.completeDevice contract address).1.map Outcome.unnamed,
        (s.completeDevice contract address).2.unnamed) := by
  have hstrips : Strips unnamed Outcome.unnamed (completion contract address) := by
    intro s
    unfold completion
    rw [get_bind, get_bind, show s.unnamed.stagingByContract? contract =
      s.stagingByContract? contract from rfl]
    cases s.stagingByContract? contract with
    | none => rfl
    | some staged =>
      have hother : (s.unnamed.deviceByAddress? address).filter (·.id ≠ staged.deviceId) =
          ((s.deviceByAddress? address).filter (·.id ≠ staged.deviceId)).map Device.unnamed := by
        rw [deviceByAddress?_unnamed]
        cases s.deviceByAddress? address with
        | none => rfl
        | some d => by_cases hd : d.id = staged.deviceId <;> simp [Option.filter, Device.unnamed, hd]
      dsimp only
      rw [hother]
      cases (s.deviceByAddress? address).filter (·.id ≠ staged.deviceId) with
      | some other => rfl
      | none => exact strips_bind (strips_bindStaged _ _) (fun _ _ => rfl) s
  exact transact_strip hstrips _ s

end Strips

end Store
end SoilWatch
