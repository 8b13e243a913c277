/-
# Provisioning

A device comes into being in two phases.  A user creates it under a name and gets a contract; the
physical device presents the contract together with its hardware address, which completes it.  A
contract can be used once, and an address belongs to one device.

Users see their own devices only: the device of another user is answered like one that does not
exist.
-/

import SoilWatch.System
import SoilWatch.Text.Blank

namespace SoilWatch
namespace Service
namespace Provisioning

/-- Who asks: the number of a user, or nobody. -/
abbrev Caller := Option Int

/-- The number of the user who asks. -/
def requireUser (who : Caller) : Call Int :=
  match who with
  | some id => pure id
  | none => .fail .unauthenticated

/-- A contract made of sixteen random octets: a random identifier of version 4. -/
def contractOf (random : Octets) : String :=
  let bs := (List.range 16).map fun i =>
    let b := random.getD i 0
    if i = 6 then (b &&& 0x0F) ||| 0x40 else if i = 8 then (b &&& 0x3F) ||| 0x80 else b
  let part (start n : Nat) := Text.hex ((bs.drop start).take n)
  "-".intercalate [part 0 4, part 4 2, part 6 2, part 8 2, part 10 6]

/-- The name under which a device is kept. -/
def displayName (name : String) : Call String :=
  let name := Text.trim name
  if name.isEmpty then .fail (.invalidInput "display name must not be empty") else pure name

/-- Creates a device for the user who asks; `random` is drawn for the contract. -/
def createDevice (random : Octets) (who : Caller) (name : String) : Call String := do
  let userId ← requireUser who
  let name ← displayName name
  let contract := contractOf random
  let _ ← onStore "create_device_provision" (Store.createDevice userId name contract)
  pure contract

/-- Completes the device of a contract with a hardware address. -/
def completeDevice (address contract : String) : Call Device := do
  match ← onStore "complete_device_provision" (Store.completeDevice contract address) with
  | .completed device => pure device
  | .unknownContract => .fail (.notFound "provision contract")
  | .addressInUse id => .fail (.addressInUse address id)

/-- The devices of the user who asks. -/
def devices (who : Caller) : Call (List Device) := do
  let userId ← requireUser who
  lookStore (·.devicesOf userId)

/-- A device of the user who asks. -/
def device (who : Caller) (id : Int) : Call Device := do
  let userId ← requireUser who
  match (← lookStore (·.deviceById? id)).filter (·.userId = userId) with
  | some d => pure d
  | none => .fail (.notFound "device")

/-- Gives a device of the user who asks a new name. -/
def rename (who : Caller) (id : Int) (name : String) : Call Device := do
  let name ← displayName name
  let d ← device who id
  let renamed ← onStore "rename_device" (Store.rename id name)
  if renamed then pure { d with displayName := name } else .fail (.notFound "device")

/-- The device bound to a hardware address, if there is one. -/
def lookupAddress (address : String) : Call (Option Device) :=
  lookStore (·.deviceByAddress? address)

/-- The device bound to a hardware address. -/
def deviceByAddress (address : String) : Call Device := do
  match ← lookupAddress address with
  | some d => pure d
  | none => .fail (.notFound "device")

end Provisioning
end Service
end SoilWatch
