/-
# Users, devices and what devices measure

A user owns devices.  A device is a soil sensor; it has no hardware address until it has announced
itself and its provisioning is complete.  It measures capacitance and temperature, and each of the
two is a series of its own, so the latest values of both need not belong to one instant.
-/

import SoilWatch.Time.Instant

namespace SoilWatch

open Time (Instant)

/-- A registered person, without the password hash. -/
structure User where
  id : Int
  email : String
  name : String
  createdAt : Instant
  lastLogin : Option Instant
  deriving DecidableEq

/-- A soil sensor of a user. -/
structure Device where
  id : Int
  userId : Int
  address : Option String
  displayName : String
  deriving DecidableEq

/-- Whether the device is bound to a hardware address. -/
def Device.isProvisioned (d : Device) : Bool :=
  d.address.isSome

/-- The quantities that a device measures. -/
inductive Measurement where
  | capacitance
  | temperature
  deriving DecidableEq, Repr

/-- The name of a quantity. -/
def Measurement.name : Measurement → String
  | .capacitance => "capacitance"
  | .temperature => "temperature"

/-- The quantity of that name. -/
def Measurement.ofName? (s : String) : Option Measurement :=
  if s = "capacitance" then some .capacitance
  else if s = "temperature" then some .temperature
  else none

/-- One stored value of a series. -/
structure Point where
  value : Int
  time : Instant
  key : Measurement
  deriving DecidableEq

/-- The latest values of a device. -/
structure Sample where
  capacitance : Int
  temperature : Int
  deriving DecidableEq, Repr

/-- What a device sends about the soil. -/
structure SampleMessage where
  address : String
  capacitance : Int
  temperature : Int
  deriving DecidableEq, Repr

/-- What a device sends to finish its provisioning. -/
structure ContractMessage where
  address : String
  contract : String
  deriving DecidableEq, Repr

end SoilWatch
