/-
# The series store

A point belongs to a device, a quantity and a millisecond, and writing to the same three again
replaces its value.  Reading gives points in the order of time.  A millisecond that is no instant
(only a leap second at the very end of time leads to one) can be stored but not read.
-/

import SoilWatch.Model

namespace SoilWatch

open Time (Instant)

/-- A stored value. -/
structure Series.Entry where
  deviceId : Int
  key : Measurement
  millis : Int
  value : Int
  deriving DecidableEq, Repr

/-- The stored values, at most one for each device, quantity and millisecond. -/
structure Series where
  entries : List Series.Entry
  deriving DecidableEq, Repr

namespace Series

/-- Why points cannot be read. -/
inductive Fault where
  | notAnInstant (millis : Int)
  deriving DecidableEq, Repr

/-- The wording of a fault. -/
def Fault.message : Fault → String
  | .notAnInstant millis => "Integer " ++ millis.repr ++ " out of range at index 1"

/-- The store without points. -/
def empty : Series := ⟨[]⟩

/-- Whether an entry belongs to a device and a quantity. -/
def Entry.isOf (e : Entry) (deviceId : Int) (key : Measurement) : Bool :=
  e.deviceId = deviceId && e.key = key

/-- Stores a value, in the place of another of the same millisecond. -/
def write (s : Series) (deviceId : Int) (key : Measurement) (value : Int) (time : Instant) :
    Series :=
  ⟨⟨deviceId, key, time.millis, value⟩ ::
    s.entries.filter fun e => !(e.isOf deviceId key && e.millis = time.millis)⟩

/-- The value at a millisecond. -/
def value? (s : Series) (deviceId : Int) (key : Measurement) (millis : Int) : Option Int :=
  (s.entries.find? fun e => e.isOf deviceId key && e.millis = millis).map (·.value)

/-- The entries of a device and a quantity, in the order of time. -/
def channel (s : Series) (deviceId : Int) (key : Measurement) : List Entry :=
  (s.entries.filter (·.isOf deviceId key)).mergeSort fun a b => a.millis ≤ b.millis

/-- The point that an entry stands for. -/
def Entry.point (e : Entry) : Except Fault Point :=
  match Instant.ofMillis? e.millis with
  | some t => .ok ⟨e.value, t, e.key⟩
  | none => .error (.notAnInstant e.millis)

/-- The latest point of a device and a quantity. -/
def latest (s : Series) (deviceId : Int) (key : Measurement) : Except Fault (Option Point) :=
  match (s.channel deviceId key).getLast? with
  | some e => e.point.map some
  | none => .ok none

/-- The points between two instants, by milliseconds, oldest first; none if the end is before the
start. -/
def range (s : Series) (deviceId : Int) (key : Measurement) (start stop : Instant) :
    Except Fault (List Point) :=
  if stop < start then .ok []
  else
    ((s.channel deviceId key).filter fun e =>
      start.millis ≤ e.millis && e.millis ≤ stop.millis).mapM Entry.point

end Series
end SoilWatch
