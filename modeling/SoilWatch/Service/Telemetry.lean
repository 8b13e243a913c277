/-
# Telemetry

A sample names a hardware address.  It is stored for the device bound to that address, as two points
of the same instant, capacitance first.  The latest sample of a device is put together from the
latest points of both series.
-/

import SoilWatch.Service.Provisioning

namespace SoilWatch
namespace Service
namespace Telemetry

open Time (Instant)

/-- Writes a point. -/
def write (setup : Setup) (deviceId : Int) (key : Measurement) (value : Int) (now : Instant) :
    Call Unit := do
  guardSeries setup "record_breadcrumb" (.write key)
  .alter fun s => { s with series := s.series.write deviceId key value now }

/-- Stores a sample for the device bound to its address. -/
def record (setup : Setup) (now : Instant) (m : SampleMessage) : Call Unit := do
  match ← Provisioning.lookupAddress m.address with
  | none => .fail (.noDevice m.address)
  | some d => do
    write setup d.id .capacitance m.capacitance now
    write setup d.id .temperature m.temperature now

/-- The latest point of a series. -/
def latestPoint (setup : Setup) (deviceId : Int) (key : Measurement) : Call (Option Point) := do
  guardSeries setup "get_latest_breadcrumb" (.latest key)
  .examine fun s =>
    (s.series.latest deviceId key).mapError fun f =>
      .persistence "get_latest_breadcrumb" f.message

/-- The latest values of a device. -/
def latest (setup : Setup) (deviceId : Int) : Call Sample := do
  let capacitance ← latestPoint setup deviceId .capacitance
  let temperature ← latestPoint setup deviceId .temperature
  match capacitance, temperature with
  | some c, some t => pure ⟨c.value, t.value⟩
  | _, _ => .fail (.noTelemetry deviceId)

/-- The points of a series between two instants, oldest first. -/
def between (setup : Setup) (deviceId : Int) (key : Measurement) (start stop : Instant) :
    Call (List Point) := do
  guardSeries setup "points_between" (.range key)
  .examine fun s =>
    (s.series.range deviceId key start stop).mapError fun f =>
      .persistence "points_between" f.message

end Telemetry
end Service
end SoilWatch
