/-
# The listener

The listener owns the connection to the bus.  It takes events until it is cancelled, and it is
cancelled when there are no more.  When the connection is made the topics are subscribed, in order,
and the count of failures starts again; a subscription that fails ends the run.  A lost connection
is made again at once, unless that has already been tried `maxAttempts` times without success; then
the run ends.

Messages are handed to a worker that handles them one at a time, in the order of their delivery, and
finishes those that were delivered before the run ended.
-/

import SoilWatch.Bus.Table

namespace SoilWatch
namespace Bus
namespace Listener

open Time (Instant)

/-- How often a connection is made again by default. -/
def defaultAttempts : Nat := Config.defaultReconnectAttempts

/-- An event of the connection. -/
inductive Event where
  | connected
  | message (m : Message)
  | other
  | lost (reason : String)
  deriving DecidableEq, Repr

/-- Why a subscription fails, if it does: call number `n` of the run, for a topic. -/
abbrev Subscriptions := (n : Nat) → (topic : String) → Option String

/-- What happened up to an event, lists with the latest first. -/
structure Progress where
  attempts : Nat
  calls : Nat
  subscribed : List String
  delivered : List Message
  deriving DecidableEq, Repr

/-- What happened in a run. -/
structure Report where
  result : Except Error Unit
  subscribed : List String
  delivered : List Message
  disconnected : Bool

/-- Nothing has happened. -/
def Progress.start : Progress := ⟨0, 0, [], []⟩

/-- The report of a run that ends after so much progress. -/
def Progress.report (p : Progress) (result : Except Error Unit) : Report where
  result := result
  subscribed := p.subscribed.reverse
  delivered := p.delivered.reverse
  disconnected := match result with
    | .ok _ => true
    | .error _ => false

/-- Subscribes topics up to the first that fails. -/
def subscribeAll (subscribe : Subscriptions) (p : Progress) :
    List String → Progress × Except Error Unit
  | [] => (p, .ok ())
  | topic :: rest =>
    match subscribe p.calls topic with
    | some reason => ({ p with calls := p.calls + 1 }, .error (.subscribe topic reason))
    | none =>
      subscribeAll subscribe
        { p with calls := p.calls + 1, subscribed := topic :: p.subscribed } rest

/-- Takes events until the run ends. -/
def pump (topics : List String) (maxAttempts : Nat) (subscribe : Subscriptions) (p : Progress) :
    List Event → Report
  | [] => p.report (.ok ())
  | .connected :: events =>
    match subscribeAll subscribe { p with attempts := 0 } topics with
    | (p, .ok _) => pump topics maxAttempts subscribe p events
    | (p, .error e) => p.report (.error e)
  | .message m :: events =>
    pump topics maxAttempts subscribe { p with delivered := m :: p.delivered } events
  | .other :: events => pump topics maxAttempts subscribe p events
  | .lost reason :: events =>
    if maxAttempts ≤ p.attempts then p.report (.error (.exhausted p.attempts reason))
    else pump topics maxAttempts subscribe { p with attempts := p.attempts + 1 } events

/-- Runs the listener on a state: the report, and the state when the worker has finished. -/
def run {σ : Type} (table : Table σ) (maxAttempts : Nat) (subscribe : Subscriptions)
    (clock : Nat → Instant) (events : List Event) (s : σ) : Report × σ :=
  let report := pump table.topics maxAttempts subscribe .start events
  (report, ((table.routeAll clock 0 report.delivered : Flow σ Empty Unit).run s).2)

end Listener
end Bus
end SoilWatch
