/-
# Topics

A message on the bus has a topic and a payload of octets.  A table has at most one handler for a
topic, and topics match exactly.  What becomes of a message is final: `dispatch` answers with the
outcome of the handler, `route` drops it.

The table of the services has two topics: devices complete their provisioning on `Provision` and
send their samples on `Breadcrumb`, both in JSON.
-/

import SoilWatch.Bus.BrokerUrl
import SoilWatch.Service.Telemetry
import SoilWatch.Wire.Codec

namespace SoilWatch
namespace Bus

open Time (Instant)

/-- How the bus can fail. -/
inductive Error where
  | unknownTopic (topic : String)
  | malformed (topic : String) (error : Json.Error)
  | handler (topic : String) (error : Service.Error)
  | brokerUrl (fault : BrokerUrlFault)
  | subscribe (topic reason : String)
  /-- The bus stayed out of reach for all attempts; the last one failed for a reason. -/
  | exhausted (attempts : Nat) (last : String)
  deriving DecidableEq, Repr

/-- The wording of a failure. -/
def Error.message : Error → String
  | .unknownTopic topic => "no handler for topic " ++ topic
  | .malformed topic _ => "malformed payload on topic " ++ topic
  | .handler topic _ => "handler for topic " ++ topic ++ " failed"
  | .brokerUrl fault => "invalid broker url: " ++ fault.message
  | .subscribe topic reason => "subscribing to " ++ topic ++ " failed: " ++ reason
  | .exhausted attempts _ => "bus unreachable after " ++ attempts.repr ++ " reconnect attempts"

/-- A message. -/
structure Message where
  topic : String
  payload : Octets
  deriving DecidableEq, Repr

/-- What is done with the payloads of a topic, on a state `σ`. -/
structure Route (σ : Type) where
  topic : String
  handle : Instant → Octets → Flow σ Error Unit

/-- A table of routes; of two for one topic the later counts. -/
structure Table (σ : Type) where
  routes : List (Route σ)

namespace Table

variable {σ ε : Type}

/-- The topics, in order. -/
def topics (t : Table σ) : List String :=
  (t.routes.map (·.topic)).eraseDups.mergeSort fun a b => !decide (b < a)

/-- The route of a topic. -/
def find? (t : Table σ) (topic : String) : Option (Route σ) :=
  t.routes.reverse.find? (·.topic = topic)

/-- Handles a message. -/
def dispatch (t : Table σ) (now : Instant) (m : Message) : Flow σ Error Unit :=
  match t.find? m.topic with
  | some r => r.handle now m.payload
  | none => .fail (.unknownTopic m.topic)

/-- Handles a message and drops the outcome. -/
def route (t : Table σ) (now : Instant) (m : Message) : Flow σ ε Unit := do
  let _ ← (t.dispatch now m).attempt
  pure ()

/-- Handles messages one after the other; `clock` gives the time at which message `i` is handled. -/
def routeAll (t : Table σ) (clock : Nat → Instant) : (i : Nat) → List Message → Flow σ ε Unit
  | _, [] => pure ()
  | i, m :: ms => do
    t.route (clock i) m
    routeAll t clock (i + 1) ms

end Table

/-! ### The topics of the services -/

/-- The topic on which devices complete their provisioning. -/
def provisionTopic : String := "Provision"

/-- The topic on which devices send samples. -/
def sampleTopic : String := "Breadcrumb"

/-- Reads a payload and hands it to a service. -/
def handleJson {α β : Type} (topic : String) (format : Wire.Format α) (serve : α → Service.Call β)
    (payload : Octets) : Flow System Error Unit :=
  match format.read payload with
  | .error f => .fail (.malformed topic f.error)
  | .ok a => do
    match ← (serve a).attempt with
    | .ok _ => pure ()
    | .error e => .fail (.handler topic e)

/-- The table of the services. -/
def serviceTable (setup : Setup) : Table System :=
  ⟨[⟨provisionTopic, fun _ => handleJson provisionTopic ContractMessage.format fun m =>
      Service.Provisioning.completeDevice m.address m.contract⟩,
    ⟨sampleTopic, fun now => handleJson sampleTopic SampleMessage.format fun m =>
      Service.Telemetry.record setup now m⟩]⟩

end Bus
end SoilWatch
