/-
# Requests to the services

A call of a service with everything that it is given is a value (`Request`): the time at which it is
served and the octets that are drawn for it are part of the request.  `Request.call` is the call
itself.  A message of the bus is served by the table of the services, so what the library can be
asked to do is a request or a message (`Task`).
-/

import SoilWatch.Bus.Table
import SoilWatch.Service.Accounts
import SoilWatch.Service.Telemetry

namespace SoilWatch
namespace Service

open Time (Instant)

/-- An operation of the store inside a call leaves all but the store, and its error is one of the
call. -/
theorem run_onStore {α : Type} (operation : String) (t : Store → Except Store.Error α × Store)
    (s : System) : (onStore operation t).run s =
      ((t s.store).1.mapError fun e => .persistence operation e.message,
        { s with store := (t s.store).2 }) := by
  simp only [onStore, tryStore, Flow.run_bind, Flow.run_atomically]
  cases (t s.store).1 <;> rfl

/-- A call of a service with what it is given. -/
inductive Request where
  | createUser (salt : Octets) (now : Instant) (email password name : String)
  | login (random : Octets) (now : Instant) (email password : String)
  | validateToken (now : Instant) (token : String)
  | logout (token : String)
  | forgotPassword (random : Octets) (now : Instant) (email : String)
  | validateReset (now : Instant) (encoded : String)
  | resetOwner (now : Instant) (encoded : String)
  | changePassword (salt : Octets) (now : Instant) (encoded password : String)
  | createDevice (random : Octets) (who : Provisioning.Caller) (name : String)
  | completeDevice (address contract : String)
  | devices (who : Provisioning.Caller)
  | device (who : Provisioning.Caller) (id : Int)
  | rename (who : Provisioning.Caller) (id : Int) (name : String)
  | lookupAddress (address : String)
  | deviceByAddress (address : String)
  | record (now : Instant) (m : SampleMessage)
  | latest (deviceId : Int)
  | between (deviceId : Int) (key : Measurement) (start stop : Instant)

namespace Request

/-- What a request is answered with when it does not fail. -/
abbrev Answer : Request → Type
  | createUser .. | validateToken .. | resetOwner .. => User
  | login .. | createDevice .. => String
  | logout .. | forgotPassword .. | changePassword .. | record .. => Unit
  | validateReset .. => Int
  | completeDevice .. | device .. | rename .. | deviceByAddress .. => Device
  | devices .. => List Device
  | lookupAddress .. => Option Device
  | latest .. => Sample
  | between .. => List Point

/-- The call that serves a request. -/
def call (setup : Setup) : (r : Request) → Call r.Answer
  | createUser salt now email password name =>
    Accounts.createUser setup salt now email password name
  | login random now email password => Accounts.login setup random now email password
  | validateToken now token => Accounts.validateToken now token
  | logout token => Accounts.logout token
  | forgotPassword random now email => Accounts.forgotPassword setup random now email
  | validateReset now encoded => Accounts.validateReset now encoded
  | resetOwner now encoded => Accounts.resetOwner now encoded
  | changePassword salt now encoded password =>
    Accounts.changePassword setup salt now encoded password
  | createDevice random who name => Provisioning.createDevice random who name
  | completeDevice address contract => Provisioning.completeDevice address contract
  | devices who => Provisioning.devices who
  | device who id => Provisioning.device who id
  | rename who id name => Provisioning.rename who id name
  | lookupAddress address => Provisioning.lookupAddress address
  | deviceByAddress address => Provisioning.deviceByAddress address
  | record now m => Telemetry.record setup now m
  | latest deviceId => Telemetry.latest setup deviceId
  | between deviceId key start stop => Telemetry.between setup deviceId key start stop

end Request

/-- What there is to do: to serve a request, or to handle a message of the bus. -/
inductive Task where
  | request (r : Request)
  | message (now : Instant) (m : Bus.Message)

namespace Task

/-- How a task ends. -/
abbrev Result : Task → Type
  | request r => Except Error r.Answer
  | message .. => Except Bus.Error Unit

/-- A task as a call that ends with its result. -/
def call (setup : Setup) : (t : Task) → Flow System Empty t.Result
  | request r => (r.call setup).attempt
  | message now m => ((Bus.serviceTable setup).dispatch now m).attempt

end Task
end Service
end SoilWatch
