/-
# What the services work on

The state that all services share is the relational store, the series store and the mails kept so
far.  What surrounds them is fixed for a run (`Setup`): how long tokens live and where links lead,
how passwords are hashed, what becomes of a mail, how pages are rendered, and which calls on the
series store fail.
-/

import SoilWatch.Config
import SoilWatch.Flow
import SoilWatch.Password.Hasher
import SoilWatch.Series
import SoilWatch.Service.Error
import SoilWatch.Store.Operations
import SoilWatch.Template

namespace SoilWatch

/-- A mail. -/
structure Mail where
  recipient : String
  subject : String
  body : String
  deriving DecidableEq, Repr

/-- What becomes of a mail: it may be refused for a reason, else it is sent and perhaps kept. -/
structure Mailer where
  refuse : Mail → Option String
  keeps : Bool

namespace Mailer

/-- Sends every mail and keeps it. -/
def keeping : Mailer := ⟨fun _ => none, true⟩

/-- Sends every mail and keeps none. -/
def forgetting : Mailer := ⟨fun _ => none, false⟩

/-- Refuses every mail for the same reason. -/
def failing (reason : String) : Mailer := ⟨fun _ => some reason, false⟩

end Mailer

/-- A kind of call on the series store. -/
inductive SeriesCall where
  | write (key : Measurement)
  | latest (key : Measurement)
  | range (key : Measurement)
  deriving DecidableEq, Repr

/-- What the services share. -/
structure System where
  store : Store
  series : Series
  outbox : List Mail

/-- The state before anything has happened. -/
def System.empty : System := ⟨.empty, .empty, []⟩

/-- What surrounds the services. -/
structure Setup where
  auth : AuthSettings
  hasher : Password.Hasher
  mailer : Mailer
  renderer : String → Json.Value → Except String String
  seriesFault : SeriesCall → Option String

/-- The surroundings of a process that keeps its mails. -/
def Setup.standard : Setup where
  auth := .default
  hasher := .argon2id
  mailer := .keeping
  renderer := Template.render
  seriesFault _ := none

namespace Service

/-- A call of a service. -/
abbrev Call (α : Type) := Flow System Error α

/-- Looks at the relational store. -/
def lookStore {α : Type} (f : Store → α) : Call α :=
  .look fun s => f s.store

/-- Runs an operation on the relational store and keeps its error. -/
def tryStore {α : Type} (t : Store → Except Store.Error α × Store) :
    Call (Except Store.Error α) :=
  .atomically fun s => (.ok (t s.store).1, { s with store := (t s.store).2 })

/-- Runs an operation on the relational store; its error is a failure of the service's operation. -/
def onStore {α : Type} (operation : String) (t : Store → Except Store.Error α × Store) :
    Call α := do
  match ← tryStore t with
  | .ok a => pure a
  | .error e => .fail (.persistence operation e.message)

/-- Fails if calls of a kind on the series store fail. -/
def guardSeries (setup : Setup) (operation : String) (call : SeriesCall) : Call Unit :=
  match setup.seriesFault call with
  | some reason => .fail (.persistence operation reason)
  | none => pure ()

end Service
end SoilWatch
