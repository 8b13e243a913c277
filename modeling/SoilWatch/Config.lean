/-
# Configuration

A process is configured through environment variables, each with a default.  The port is checked
first, then the number of reconnect attempts; everything else is taken as it stands.  The listen
address is put together from host and port and has to be a socket address.
-/

import SoilWatch.Net.SocketAddress

namespace SoilWatch

/-- How the broker is reached. -/
structure BrokerSettings where
  uri : String
  clientId : String
  keepAlive : Nat
  deriving DecidableEq, Repr

/-- How long sessions and reset links live, and where reset links point.  Lifetimes are whole seconds,
below zero too; a lifetime with a fraction of a second is left out, and one that leads past the end of
time is cut off there (`Time.Instant.addSeconds`). -/
structure AuthSettings where
  sessionTtl : Int
  resetTtl : Int
  resetLinkBase : String
  deriving DecidableEq, Repr

/-- One hour for both, and a page of this machine. -/
def AuthSettings.default : AuthSettings :=
  ⟨3600, 3600, "http://localhost:8080/pw/change"⟩

/-- The configuration of a process.  Without a mail key outgoing mail is only logged. -/
structure Config where
  host : String
  port : Nat
  storePath : String
  seriesPath : String
  broker : BrokerSettings
  reconnectAttempts : Nat
  publicUrl : String
  mailKey : Option String
  mailFrom : String
  deriving DecidableEq, Repr

/-- Why a process cannot be configured. -/
inductive ConfigFault where
  | port (fault : Text.IntegerFault)
  | attempts (fault : Text.IntegerFault)
  | address (host : String) (number : Nat)
  deriving DecidableEq, Repr

/-- The wording of a fault. -/
def ConfigFault.message : ConfigFault → String
  | .port f => "SPROUT_PORT must be a port number: " ++ f.message
  | .attempts f =>
    "SPROUT_MQTT_RECONNECT_ATTEMPTS must be a non-negative integer: " ++ f.message
  | .address host number =>
    "invalid listen address " ++ host ++ ":" ++ number.repr ++ ": invalid socket address syntax"

namespace Config

/-- How often a lost connection to the broker is renewed in a row. -/
def defaultReconnectAttempts : Nat := 10

/-- Reads the configuration; `lookup` gives the value of a variable that is set. -/
def read (lookup : String → Option String) : Except ConfigFault Config := do
  let var (key default : String) := (lookup key).getD default
  let number ← (Text.readInteger .port (var "SPROUT_PORT" "8080").toList).mapError .port
  let attempts ←
    match lookup "SPROUT_MQTT_RECONNECT_ATTEMPTS" with
    | some v => (Text.readInteger .word32 v.toList).mapError .attempts
    | none => .ok defaultReconnectAttempts
  .ok {
    host := var "SPROUT_HOST" "0.0.0.0"
    port := number.toNat
    storePath := var "SPROUT_DB_PATH" "sprout.db"
    seriesPath := var "SPROUT_SERIES_DB_PATH" "sprout-series.db"
    broker := ⟨var "SPROUT_MQTT_URI" "mqtt://localhost:1883",
      var "SPROUT_MQTT_CLIENT_ID" "sprout_hub", 30⟩
    reconnectAttempts := attempts.toNat
    publicUrl := var "SPROUT_PUBLIC_URL" "http://localhost:8080"
    mailKey := (lookup "SPROUT_SENDGRID_API_KEY").filter (!·.isEmpty)
    mailFrom := var "SPROUT_MAIL_FROM" "noreply@localhost" }

/-- The address to listen on. -/
def address (c : Config) : Except ConfigFault Net.SocketAddress :=
  match Net.SocketAddress.parse? (c.host ++ ":" ++ c.port.repr) with
  | some a => .ok a
  | none => .error (.address c.host c.port)

/-- A text without the slashes at its end. -/
def trimSlashes (s : String) : String :=
  String.ofList (s.toList.reverse.dropWhile (· = '/')).reverse

/-- The settings for sessions and reset links: those of a process that nobody configured, with links
that point at the public address. -/
def auth (c : Config) : AuthSettings :=
  { AuthSettings.default with resetLinkBase := trimSlashes c.publicUrl ++ "/pw/change" }

end Config
end SoilWatch
