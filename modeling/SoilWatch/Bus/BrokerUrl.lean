/-
# The address of the message broker

`mqtt://host:port`, or `mqtts://host:port` for a connection under TLS; without a scheme the address
is read as one of the first kind.  The port is what stands behind the last colon and may be left
out.
-/

import SoilWatch.Text.Integer

namespace SoilWatch
namespace Bus

/-- Where a broker listens. -/
structure BrokerUrl where
  host : String
  port : Nat
  tls : Bool
  deriving DecidableEq, Repr

/-- Why a text is no broker address. -/
inductive BrokerUrlFault where
  | unsupportedScheme (url : String)
  | invalidPort (port : String)
  | emptyHost
  deriving DecidableEq, Repr

/-- The wording of a fault. -/
def BrokerUrlFault.message : BrokerUrlFault → String
  | .unsupportedScheme url => "unsupported scheme in " ++ url ++ "; use mqtt:// or mqtts://"
  | .invalidPort port => "invalid port: " ++ port
  | .emptyHost => "host cannot be empty"

namespace BrokerUrl

/-- The scheme of a plain connection. -/
def plainScheme : List Char := "mqtt://".toList

/-- The scheme of a connection under TLS. -/
def tlsScheme : List Char := "mqtts://".toList

/-- What ends a scheme. -/
def schemeEnd : List Char := "://".toList

/-- The port of a broker when the address names none. -/
def defaultPort (tls : Bool) : Nat :=
  if tls then 8883 else 1883

/-- The text behind a beginning. -/
def behind? : (beginning : List Char) → List Char → Option (List Char)
  | [], cs => some cs
  | _ :: _, [] => none
  | a :: as, c :: cs => if a = c then behind? as cs else none

/-- Whether a text contains another. -/
def contains (part : List Char) : List Char → Bool
  | [] => (behind? part []).isSome
  | c :: cs => (behind? part (c :: cs)).isSome || contains part cs

/-- The parts before and behind the last colon. -/
def splitPort? (cs : List Char) : Option (List Char × List Char) :=
  match cs.reverse.dropWhile (· ≠ ':') with
  | [] => none
  | _ :: back => some (back.reverse, (cs.reverse.takeWhile (· ≠ ':')).reverse)

/-- Reads an address behind its scheme. -/
def parseHost (tls : Bool) (cs : List Char) : Except BrokerUrlFault BrokerUrl :=
  match splitPort? cs with
  | some (host, port) =>
    match Text.readInteger .port port with
    | .error _ => .error (.invalidPort (String.ofList port))
    | .ok n => if host.isEmpty then .error .emptyHost else .ok ⟨String.ofList host, n.toNat, tls⟩
  | none =>
    if cs.isEmpty then .error .emptyHost else .ok ⟨String.ofList cs, defaultPort tls, tls⟩

/-- Reads an address. -/
def parse (url : String) : Except BrokerUrlFault BrokerUrl :=
  let cs := url.toList
  match behind? plainScheme cs with
  | some rest => parseHost false rest
  | none =>
    match behind? tlsScheme cs with
    | some rest => parseHost true rest
    | none =>
      if contains schemeEnd cs then .error (.unsupportedScheme url) else parseHost false cs

end BrokerUrl
end Bus
end SoilWatch
