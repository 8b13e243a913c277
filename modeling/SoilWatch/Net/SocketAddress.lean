/-
# Socket addresses

An IPv4 address with a port, as in `127.0.0.1:80`, or an IPv6 address in brackets, as in `[::1]:80`.
The numbers of an IPv4 address have no leading zeros.  The groups of an IPv6 address have at most
four digits; one run of zero groups may be written `::`, the last two groups may be an IPv4 address,
and `%` may put a scope behind them.  An IPv6 address is shown in its short form: the first of the
longest runs of two zero groups or more is `::`, and a mapped IPv4 address is shown as such.
-/

import SoilWatch.Text.Hex
import SoilWatch.Text.Integer

namespace SoilWatch
namespace Net

/-- The four octets of an IPv4 address. -/
structure Ipv4 where
  a : Nat
  b : Nat
  c : Nat
  d : Nat
  deriving DecidableEq, Repr

/-- An address and a port; an IPv6 address is a list of eight groups. -/
inductive SocketAddress where
  | v4 (ip : Ipv4) (port : Nat)
  | v6 (groups : List Nat) (scope : Nat) (port : Nat)
  deriving DecidableEq, Repr

/-! ### Reading -/

/-- A reader takes characters off the front of a text or gives up. -/
abbrev Reader (α : Type) := StateT (List Char) Option α

/-- Reads one character. -/
def readChar (c : Char) : Reader Unit
  | [] => none
  | x :: xs => if x = c then some ((), xs) else none

/-- The value of a hexadecimal digit. -/
def hexDigit? (c : Char) : Option Nat :=
  if c.toNat < 0x80 then Text.hexValue? (UInt8.ofNat c.toNat) else none

/-- The number that digits write, from the left. -/
def numberOf (base : Nat) (ds : List Nat) : Nat :=
  ds.foldl (fun n d => n * base + d) 0

/-- Reads one to `max` digits; more of them are an error. -/
def readDigits (digit? : Char → Option Nat) (max : Nat) : Reader (List Nat) := fun cs =>
  let ds := cs.takeWhile (digit? · |>.isSome)
  if ds.isEmpty ∨ max < ds.length then none
  else some (ds.filterMap digit?, cs.drop ds.length)

/-- Reads a decimal number of at most `max` digits that is not above `limit`. -/
def readDecimal (max limit : Nat) : Reader Nat := do
  let ds ← readDigits Text.digit? max
  let n := numberOf 10 ds
  if n ≤ limit then pure n else failure

/-- Reads an octet of an IPv4 address. -/
def readOctet : Reader Nat := do
  let ds ← readDigits Text.digit? 3
  let n := numberOf 10 ds
  if n ≤ 255 ∧ (ds.head? ≠ some 0 ∨ ds.length = 1) then pure n else failure

/-- Reads an IPv4 address. -/
def readIpv4 : Reader Ipv4 := do
  let a ← readOctet
  readChar '.'
  let b ← readOctet
  readChar '.'
  let c ← readOctet
  readChar '.'
  let d ← readOctet
  pure ⟨a, b, c, d⟩

/-- Reads a group of an IPv6 address. -/
def readGroup : Reader Nat := do
  let ds ← readDigits hexDigit? 4
  pure (numberOf 16 ds)

/-- Reads a colon, except in front of the first group. -/
def readSeparator (i : Nat) : Reader Unit :=
  if i = 0 then pure () else readChar ':'

/-- The groups of an IPv4 address. -/
def Ipv4.groups (ip : Ipv4) : List Nat :=
  [ip.a * 256 + ip.b, ip.c * 256 + ip.d]

/-- Reads groups, at most `room` of them, up to the first place that holds none.  With room for two,
an IPv4 address may stand in their place and ends the groups; the answer says so. -/
def readGroups : (room i : Nat) → (back : List Nat) → List Char → (List Nat × Bool) × List Char
  | 0, _, back, cs => ((back.reverse, false), cs)
  | room + 1, i, back, cs =>
    match if 0 < room then (do readSeparator i; readIpv4) cs else none with
    | some (ip, rest) => ((back.reverse ++ ip.groups, true), rest)
    | none =>
      match (do readSeparator i; readGroup) cs with
      | some (g, rest) => readGroups room (i + 1) (g :: back) rest
      | none => ((back.reverse, false), cs)

/-- Reads the eight groups of an IPv6 address. -/
def readIpv6 : Reader (List Nat) := fun cs =>
  let ((head, mapped), rest) := readGroups 8 0 [] cs
  if head.length = 8 then some (head, rest)
  else if mapped then none
  else
    match rest with
    | ':' :: ':' :: rest =>
      let ((tail, _), rest) := readGroups (7 - head.length) 0 [] rest
      some (head ++ List.replicate (8 - head.length - tail.length) 0 ++ tail, rest)
    | _ => none

/-- Reads a scope, if there is one. -/
def readScope : Reader Nat := fun cs =>
  match (do readChar '%'; readDecimal cs.length 4294967295) cs with
  | some r => some r
  | none => some (0, cs)

/-- Reads a colon and a port. -/
def readPort : Reader Nat := fun cs =>
  (do readChar ':'; readDecimal cs.length 65535) cs

/-- Reads a socket address. -/
def readSocketAddress : Reader SocketAddress := fun cs =>
  match (do let ip ← readIpv4; let port ← readPort; pure (SocketAddress.v4 ip port)) cs with
  | some r => some r
  | none =>
    (do
      readChar '['
      let groups ← readIpv6
      let scope ← readScope
      readChar ']'
      let port ← readPort
      pure (SocketAddress.v6 groups scope port) : Reader SocketAddress) cs

/-- The socket address that a text writes. -/
def SocketAddress.parse? (s : String) : Option SocketAddress :=
  match readSocketAddress s.toList with
  | some (a, []) => some a
  | _ => none

/-! ### Writing -/

/-- The text of an IPv4 address. -/
def Ipv4.text (ip : Ipv4) : String :=
  ".".intercalate [ip.a.repr, ip.b.repr, ip.c.repr, ip.d.repr]

/-- The number of zero groups in front. -/
def zeroRun (gs : List Nat) : Nat :=
  (gs.takeWhile (· = 0)).length

/-- The start and the length of the first of the longest runs of zero groups. -/
def longestRun (gs : List Nat) : Nat × Nat :=
  (List.range gs.length).foldl (fun best i =>
    let n := zeroRun (gs.drop i)
    if best.2 < n then (i, n) else best) (0, 0)

/-- Groups with colons between them. -/
def groupsText (gs : List Nat) : String :=
  ":".intercalate (gs.map fun g => String.ofList (Nat.toDigits 16 g))

/-- The short form of an IPv6 address. -/
def ipv6Text (gs : List Nat) : String :=
  match gs with
  | [0, 0, 0, 0, 0, 0xFFFF, x, y] =>
    "::ffff:" ++ Ipv4.text ⟨x / 256, x % 256, y / 256, y % 256⟩
  | gs =>
    let (start, n) := longestRun gs
    if 1 < n then groupsText (gs.take start) ++ "::" ++ groupsText (gs.drop (start + n))
    else groupsText gs

/-- The text of a socket address. -/
def SocketAddress.text : SocketAddress → String
  | .v4 ip port => ip.text ++ ":" ++ port.repr
  | .v6 gs scope port =>
    "[" ++ ipv6Text gs ++ (if scope = 0 then "" else "%" ++ scope.repr) ++ "]:" ++ port.repr

end Net
end SoilWatch
