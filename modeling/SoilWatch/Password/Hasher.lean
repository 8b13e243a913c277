/-
# Hashing passwords

A hasher turns a password and a salt into a text and can tell whether a password belongs to such a
text.  The one in use is Argon2id with 19 MiB, two passes and one lane.  It checks every hash of the
Argon2 family with the costs that its text names; a hash that it cannot check, for instance one of
another algorithm, belongs to no password.
-/

import SoilWatch.Password.Argon2
import SoilWatch.Password.Phc

namespace SoilWatch
namespace Password

/-- How passwords are hashed and checked. -/
structure Hasher where
  hash : (salt : Octets) → (password : String) → String
  verify : (stored password : String) → Except Phc.Fault Bool

namespace Argon2

/-- The parameters of a fresh hash. -/
def standard : Params :=
  ⟨.id, 19, 19456, 2, 1, 32, []⟩

/-- The kind that an algorithm names. -/
def kind? (algorithm : String) : Option Kind :=
  if algorithm = "argon2d" then some .d
  else if algorithm = "argon2i" then some .i
  else if algorithm = "argon2id" then some .id
  else none

/-- The number that a value writes. -/
def decimal? (value : String) : Option Nat :=
  (Phc.decimal value).toOption

/-- The octets that a value writes, if there are not more than `max`. -/
def octets? (value : String) (max : Nat) : Option Octets :=
  (Text.Base64.decode? .bare value).filter (·.length ≤ max)

/-- The parameters with one of them set. -/
def setParam (p : Params) (param : String × String) : Option Params :=
  match param with
  | ("m", v) => (decimal? v).map fun n => { p with memory := n }
  | ("t", v) => (decimal? v).map fun n => { p with passes := n }
  | ("p", v) => (decimal? v).map fun n => { p with lanes := n }
  | ("keyid", v) => (octets? v 8).map fun _ => p
  | ("data", v) => (octets? v 32).map fun bs => { p with data := bs }
  | _ => none

/-- The parameters that a password hash names, where it leaves none of them out of range. -/
def params? (h : Phc) (tagLength : Nat) : Option Params := do
  let kind ← kind? h.algorithm
  let version := h.version.getD 19
  if version = 16 ∨ version = 19 then
    let start : Params := { standard with kind, version, tagLength }
    let p ← h.params.foldlM setParam start
    if p.Valid then some p else none
  else none

/-- Whether a password belongs to a password hash. -/
def check (h : Phc) (password : String) : Bool :=
  (do
    let salt ← h.salt
    let expected ← h.hash
    let p ← params? h expected.length
    let salt ← Text.Base64.decode? .bare salt
    if salt.length < 8 then none
    else some (tag p (Text.Utf8.encode password) salt == expected)).getD false

/-- The password hash of a password and a salt. -/
def hashText (salt : Octets) (password : String) : String :=
  Phc.text "argon2id" standard.version
    [("m", standard.memory.repr), ("t", standard.passes.repr), ("p", standard.lanes.repr)]
    (Text.Base64.encode .bare salt) (tag standard (Text.Utf8.encode password) salt)

end Argon2

/-- Argon2id with its standard costs. -/
def Hasher.argon2id : Hasher where
  hash := Argon2.hashText
  verify stored password := (Phc.parse stored).map (Argon2.check · password)

end Password
end SoilWatch
