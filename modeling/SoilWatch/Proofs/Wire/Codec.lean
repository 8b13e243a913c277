/-
# Records are read back

Every record that is written is read back from its text (`records_read_back`), so far as its
integers fit a word of 64 bits, which is what they are read as.  Texts may hold any characters, and
years may be any that there are.  What is read is the record as it was, but for one kind of instant: a
leap second that does not end a minute is written like the second behind it, and the record is read
with that in its place (`stray_leap_read_as_next_second`).  Each record is an instance of the lemma
about shapes: what its members convey, and that its build takes that back.
-/

import SoilWatch.Proofs.Wire.Record

namespace SoilWatch

open Text.IntegerRange (int64)
open Text.Utf8 (encode)
open Wire (Conveys)

namespace Wire

/-- What a value that may be absent conveys. -/
def optionDatum {α : Type} (g : α → Datum) : Option α → Datum
  | some a => g a
  | none => .null

/-- A value that may be absent conveys its datum or none. -/
theorem conveys_optionValue {α : Type} {f : α → Json.Value} {g : α → Datum} {k : Kind}
    (h : ∀ a, Conveys k (f a) (g a)) (hf : ∀ a, f a ≠ .null) (o : Option α) :
    Conveys (.optional k) (optionValue f o) (optionDatum g o) := by
  cases o with
  | none => exact .null k
  | some a => exact .present (h a) (hf a)

end Wire

/-! ### The records -/

/-- A user with the instants that the texts of its own are read as. -/
def User.asRead (u : User) : User :=
  { u with createdAt := u.createdAt.asRead, lastLogin := u.lastLogin.map Time.Instant.asRead }

/-- A point with the instant that the text of its own is read as. -/
def Point.asRead (p : Point) : Point :=
  { p with time := p.time.asRead }

theorem User.asRead_eq_self {u : User} : u.asRead = u ↔
    u.createdAt.LeapEndsMinute ∧ ∀ t ∈ u.lastLogin, t.LeapEndsMinute := by
  obtain ⟨id, email, name, createdAt, _ | lastLogin⟩ := u <;>
    simp [asRead, Time.Instant.asRead_eq_self]

theorem Point.asRead_eq_self {p : Point} : p.asRead = p ↔ p.time.LeapEndsMinute := by
  obtain ⟨value, time, key⟩ := p
  simp [asRead, Time.Instant.asRead_eq_self]

theorem User.read_toJson (u : User) (h : int64.contains u.id) :
    User.format.read (encode u.toJson.compact) = .ok u.asRead := by
  have hlogin :=
    Wire.conveys_optionValue Conveys.instant (fun _ => Json.Value.noConfusion) u.lastLogin
  refine Wire.Format.read_object (.cons (.integer h) (.cons (.text u.email) (.cons (.text u.name)
    (.cons (.instant u.createdAt) (.cons hlogin .nil))))) (by decide) ?_
  obtain ⟨id, email, name, createdAt, _ | lastLogin⟩ := u <;> rfl

theorem Device.read_toJson (d : Device) (h : int64.contains d.id) (h' : int64.contains d.userId) :
    Device.format.read (encode d.toJson.compact) = .ok d := by
  have haddress :=
    Wire.conveys_optionValue Conveys.text (fun _ => Json.Value.noConfusion) d.address
  refine Wire.Format.read_object (.cons (.integer h) (.cons (.integer h') (.cons haddress
    (.cons (.text d.displayName) .nil)))) (by decide) ?_
  obtain ⟨id, userId, _ | address, displayName⟩ := d <;> rfl

theorem Point.read_toJson (p : Point) (h : int64.contains p.value) :
    Point.format.read (encode p.toJson.compact) = .ok p.asRead :=
  Wire.Format.read_object (.cons (.integer h) (.cons (.instant p.time)
    (.cons (.measurement p.key) .nil))) (by decide) rfl

theorem Sample.read_toJson (s : Sample) (h : int64.contains s.capacitance)
    (h' : int64.contains s.temperature) : Sample.format.read (encode s.toJson.compact) = .ok s :=
  Wire.Format.read_object (.cons (.integer h) (.cons (.integer h') .nil)) (by decide) rfl

theorem SampleMessage.read_toJson (m : SampleMessage) (h : int64.contains m.capacitance)
    (h' : int64.contains m.temperature) :
    SampleMessage.format.read (encode m.toJson.compact) = .ok m :=
  Wire.Format.read_object (.cons (.text m.address) (.cons (.integer h) (.cons (.integer h') .nil)))
    (by decide) rfl

theorem ContractMessage.read_toJson (m : ContractMessage) :
    ContractMessage.format.read (encode m.toJson.compact) = .ok m :=
  Wire.Format.read_object (.cons (.text m.address) (.cons (.text m.contract) .nil)) (by decide) rfl

theorem IssuedToken.read_toJson (t : IssuedToken) :
    IssuedToken.format.read (encode t.toJson.compact) = .ok t :=
  Wire.Format.read_object (.cons (.text t.token) .nil) (by decide) rfl

theorem IssuedContract.read_toJson (c : IssuedContract) :
    IssuedContract.format.read (encode c.toJson.compact) = .ok c :=
  Wire.Format.read_object (.cons (.text c.contract) .nil) (by decide) rfl

namespace Wire

/-- **What is written is read back**: users, devices, points, samples, the messages of devices, and
the answers that hand out a token or a contract.  Users and points are read with the instants that
their texts give, which are their own exactly if each leap second among them ends a minute; all else
is read as it was. -/
theorem records_read_back :
    (∀ u : User, int64.contains u.id →
      User.format.read (encode u.toJson.compact) = .ok u.asRead ∧
      (u.asRead = u ↔ u.createdAt.LeapEndsMinute ∧ ∀ t ∈ u.lastLogin, t.LeapEndsMinute)) ∧
    (∀ d : Device, int64.contains d.id → int64.contains d.userId →
      Device.format.read (encode d.toJson.compact) = .ok d) ∧
    (∀ p : Point, int64.contains p.value →
      Point.format.read (encode p.toJson.compact) = .ok p.asRead ∧
      (p.asRead = p ↔ p.time.LeapEndsMinute)) ∧
    (∀ s : Sample, int64.contains s.capacitance → int64.contains s.temperature →
      Sample.format.read (encode s.toJson.compact) = .ok s) ∧
    (∀ m : SampleMessage, int64.contains m.capacitance → int64.contains m.temperature →
      SampleMessage.format.read (encode m.toJson.compact) = .ok m) ∧
    (∀ m : ContractMessage, ContractMessage.format.read (encode m.toJson.compact) = .ok m) ∧
    (∀ t : IssuedToken, IssuedToken.format.read (encode t.toJson.compact) = .ok t) ∧
    ∀ c : IssuedContract, IssuedContract.format.read (encode c.toJson.compact) = .ok c :=
  ⟨fun u h => ⟨u.read_toJson h, User.asRead_eq_self⟩, Device.read_toJson,
    fun p h => ⟨p.read_toJson h, Point.asRead_eq_self⟩, Sample.read_toJson,
    SampleMessage.read_toJson, ContractMessage.read_toJson, IssuedToken.read_toJson,
    IssuedContract.read_toJson⟩

/-- A nanosecond into a leap second at the end of the first minute of all years. -/
def firstLeap : Time.Instant :=
  ⟨-8334601228741, 1000000001, by decide, by decide, by decide⟩

/-- The last nanosecond of all years. -/
def lastNano : Time.Instant :=
  ⟨8210266876799, 999999999, by decide, by decide, by decide⟩

/-- A user with the least number, texts that have to be escaped, and instants at the ends of time. -/
def outermostUser : User :=
  ⟨-9223372036854775808, "a\"b\\c", "\x00\n\x1f\x7f é 𝄞", firstLeap, some lastNano⟩

theorem outermost_records_read_back :
    User.format.read (encode outermostUser.toJson.compact) = .ok outermostUser ∧
    Device.format.read (encode (Device.toJson ⟨9223372036854775807, 0, none, "\u2028"⟩).compact) =
      .ok ⟨9223372036854775807, 0, none, "\u2028"⟩ ∧
    Point.format.read (encode (Point.toJson ⟨-1, firstLeap, .temperature⟩).compact) =
      .ok ⟨-1, firstLeap, .temperature⟩ ∧
    Sample.format.read
      (encode (Sample.toJson ⟨-9223372036854775808, 9223372036854775807⟩).compact) =
        .ok ⟨-9223372036854775808, 9223372036854775807⟩ ∧
    SampleMessage.format.read (encode (SampleMessage.toJson ⟨"", -10, 10⟩).compact) =
      .ok ⟨"", -10, 10⟩ := by
  obtain ⟨huser, huserKept⟩ := records_read_back.1 outermostUser (by decide)
  obtain ⟨hpoint, hpointKept⟩ := records_read_back.2.2.1 ⟨-1, firstLeap, .temperature⟩ (by decide)
  rw [huserKept.2 (by decide)] at huser
  rw [hpointKept.2 (by decide)] at hpoint
  exact ⟨huser,
    records_read_back.2.1 ⟨9223372036854775807, 0, none, "\u2028"⟩ (by decide) (by decide), hpoint,
    records_read_back.2.2.2.1 ⟨-9223372036854775808, 9223372036854775807⟩ (by decide) (by decide),
    records_read_back.2.2.2.2.1 ⟨"", -10, 10⟩ (by decide) (by decide)⟩

/-- Half a second into a leap second behind the first second of Unix time. -/
def strayLeap : Time.Instant :=
  { Time.Instant.epoch with nano := 1000000000 + 500000000, nano_lt := by decide }

/-- **A leap second that ends no minute is lost.**  A point in one is written like a point in the
second behind it, and is read as that. -/
theorem stray_leap_read_as_next_second :
    (Point.toJson ⟨7, strayLeap, .capacitance⟩).compact =
      "\x7b\"value\":7,\"time\":\"1970-01-01T00:00:01.500Z\",\"key\":\"capacitance\"\x7d" ∧
    ∃ t, Point.format.read (encode (Point.toJson ⟨7, strayLeap, .capacitance⟩).compact) =
        .ok ⟨7, t, .capacitance⟩ ∧
      t.second = 1 ∧ t.nano = 500000000 ∧
      (⟨7, t, .capacitance⟩ : Point) ≠ ⟨7, strayLeap, .capacitance⟩ :=
  ⟨by decide, strayLeap.asRead, Point.read_toJson ⟨7, strayLeap, .capacitance⟩ (by decide), rfl, rfl,
    by decide⟩

end Wire

end SoilWatch
