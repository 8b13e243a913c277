/-
# Written members are read back

A value that is written as its kind asks conveys a datum (`Conveys`), and reading for the kind finds
the datum and leaves what stands behind it (`readDatum_of_conveys`).  Members that are written in the
order of a shape (`Fills`) are therefore read one after the other into a draft with their data
(`readMembers_of_fills`), and a record whose build takes that draft back is read from its text
(`Format.read_object`).
-/

import SoilWatch.Proofs.Json.Scan
import SoilWatch.Proofs.Time.Rfc3339
import SoilWatch.Wire.Codec

namespace SoilWatch
namespace Wire

open Json (EndsNumber Value)
open Text.Utf8 (encodeChars encodeChars_append)

variable {b : UInt8} {rest : Octets} {k : Kind} {v : Value} {x : Datum}

/-! ### Values -/

/-- **The datum that a value conveys** where a kind is asked for.  An instant conveys what its text is
read as. -/
inductive Conveys : Kind → Value → Datum → Prop where
  | text (s : String) : Conveys .text (.text s) (.text s)
  | integer {n : Int} (h : Text.IntegerRange.int64.contains n) :
    Conveys .integer (.integer n) (.integer n)
  | instant (t : Time.Instant) : Conveys .instant (instantValue t) (.instant t.asRead)
  | measurement (m : Measurement) : Conveys .measurement m.toJson (.measurement m)
  | null (k : Kind) : Conveys (.optional k) .null .null
  | present {k : Kind} {v : Value} {x : Datum} (h : Conveys k v x) (hv : v ≠ .null) :
    Conveys (.optional k) v x

theorem skipSpace_cons (h : Json.isSpace b = false) : Json.skipSpace (b :: rest) = b :: rest :=
  List.dropWhile_cons_of_neg (by simp [h])

/-- A text in quotes is read back, whatever stands behind it. -/
theorem readText_textChars (expected s : String) (rest : Octets) :
    readText expected (encodeChars (Json.textChars s) ++ rest) = .ok (s, rest) := by
  rw [Json.encodeChars_textChars, List.cons_append, List.append_assoc, readText,
    skipSpace_cons (by decide)]
  show (Json.readText (_ ++ Json.quote :: rest)).mapError _ = _
  rw [Json.readText_escaped]
  rfl

/-- An integer is read back. -/
theorem readInteger_integerChars {n : Int} (h : Text.IntegerRange.int64.contains n)
    (hrest : EndsNumber rest) :
    readInteger (encodeChars (Json.integerChars n) ++ rest) = .ok (n, rest) := by
  obtain ⟨hlow, hhigh⟩ : -9223372036854775808 ≤ n ∧ n ≤ 9223372036854775807 := by
    rwa [Text.IntegerRange.contains, Bool.and_eq_true, decide_eq_true_eq, decide_eq_true_eq] at h
  have hread := Json.readNumber_integerChars hrest hlow (by omega)
  obtain ⟨b, bs, hbs, hb⟩ := Json.encodeChars_integerChars_eq_cons n
  rw [hbs, List.cons_append] at hread ⊢
  rw [readInteger, skipSpace_cons (Json.clear_of_number hb).1]
  simp only [if_pos hb, hread]
  exact if_pos hhigh

/-- An instant is read as its text is. -/
theorem readInstant_instantValue (t : Time.Instant) (rest : Octets) :
    readInstant (encodeChars (instantValue t).chars ++ rest) = .ok (t.asRead, rest) := by
  rw [readInstant, show (instantValue t).chars = Json.textChars t.text from rfl, readText_textChars]
  simp only [t.parse_text]

theorem measurementOf_name (m : Measurement) : measurementOf m.name = .ok m := by
  cases m <;> rfl

theorem readMeasurement_toJson (m : Measurement) (rest : Octets) :
    readMeasurement (encodeChars m.toJson.chars ++ rest) = .ok (m, rest) := by
  have htext := readText_textChars Kind.measurement.expected m.name rest
  rw [show m.toJson.chars = Json.textChars m.name from rfl]
  rw [Json.encodeChars_textChars, List.cons_append] at htext ⊢
  rw [readMeasurement, skipSpace_cons (by decide)]
  dsimp only
  rw [if_pos rfl, htext]
  simp only [bind, Except.bind, measurementOf_name]

/-- A value that conveys a datum begins with no white space, and with the first letter of `null`
only if it is that. -/
theorem Conveys.head (h : Conveys k v x) : ∃ b bs, encodeChars v.chars = b :: bs ∧
    Json.isSpace b = false ∧ (v ≠ .null → b ≠ 0x6E) := by
  induction h with
  | text s => exact ⟨_, _, Json.encodeChars_textChars s, by decide, fun _ => by decide⟩
  | @integer n _ =>
    obtain ⟨b, bs, hbs, hb⟩ := Json.encodeChars_integerChars_eq_cons n
    exact ⟨b, bs, hbs, (Json.clear_of_number hb).1, fun _ => (Json.clear_of_number hb).2⟩
  | instant t => exact ⟨_, _, Json.encodeChars_textChars _, by decide, fun _ => by decide⟩
  | measurement m => exact ⟨_, _, Json.encodeChars_textChars _, by decide, fun _ => by decide⟩
  | null k => exact ⟨_, _, rfl, by decide, fun h => absurd rfl h⟩
  | present _ _ ih => exact ih

/-- **The datum that a value conveys is read**, up to what stands behind the value. -/
theorem readDatum_of_conveys (h : Conveys k v x) (hrest : EndsNumber rest) :
    readDatum k (encodeChars v.chars ++ rest) = .ok (x, rest) := by
  induction h with
  | text s =>
    rw [readDatum, show (Value.text s).chars = Json.textChars s from rfl, readText_textChars]
    rfl
  | @integer n h =>
    rw [readDatum, show (Value.integer n).chars = Json.integerChars n from rfl,
      readInteger_integerChars h hrest]
    rfl
  | instant t =>
    rw [readDatum, readInstant_instantValue]
    rfl
  | measurement m =>
    rw [readDatum, readMeasurement_toJson]
    rfl
  | null k => rfl
  | present h hv ih =>
    obtain ⟨b, bs, hbs, hspace, hnull⟩ := h.head
    rw [hbs, List.cons_append] at ih ⊢
    rw [readDatum, skipSpace_cons hspace]
    dsimp only
    rw [if_neg (hnull hv), ih]

/-! ### Members -/

variable {s : Shape} {d d' : Draft} {first : Bool} {fuel : Nat} {f : Field} {bs bs' : Octets}

/-- Behind a member stands nothing that could belong to its value. -/
theorem endsNumber_of_mem (hb : b = Json.comma ∨ b = Json.closeObject) :
    EndsNumber (b :: rest) := by
  intro c hc
  obtain rfl := Option.some.inj hc
  rcases hb with rfl | rfl <;> decide

/-- A declared member that is new is added. -/
theorem readMember_of_conveys (hfield : s.field? f.name = some f) (hnew : d.get? f.name = none)
    (h : Conveys f.kind v x) (hrest : EndsNumber rest) :
    readMember s d f.name (Json.colon :: (encodeChars v.chars ++ rest)) =
      .ok (d.add f.name x, rest) := by
  have hcolon : readColon (Json.colon :: (encodeChars v.chars ++ rest)) =
      .ok (encodeChars v.chars ++ rest) := rfl
  simp only [readMember, hfield, hnew, hcolon, readDatum_of_conveys h hrest, Option.isSome_none,
    Bool.false_eq_true, if_false]

/-- A member more is read. -/
theorem readMembers_of_member {name : String} (hnext : nextMember first bs = .ok (true, bs'))
    {bs'' : Octets} (hname : Json.readText bs' = .ok (name, bs''))
    (hmember : readMember s d name bs'' = .ok (d', rest)) :
    readMembers s (fuel + 1) first d bs = readMembers s fuel false d' rest := by
  simp only [readMembers, hnext, hname, hmember]

/-- The octets of a member behind the opening quote of its name. -/
def memberTail (name : String) (v : Value) : Octets :=
  encodeChars (name.toList.flatMap Json.escapeChar) ++
    Json.quote :: Json.colon :: encodeChars v.chars

theorem encodeChars_memberChar (name : String) (v : Value) :
    encodeChars (Value.memberChar (name, v)) = Json.quote :: memberTail name v := by
  rw [Value.memberChar, encodeChars_append, Json.encodeChars_textChars, List.cons_append,
    List.append_assoc]
  rfl

/-- A member that is written as its field asks is read. -/
theorem readMembers_of_conveys (hfield : s.field? f.name = some f) (hnew : d.get? f.name = none)
    (h : Conveys f.kind v x) (hrest : EndsNumber rest)
    (hnext : nextMember first bs = .ok (true, memberTail f.name v ++ rest)) :
    readMembers s (fuel + 1) first d bs = readMembers s fuel false (d.add f.name x) rest := by
  have hname : Json.readText (memberTail f.name v ++ rest) =
      .ok (f.name, Json.colon :: (encodeChars v.chars ++ rest)) := by
    rw [memberTail, List.append_assoc]
    exact Json.readText_escaped _ _
  exact readMembers_of_member hnext hname (readMember_of_conveys hfield hnew h hrest)

/-! ### Records -/

variable {fs : List Field} {ms : List (String × Value)} {xs : List (String × Datum)}

/-- **Members written in the order of their fields**, with the data that they convey. -/
inductive Fills : List Field → List (String × Value) → List (String × Datum) → Prop where
  | nil : Fills [] [] []
  | cons {f : Field} {v : Value} {x : Datum} {fs : List Field} {ms : List (String × Value)}
    {xs : List (String × Datum)} (h : Conveys f.kind v x) (hs : Fills fs ms xs) :
    Fills (f :: fs) ((f.name, v) :: ms) ((f.name, x) :: xs)

/-- The members behind the first, each behind a comma. -/
def tailChars (ms : List (String × Value)) : List Char :=
  ms.flatMap fun m => ',' :: Value.memberChar m

theorem memberChars_cons (m : String × Value) (ms : List (String × Value)) :
    Value.memberChars (m :: ms) = Value.memberChar m ++ tailChars ms := by
  induction ms generalizing m with
  | nil => exact (List.append_nil _).symm
  | cons n ms ih => rw [Value.memberChars, ih]; rfl

theorem encodeChars_tailChars_cons (name : String) (v : Value) (ms : List (String × Value)) :
    encodeChars (tailChars ((name, v) :: ms)) =
      Json.comma :: Json.quote :: (memberTail name v ++ encodeChars (tailChars ms)) := by
  show Json.comma :: encodeChars (Value.memberChar (name, v) ++ tailChars ms) = _
  rw [encodeChars_append, encodeChars_memberChar, List.cons_append]

/-- Behind a member stands a comma or the closing brace. -/
theorem tail_eq_cons (ms : List (String × Value)) (rest : Octets) :
    ∃ b bs, encodeChars (tailChars ms) ++ Json.closeObject :: rest = b :: bs ∧
      (b = Json.comma ∨ b = Json.closeObject) := by
  cases ms with
  | nil => exact ⟨_, _, rfl, .inr rfl⟩
  | cons m ms => exact ⟨_, _, rfl, .inl rfl⟩

/-- The declared member of a name is the one that has it. -/
theorem Shape.field?_of_mem (hnodup : (s.fields.map (·.name)).Nodup) (hf : f ∈ s.fields) :
    s.field? f.name = some f := by
  unfold field?
  generalize s.fields = fields at hnodup hf
  induction fields with
  | nil => exact absurd hf List.not_mem_nil
  | cons g gs ih =>
    rw [List.map_cons, List.nodup_cons] at hnodup
    rcases List.mem_cons.1 hf with rfl | hf
    · exact List.find?_cons_of_pos (by simp)
    · have hne : g.name ≠ f.name := fun h => hnodup.1 (List.mem_map.2 ⟨f, hf, h.symm⟩)
      rw [List.find?_cons_of_neg (by simpa using hne)]
      exact ih hnodup.2 hf

/-- Adding a member leaves the others. -/
theorem Draft.get?_add_of_ne {name name' : String} (h : name' ≠ name) :
    (d.add name x).get? name' = d.get? name' := by
  unfold get? add
  rw [List.find?_cons_of_neg (by simpa using h.symm)]

/-- Members that are new stay new when one of another name is added. -/
theorem Draft.get?_add_of_new (hnew : ∀ g ∈ fs, d.get? g.name = none)
    (hname : f.name ∉ fs.map (·.name)) : ∀ g ∈ fs, (d.add f.name x).get? g.name = none := by
  intro g hg
  have hne : g.name ≠ f.name := fun heq => hname (List.mem_map.2 ⟨g, hg, heq⟩)
  rw [Draft.get?_add_of_ne hne, hnew g hg]

/-- **The members behind the first are read** into the draft, the latest in front. -/
theorem readMembers_of_fills (h : Fills fs ms xs) (hfields : ∀ f ∈ fs, s.field? f.name = some f)
    (hnodup : (fs.map (·.name)).Nodup) (hnew : ∀ f ∈ fs, d.get? f.name = none)
    (hfuel : fs.length < fuel) :
    readMembers s fuel false d (encodeChars (tailChars ms) ++ Json.closeObject :: rest) =
      .ok (⟨xs.reverse ++ d.entries⟩, rest) := by
  induction h generalizing d fuel with
  | nil =>
    obtain ⟨fuel, rfl⟩ : ∃ n, fuel = n + 1 := ⟨fuel - 1, by omega⟩
    rfl
  | @cons f v x fs ms xs h hs ih =>
    obtain ⟨fuel, rfl⟩ : ∃ n, fuel = n + 1 := ⟨fuel - 1, by omega⟩
    obtain ⟨hfield, hfields⟩ := List.forall_mem_cons.1 hfields
    obtain ⟨hnone, hnew⟩ := List.forall_mem_cons.1 hnew
    obtain ⟨hfirst, hnodup⟩ := List.nodup_cons.1 hnodup
    obtain ⟨b, bs, hbs, hb⟩ := tail_eq_cons ms rest
    rw [encodeChars_tailChars_cons, List.cons_append, List.cons_append, List.append_assoc,
      readMembers_of_conveys hfield hnone h (hbs ▸ endsNumber_of_mem hb) rfl,
      ih hfields hnodup (Draft.get?_add_of_new hnew hfirst) (Nat.lt_of_succ_lt_succ hfuel),
      List.reverse_cons, List.append_assoc]
    rfl

/-- The members of a record are read into the draft with their data. -/
theorem readMembers_memberChars (h : Fills fs ms xs) (hfields : ∀ f ∈ fs, s.field? f.name = some f)
    (hnodup : (fs.map (·.name)).Nodup) (hfuel : fs.length < fuel) :
    readMembers s fuel true .empty
      (encodeChars (Value.memberChars ms) ++ Json.closeObject :: rest) =
        .ok (⟨xs.reverse⟩, rest) := by
  obtain ⟨fuel, rfl⟩ : ∃ n, fuel = n + 1 := ⟨fuel - 1, by omega⟩
  cases h with
  | nil => rfl
  | @cons f v x fs ms xs h hs =>
    obtain ⟨hfield, hfields⟩ := List.forall_mem_cons.1 hfields
    obtain ⟨hfirst, hnodup⟩ := List.nodup_cons.1 hnodup
    have hnew := Draft.get?_add_of_new (d := .empty) (x := x) (fun g _ => rfl) hfirst
    obtain ⟨b, bs, hbs, hb⟩ := tail_eq_cons ms rest
    rw [memberChars_cons, encodeChars_append, encodeChars_memberChar, List.cons_append,
      List.cons_append, List.append_assoc,
      readMembers_of_conveys hfield rfl h (hbs ▸ endsNumber_of_mem hb) rfl,
      readMembers_of_fills hs hfields hnodup hnew (Nat.lt_of_succ_lt_succ hfuel),
      List.reverse_cons]
    rfl

theorem Fills.length_eq (h : Fills fs ms xs) : fs.length = ms.length := by
  induction h with
  | nil => rfl
  | cons _ _ ih => rw [List.length_cons, List.length_cons, ih]

/-- Every member takes up room. -/
theorem length_le_length_tailChars (ms : List (String × Value)) :
    ms.length ≤ (encodeChars (tailChars ms)).length := by
  induction ms with
  | nil => exact Nat.zero_le _
  | cons m ms ih =>
    rw [encodeChars_tailChars_cons m.1 m.2]
    simp only [List.length_cons, List.length_append]
    omega

theorem length_le_length_memberChars (ms : List (String × Value)) :
    ms.length ≤ (encodeChars (Value.memberChars ms)).length := by
  cases ms with
  | nil => exact Nat.zero_le _
  | cons m ms =>
    have hle := length_le_length_tailChars ms
    rw [memberChars_cons, encodeChars_append, encodeChars_memberChar m.1 m.2]
    simp only [List.length_cons, List.length_append]
    omega

/-- **A record that is written in the order of its shape is read back**, if its build takes back
what the members convey. -/
theorem Format.read_object {α : Type} {format : Format α} {a : α}
    (h : Fills format.shape.fields ms xs) (hnodup : (format.shape.fields.map (·.name)).Nodup)
    (hbuild : format.build ⟨xs.reverse⟩ = .ok a) :
    format.read (Text.Utf8.encode (Value.object ms).compact) = .ok a := by
  have htext : Text.Utf8.encode (Value.object ms).compact =
      Json.openObject :: (encodeChars (Value.memberChars ms) ++ [Json.closeObject]) := by
    rw [Value.compact, Text.Utf8.encode_ofList]
    show Json.openObject :: encodeChars (Value.memberChars ms ++ ['\x7d']) = _
    rw [encodeChars_append]
    rfl
  have hfuel : format.shape.fields.length <
      (encodeChars (Value.memberChars ms) ++ [Json.closeObject]).length + 1 := by
    have hle := length_le_length_memberChars ms
    rw [h.length_eq, List.length_append]
    omega
  have hfields : ∀ f ∈ format.shape.fields, format.shape.field? f.name = some f :=
    fun f hf => Shape.field?_of_mem hnodup hf
  have hfront : format.readFront (Text.Utf8.encode (Value.object ms).compact) = .ok (a, []) := by
    rw [htext, Format.readFront, skipSpace_cons (by decide)]
    dsimp only
    rw [if_pos rfl, readMembers_memberChars h hfields hnodup hfuel]
    simp only [bind, Except.bind, hbuild, Except.mapError]
  rw [Format.read, hfront]
  rfl

end Wire
end SoilWatch
