/-
# Objects are read by their members

A record is read from any object: its members stand in any order, with any white space, among
others that are not declared.  Reading is exact (`Format.read_object_iff`): it succeeds when each
declared name occurs once, with a value of its kind, and for a closed shape when no other name
occurs; the record is then the one of those values.

What the draft holds of a declared member, followed by what the members still to come say of it,
stays the same list all along (`held`, `said`): at the end it is what all members said
(`takeAll_eq_some`), and it can be held only if that was said once (`exists_takeAll`).
-/

import SoilWatch.Proofs.Wire.Members

namespace SoilWatch
namespace Wire

open Json (Gap Tree toOption_eq_some)

variable {s : Shape} {d d' : Draft} {f : Field} {m : NamedMember} {ms : List NamedMember}

/-! ### What members say -/

/-- What a draft holds of a declared member. -/
def held (d : Draft) (f : Field) : List (Option Datum) :=
  (d.get? f.name).toList.map some

/-- What members say of a declared one: the datum that each value is under its name. -/
def said (f : Field) (ms : List NamedMember) : List (Option Datum) :=
  (ms.filter (·.name = f.name)).map fun m => f.kind.datum? m.value

theorem said_cons (f : Field) (m : NamedMember) (ms : List NamedMember) :
    said f (m :: ms) = said f [m] ++ said f ms := by
  show said f ([m] ++ ms) = _
  rw [said, List.filter_append, List.map_append]
  rfl

theorem said_of_name (h : m.name = f.name) : said f [m] = [f.kind.datum? m.value] := by
  rw [said, List.filter_cons_of_pos (by simp [h]), List.filter_nil]
  rfl

theorem said_of_other (h : m.name ≠ f.name) : said f [m] = [] := by
  rw [said, List.filter_cons_of_neg (by simp [h]), List.filter_nil]
  rfl

theorem held_empty (f : Field) : held .empty f = [] :=
  rfl

theorem held_add_self {v : Datum} : held (d.add f.name v) f = [some v] := by
  rw [held, Draft.get?, Draft.add, List.find?_cons_of_pos (by simp)]
  rfl

theorem held_of_none (h : d.get? f.name = none) : held d f = [] := by
  rw [held, h]
  rfl

theorem name_of_field? {name : String} (h : s.field? name = some f) : f.name = name := by
  simpa using List.find?_some h

/-- **A member that is taken** is declared if it has to be, and what it says is held afterwards. -/
theorem take_eq_some (h : take s d m = some d') : (s.closed → (s.field? m.name).isSome) ∧
    ∀ f, s.field? f.name = some f → held d' f = held d f ++ said f [m] := by
  unfold take at h
  cases hfield : s.field? m.name with
  | none =>
    rw [hfield] at h
    dsimp only at h
    split_ifs at h with hclosed
    obtain rfl := Option.some.inj h
    refine ⟨fun h => absurd h hclosed, fun f hf => ?_⟩
    have hother : m.name ≠ f.name := fun heq => by
      rw [heq, hf] at hfield
      cases hfield
    rw [said_of_other hother, List.append_nil]
  | some g =>
    rw [hfield] at h
    dsimp only at h
    split_ifs at h with hnew
    obtain ⟨v, hv, rfl⟩ := Option.map_eq_some_iff.1 h
    refine ⟨fun _ => rfl, fun f hf => ?_⟩
    by_cases hname : m.name = f.name
    · -- The name is declared once, so the field that was found is the one that is asked for.
      obtain rfl : g = f := by
        rw [hname, hf] at hfield
        exact (Option.some.inj hfield).symm
      have hnone : d.get? g.name = none := by
        rw [← hname]
        simpa using hnew
      rw [said_of_name hname, held_of_none hnone, hname, held_add_self, hv]
      rfl
    · rw [said_of_other hname, List.append_nil, held, Draft.get?_add_of_ne (Ne.symm hname)]
      rfl

/-- Whether a draft can hold what was said: one datum at most. -/
def Holdable (l : List (Option Datum)) : Prop :=
  ∃ o : Option Datum, l = o.toList.map some

theorem Holdable.of_append {l l' : List (Option Datum)} (h : Holdable (l ++ l')) : Holdable l := by
  obtain ⟨_ | x, ho⟩ := h
  · exact ⟨none, (List.append_eq_nil_iff.1 ho).1⟩
  · rcases List.append_eq_singleton_iff.1 ho with ⟨hl, -⟩ | ⟨hl, -⟩
    · exact ⟨none, hl⟩
    · exact ⟨some x, hl⟩

/-- A member is taken if it is declared or need not be, and if what it says can be held. -/
theorem exists_take (hdeclared : s.closed → (s.field? m.name).isSome)
    (hsaid : ∀ f, s.field? f.name = some f → Holdable (held d f ++ said f [m])) :
    ∃ d', take s d m = some d' := by
  unfold take
  cases hfield : s.field? m.name with
  | none =>
    have hopen : ¬ s.closed = true := fun h => by
      have := hdeclared h
      rw [hfield] at this
      cases this
    exact ⟨d, if_neg hopen⟩
  | some g =>
    have hname := name_of_field? hfield
    obtain ⟨_ | x, hx⟩ := hsaid g (by rw [hname, hfield])
    · rw [said_of_name hname.symm] at hx
      exact absurd (List.append_eq_nil_iff.1 hx).2 (List.cons_ne_nil _ _)
    · rw [said_of_name hname.symm] at hx
      obtain ⟨hheld, hdatum⟩ : held d g = [] ∧ [g.kind.datum? m.value] = [some x] :=
        (List.append_eq_singleton_iff.1 hx).resolve_right fun h =>
          absurd h.2 (List.cons_ne_nil _ _)
      have hnew : d.get? m.name = none := by
        rw [← hname]
        simpa [held] using hheld
      exact ⟨d.add m.name x, by
        dsimp only
        rw [hnew, (List.cons.inj hdatum).1]
        rfl⟩

/-- **What members say is held in the end**, behind what was held before. -/
theorem takeAll_eq_some (h : takeAll s d ms = some d') :
    (s.closed → ∀ m ∈ ms, (s.field? m.name).isSome) ∧
      ∀ f, s.field? f.name = some f → held d' f = held d f ++ said f ms := by
  induction ms generalizing d with
  | nil =>
    obtain rfl := Option.some.inj h
    exact ⟨fun _ _ hm => absurd hm List.not_mem_nil, fun f _ => (List.append_nil _).symm⟩
  | cons m ms ih =>
    rw [takeAll, Option.bind_eq_some_iff] at h
    obtain ⟨d₁, htake, hrest⟩ := h
    obtain ⟨hdeclared, hheld⟩ := take_eq_some htake
    obtain ⟨hdeclared', hheld'⟩ := ih hrest
    refine ⟨fun hclosed => List.forall_mem_cons.2 ⟨hdeclared hclosed, hdeclared' hclosed⟩,
      fun f hf => ?_⟩
    rw [hheld' f hf, hheld f hf, List.append_assoc, ← said_cons]

/-- **Members are taken if what they say can be held**, and if they are declared or need not be. -/
theorem exists_takeAll (hdeclared : s.closed → ∀ m ∈ ms, (s.field? m.name).isSome)
    (hsaid : ∀ f, s.field? f.name = some f → Holdable (held d f ++ said f ms)) :
    ∃ d', takeAll s d ms = some d' := by
  induction ms generalizing d with
  | nil => exact ⟨d, rfl⟩
  | cons m ms ih =>
    obtain ⟨d₁, htake⟩ := exists_take (d := d) (m := m)
      (fun hclosed => hdeclared hclosed m List.mem_cons_self) fun f hf => by
        have hall := hsaid f hf
        rw [said_cons, ← List.append_assoc] at hall
        exact hall.of_append
    obtain ⟨d', hrest⟩ := ih (d := d₁)
      (fun hclosed m' hm' => hdeclared hclosed m' (List.mem_cons_of_mem m hm')) fun f hf => by
        rw [(take_eq_some htake).2 f hf, List.append_assoc, ← said_cons]
        exact hsaid f hf
    exact ⟨d', by rw [takeAll, htake, Option.bind_some, hrest]⟩

/-! ### Records -/

/-- **A name occurs once**, with a value that has a property. -/
def Once (ms : List NamedMember) (name : String) (p : Tree → Prop) : Prop :=
  ∃ m, ms.filter (·.name = name) = [m] ∧ p m.value

/-- What is said once is said under a name that occurs once. -/
theorem said_eq_singleton {v : Datum} :
    said f ms = [some v] ↔ Once ms f.name fun t => f.kind.datum? t = some v := by
  unfold said Once
  constructor
  · intro h
    obtain ⟨m, hm, hv⟩ := List.map_eq_singleton_iff.1 h
    exact ⟨m, hm, hv⟩
  · rintro ⟨m, hm, hv⟩
    rw [hm, List.map_singleton, hv]

theorem held_eq_singleton {v : Datum} : held d f = [some v] ↔ d.get? f.name = some v := by
  unfold held
  cases d.get? f.name <;> simp

/-- **A record is read from an object exactly if** each declared name occurs once, with a value of its
kind, and no other name does if the shape is closed; and it is the record of those values. -/
theorem Format.read_object_iff {α : Type} {format : Format α} {a : α}
    {pairs : List (Field × Datum)} (hfields : format.shape.fields = pairs.map (·.1))
    (hnodup : (format.shape.fields.map (·.name)).Nodup)
    (hs : ∀ f ∈ format.shape.fields, f.kind.IsPlain)
    (hbuild : ∀ d, format.build d = .ok a ↔ ∀ p ∈ pairs, d.get? p.1.name = some p.2)
    (front : Gap) (ms : List NamedMember) (gap after : Gap) :
    format.read (objectOctets front ms gap after) = .ok a ↔
      (format.shape.closed → ∀ m ∈ ms, m.name ∈ format.shape.fields.map (·.name)) ∧
        ∀ p ∈ pairs, Once ms p.1.name fun t => p.1.kind.datum? t = some p.2 := by
  have hfield : ∀ p ∈ pairs, format.shape.field? p.1.name = some p.1 := fun p hp =>
    Shape.field?_of_mem hnodup (hfields ▸ List.mem_map.2 ⟨p, hp, rfl⟩)
  have hdeclared : ∀ name, (format.shape.field? name).isSome ↔
      name ∈ format.shape.fields.map (·.name) := by
    intro name
    simp [Shape.field?, List.find?_isSome]
  simp only [← hdeclared, ← said_eq_singleton]
  rw [← toOption_eq_some, Format.toOption_read hs, Option.bind_eq_some_iff]
  constructor
  · rintro ⟨d, htaken, hbuilt⟩
    obtain ⟨hclosed, hheld⟩ := takeAll_eq_some htaken
    refine ⟨hclosed, fun p hp => ?_⟩
    have hget := (hbuild d).1 (toOption_eq_some.1 hbuilt) p hp
    rw [← held_eq_singleton, hheld p.1 (hfield p hp)] at hget
    exact hget
  · rintro ⟨hclosed, hsaid⟩
    have hmem : ∀ f, format.shape.field? f.name = some f → ∃ p ∈ pairs, p.1 = f := fun f hf =>
      List.mem_map.1 (hfields ▸ List.mem_of_find?_eq_some hf)
    obtain ⟨d, htaken⟩ := exists_takeAll (d := .empty) hclosed fun f hf => by
      obtain ⟨p, hp, rfl⟩ := hmem f hf
      exact ⟨some p.2, by rw [held_empty, List.nil_append, hsaid p hp]; rfl⟩
    refine ⟨d, htaken, toOption_eq_some.2 ((hbuild d).2 fun p hp => ?_)⟩
    rw [← held_eq_singleton, (takeAll_eq_some htaken).2 p.1 (hfield p hp), held_empty,
      List.nil_append, hsaid p hp]

/-! ### The messages of devices and the bodies of requests -/

theorem text?_datum {t : Tree} {a : String} :
    Kind.text.datum? t = some (.text a) ↔ t.text? = some a := by
  simp [Kind.datum?]

theorem integer?_datum {t : Tree} {n : Int} :
    Kind.integer.datum? t = some (.integer n) ↔ t.integer? = some n := by
  simp [Kind.datum?]

theorem Draft.text_eq_ok {name a : String} : d.text name = .ok a ↔ d.get? name = some (.text a) := by
  unfold Draft.text
  split <;> simp_all

theorem Draft.integer_eq_ok {name : String} {n : Int} :
    d.integer name = .ok n ↔ d.get? name = some (.integer n) := by
  unfold Draft.integer
  split <;> simp_all

/-- A step of a build and what follows it. -/
theorem bind_eq_ok {ε α β : Type} {x : Except ε α} {g : α → Except ε β} {b : β} :
    (x >>= g) = .ok b ↔ ∃ a, x = .ok a ∧ g a = .ok b := by
  cases x <;> simp [bind, Except.bind]

end Wire

open Wire

variable (front : Json.Gap) (ms : List NamedMember) (gap after : Json.Gap)

theorem SampleMessage.read_object_iff {address : String} {capacitance temperature : Int} :
    format.read (objectOctets front ms gap after) = .ok ⟨address, capacitance, temperature⟩ ↔
      Once ms "MacAddr" (·.text? = some address) ∧
      Once ms "Capacitance" (·.integer? = some capacitance) ∧
      Once ms "Temperature" (·.integer? = some temperature) := by
  have hbuild : ∀ d, format.build d = .ok ⟨address, capacitance, temperature⟩ ↔
      ∀ p ∈ [((⟨"MacAddr", .text⟩ : Field), Datum.text address),
        (⟨"Capacitance", .integer⟩, .integer capacitance),
        (⟨"Temperature", .integer⟩, .integer temperature)], d.get? p.1.name = some p.2 := by
    simp [format, bind_eq_ok, Draft.text_eq_ok, Draft.integer_eq_ok]
  rw [Format.read_object_iff rfl (by decide) (by simp [format, Kind.IsPlain]) hbuild]
  simp [text?_datum, integer?_datum, format]

theorem ContractMessage.read_object_iff {address contract : String} :
    format.read (objectOctets front ms gap after) = .ok ⟨address, contract⟩ ↔
      Once ms "MacAddr" (·.text? = some address) ∧
      Once ms "Contract" (·.text? = some contract) := by
  have hbuild : ∀ d, format.build d = .ok ⟨address, contract⟩ ↔
      ∀ p ∈ [((⟨"MacAddr", .text⟩ : Field), Datum.text address),
        (⟨"Contract", .text⟩, .text contract)], d.get? p.1.name = some p.2 := by
    simp [format, bind_eq_ok, Draft.text_eq_ok]
  rw [Format.read_object_iff rfl (by decide) (by simp [format, Kind.IsPlain]) hbuild]
  simp [text?_datum, format]

theorem SignUp.read_object_iff {email password name : String} :
    format.read (objectOctets front ms gap after) = .ok ⟨email, password, name⟩ ↔
      (∀ m ∈ ms, m.name ∈ ["email", "password", "name"]) ∧
      Once ms "email" (·.text? = some email) ∧
      Once ms "password" (·.text? = some password) ∧
      Once ms "name" (·.text? = some name) := by
  have hbuild : ∀ d, format.build d = .ok ⟨email, password, name⟩ ↔
      ∀ p ∈ [((⟨"email", .text⟩ : Field), Datum.text email), (⟨"password", .text⟩, .text password),
        (⟨"name", .text⟩, .text name)], d.get? p.1.name = some p.2 := by
    simp [format, bind_eq_ok, Draft.text_eq_ok]
  rw [Format.read_object_iff rfl (by decide) (by simp [format, Kind.IsPlain]) hbuild]
  simp [text?_datum, format]

theorem Credentials.read_object_iff {email password : String} :
    format.read (objectOctets front ms gap after) = .ok ⟨email, password⟩ ↔
      (∀ m ∈ ms, m.name ∈ ["email", "password"]) ∧
      Once ms "email" (·.text? = some email) ∧
      Once ms "password" (·.text? = some password) := by
  have hbuild : ∀ d, format.build d = .ok ⟨email, password⟩ ↔
      ∀ p ∈ [((⟨"email", .text⟩ : Field), Datum.text email), (⟨"password", .text⟩, .text password)],
        d.get? p.1.name = some p.2 := by
    simp [format, bind_eq_ok, Draft.text_eq_ok]
  rw [Format.read_object_iff rfl (by decide) (by simp [format, Kind.IsPlain]) hbuild]
  simp [text?_datum, format]

theorem Renaming.read_object_iff {displayName : String} :
    format.read (objectOctets front ms gap after) = .ok ⟨displayName⟩ ↔
      (∀ m ∈ ms, m.name = "display_name") ∧
      Once ms "display_name" (·.text? = some displayName) := by
  have hbuild : ∀ d, format.build d = .ok ⟨displayName⟩ ↔
      ∀ p ∈ [((⟨"display_name", .text⟩ : Field), Datum.text displayName)],
        d.get? p.1.name = some p.2 := by
    simp [format, bind_eq_ok, Draft.text_eq_ok]
  rw [Format.read_object_iff rfl (by decide) (by simp [format, Kind.IsPlain]) hbuild]
  simp [text?_datum, format]

namespace Wire

/-- **Objects are read exactly by their declared members.**  The messages of devices are read from an
object if each declared name occurs once with a value of its kind, whatever other members there are;
the bodies of requests if their members are the declared ones, each once, and no other.  The record
is that of the declared values, and nothing else in the object has a part in it. -/
theorem objects_are_read_exactly (front : Json.Gap) (ms : List NamedMember)
    (gap after : Json.Gap) :
    (∀ address capacitance temperature,
      SampleMessage.format.read (objectOctets front ms gap after) =
          .ok ⟨address, capacitance, temperature⟩ ↔
        Once ms "MacAddr" (·.text? = some address) ∧
        Once ms "Capacitance" (·.integer? = some capacitance) ∧
        Once ms "Temperature" (·.integer? = some temperature)) ∧
    (∀ address contract,
      ContractMessage.format.read (objectOctets front ms gap after) = .ok ⟨address, contract⟩ ↔
        Once ms "MacAddr" (·.text? = some address) ∧
        Once ms "Contract" (·.text? = some contract)) ∧
    (∀ email password name,
      SignUp.format.read (objectOctets front ms gap after) = .ok ⟨email, password, name⟩ ↔
        (∀ m ∈ ms, m.name ∈ ["email", "password", "name"]) ∧
        Once ms "email" (·.text? = some email) ∧
        Once ms "password" (·.text? = some password) ∧
        Once ms "name" (·.text? = some name)) ∧
    (∀ email password,
      Credentials.format.read (objectOctets front ms gap after) = .ok ⟨email, password⟩ ↔
        (∀ m ∈ ms, m.name ∈ ["email", "password"]) ∧
        Once ms "email" (·.text? = some email) ∧
        Once ms "password" (·.text? = some password)) ∧
    ∀ displayName,
      Renaming.format.read (objectOctets front ms gap after) = .ok ⟨displayName⟩ ↔
        (∀ m ∈ ms, m.name = "display_name") ∧
        Once ms "display_name" (·.text? = some displayName) :=
  ⟨fun _ _ _ => SampleMessage.read_object_iff front ms gap after,
    fun _ _ => ContractMessage.read_object_iff front ms gap after,
    fun _ _ _ => SignUp.read_object_iff front ms gap after,
    fun _ _ => Credentials.read_object_iff front ms gap after,
    fun _ => Renaming.read_object_iff front ms gap after⟩

end Wire
end SoilWatch
