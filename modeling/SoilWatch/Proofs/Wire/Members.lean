/-
# The members of an object

A member of an object is taken or refused by its name and its value alone (`take`), and the members
of an object one after another (`takeAll`), in whatever order they stand and with whatever white
space: this is what reading a record from the octets of an object comes to (`Format.toOption_read`).
A declared member is read as the datum that its value is (`readDatum_octets`), any other is passed
over or refused without a look at its value.
-/

import SoilWatch.Proofs.Json.Skip
import SoilWatch.Proofs.Wire.Record

namespace SoilWatch
namespace Wire

open Json (EndsNumber Gap Piece Tree endsNumber_cons endsNumber_gap toOption_eq_none
  toOption_eq_some)

/-- **A member of an object whose name is a text.** -/
structure NamedMember extends Json.Member Tree where
  name : String
  spelled : Json.textOf key = some name

/-- The datum that a value is where a text or an integer is asked for. -/
def Kind.datum? : Kind → Tree → Option Datum
  | .text, t => t.text?.map .text
  | .integer, t => t.integer?.map .integer
  | _, _ => none

/-- The kinds of the members that devices and forms send. -/
def Kind.IsPlain (k : Kind) : Prop :=
  k = .text ∨ k = .integer

variable {s : Shape} {d d' : Draft} {f : Field} {m : NamedMember} {ms : List NamedMember}
  {rest : Octets}

/-! ### Values -/

theorem toOption_mapError {ε ε' α : Type} (g : ε → ε') (r : Except ε α) :
    (r.mapError g).toOption = r.toOption := by
  cases r <;> rfl

theorem skipSpace_gap (gap : Gap) (rest : Octets) :
    Json.skipSpace (gap.octets ++ rest) = Json.skipSpace rest :=
  List.dropWhile_append_of_pos gap.space

theorem text?_of_not_text {t : Tree} (h : ∀ ps, t ≠ .text ps) : t.text? = none := by
  cases t with
  | text ps => exact absurd rfl (h ps)
  | _ => rfl

theorem integer?_of_not_number {t : Tree} (h : ∀ n, t ≠ .number n) : t.integer? = none := by
  cases t with
  | number n => exact absurd rfl (h n)
  | _ => rfl

/-- A text is read as what it stands for, and nothing else is read as a text. -/
theorem readText_octets (expected : String) (front : Gap) (t : Tree) (rest : Octets) :
    (readText expected (front.octets ++ (t.octets ++ rest))).toOption =
      t.text?.map (·, rest) := by
  obtain ⟨b, bs, hbs, hspace, -, htext, -⟩ := t.octets_eq_cons
  rw [readText, skipSpace_gap, hbs, List.cons_append, skipSpace_cons hspace]
  dsimp only
  by_cases hquote : b = Json.quote
  · obtain ⟨ps, rfl⟩ := htext hquote
    obtain ⟨rfl, rfl⟩ := List.cons.inj hbs
    rw [if_pos hquote, toOption_mapError, List.append_assoc]
    exact Json.readText_literal ps rest
  · have hnone : t.text? = none := text?_of_not_text fun ps h => by
      subst h
      exact hquote (List.cons.inj hbs).1.symm
    rw [if_neg hquote, hnone]
    rfl

/-- A number is read as the integer that it is, and nothing else is read as an integer. -/
theorem readInteger_octets (front : Gap) (t : Tree) (hrest : EndsNumber rest) :
    (readInteger (front.octets ++ (t.octets ++ rest))).toOption =
      t.integer?.map (·, rest) := by
  obtain ⟨b, bs, hbs, hspace, -, -, hnumber⟩ := t.octets_eq_cons
  rw [readInteger, skipSpace_gap, hbs, List.cons_append, skipSpace_cons hspace]
  dsimp only
  by_cases hfirst : b = Json.minus ∨ Json.isDigit b = true
  · obtain ⟨n, rfl⟩ := hnumber hfirst
    have hread := n.int64Of_readNumber hrest
    rw [show n.octets = b :: bs from hbs, List.cons_append] at hread
    rw [if_pos hfirst, show Tree.integer? (.number n) = n.integer? from rfl, ← hread]
    rcases Json.readNumber (b :: (bs ++ rest)) with _ | ⟨k | x, rest'⟩
    · rfl
    · show (if k ≤ _ then _ else _ : Except Json.Error (Int × Octets)).toOption =
        (if k ≤ _ then _ else _ : Option Int).map _
      split_ifs <;> rfl
    · rfl
  · have hnone : t.integer? = none := integer?_of_not_number fun n h => by
      subst h
      obtain ⟨c, cs, hcs, hc⟩ := n.octets_eq_cons
      exact hfirst ((List.cons.inj (hbs.symm.trans hcs)).1 ▸ hc)
    rw [if_neg hfirst, hnone]
    rfl

/-- **A value is read as the datum that it is**, and not read if it is none. -/
theorem readDatum_octets {k : Kind} (hk : k.IsPlain) (front : Gap) (t : Tree)
    (hrest : EndsNumber rest) :
    (readDatum k (front.octets ++ (t.octets ++ rest))).toOption =
      (k.datum? t).map (·, rest) := by
  have hmap : ∀ {α : Type} {r : Except Json.Error (α × Octets)} {o : Option α} (g : α → Datum),
      r.toOption = o.map (·, rest) →
        (r.map fun p => (g p.1, p.2)).toOption = (o.map g).map (·, rest) := by
    intro α r o g h
    cases r <;> cases o <;> simp_all [Except.toOption, Except.map]
  rcases hk with rfl | rfl
  · exact hmap .text (readText_octets Kind.text.expected front t rest)
  · exact hmap .integer (readInteger_octets front t hrest)

/-! ### Members -/

/-- What becomes of a draft with a member, by its name and its value. -/
def take (s : Shape) (d : Draft) (m : NamedMember) : Option Draft :=
  match s.field? m.name with
  | none => if s.closed then none else some d
  | some f =>
    if (d.get? m.name).isSome then none else (f.kind.datum? m.value).map (d.add m.name)

/-- What becomes of a draft with members, one after another. -/
def takeAll (s : Shape) : Draft → List NamedMember → Option Draft
  | d, [] => some d
  | d, m :: ms => (take s d m).bind fun d => takeAll s d ms

theorem readColon_gap (gap : Gap) (rest : Octets) :
    readColon (gap.octets ++ Json.colon :: rest) = .ok rest := by
  rw [readColon, skipSpace_gap, skipSpace_cons (by decide)]
  exact if_pos rfl

/-- **A member is taken by its name and its value,** up to what stands behind the value. -/
theorem readMember_octets (hs : ∀ f ∈ s.fields, f.kind.IsPlain) (m : NamedMember)
    (hrest : EndsNumber rest) :
    (readMember s d m.name (m.behind.octets ++ Json.colon ::
        (m.front.octets ++ (m.value.octets ++ rest)))).toOption =
      (take s d m).map (·, rest) := by
  unfold readMember take
  cases hfield : s.field? m.name with
  | none =>
    dsimp only
    split_ifs
    · rfl
    · rw [readColon_gap]
      dsimp only
      rw [Json.skipValue_octets m.front m.value hrest]
      rfl
  | some f =>
    have hkind := hs f (List.mem_of_find?_eq_some hfield)
    have hread := readDatum_octets hkind m.front m.value hrest
    dsimp only
    split_ifs
    · rfl
    · rw [readColon_gap]
      dsimp only
      generalize readDatum f.kind (m.front.octets ++ (m.value.octets ++ rest)) = r at hread ⊢
      cases hdatum : f.kind.datum? m.value with
      | none =>
        rw [hdatum, Option.map_none, toOption_eq_none] at hread
        obtain ⟨e, rfl⟩ := hread
        rfl
      | some v =>
        rw [hdatum, Option.map_some, toOption_eq_some] at hread
        rw [hread]
        rfl

/-- The octets of a member. -/
def NamedMember.octets (m : NamedMember) : Octets :=
  m.before.octets ++ (Json.keyOctets m.key m.behind ++
    (m.front.octets ++ (m.value.octets ++ m.after.octets)))

/-- The octets of members that stand behind another, and of what closes the object. -/
def tailOctets (ms : List NamedMember) (gap : Gap) (rest : Octets) : Octets :=
  ms.flatMap (fun m => Json.comma :: m.octets) ++ (gap.octets ++ Json.closeObject :: rest)

theorem tailOctets_cons (m : NamedMember) (ms : List NamedMember) (gap : Gap) (rest : Octets) :
    tailOctets (m :: ms) gap rest = Json.comma :: (m.octets ++ tailOctets ms gap rest) := by
  rw [tailOctets, List.flatMap_cons, List.append_assoc]
  rfl

theorem endsNumber_tail (ms : List NamedMember) (gap : Gap) (rest : Octets) :
    EndsNumber (tailOctets ms gap rest) := by
  cases ms with
  | nil => exact endsNumber_gap gap (endsNumber_cons (by decide))
  | cons m ms => exact endsNumber_cons (by decide)

/-- The name of a member is read. -/
theorem readText_key (m : NamedMember) (rest : Octets) :
    Json.readText (Json.literal m.key ++ Json.quote :: rest) = .ok (m.name, rest) := by
  have h := Json.readText_literal m.key rest
  rwa [m.spelled, Option.map_some, toOption_eq_some] at h

/-- **A member that is due is read and taken**, and the others behind it. -/
theorem readMembers_cons (hs : ∀ f ∈ s.fields, f.kind.IsPlain) {first : Bool} {fuel : Nat}
    {bs : Octets} (hnext : nextMember first bs = .ok (true, Json.literal m.key ++ Json.quote ::
      (m.behind.octets ++ Json.colon :: (m.front.octets ++ (m.value.octets ++ rest)))))
    (hrest : EndsNumber rest) : (readMembers s (fuel + 1) first d bs).toOption =
      (take s d m).bind fun d => (readMembers s fuel false d rest).toOption := by
  have hmember := readMember_octets (d := d) hs m hrest
  rw [readMembers, hnext]
  dsimp only
  rw [readText_key]
  dsimp only
  cases htake : take s d m with
  | none =>
    rw [htake, Option.map_none, toOption_eq_none] at hmember
    obtain ⟨e, hmember⟩ := hmember
    rw [hmember]
    rfl
  | some d' =>
    rw [htake, Option.map_some, toOption_eq_some] at hmember
    rw [hmember]
    rfl

/-- A member that is due begins, behind white space, with the quote of its key. -/
theorem octets_eq_quote (m : NamedMember) (rest : Octets) : ∃ bs,
    Json.skipSpace (m.octets ++ rest) = Json.quote :: bs ∧
    bs = Json.literal m.key ++ Json.quote :: (m.behind.octets ++ Json.colon ::
      (m.front.octets ++ (m.value.octets ++ (m.after.octets ++ rest)))) := by
  refine ⟨_, ?_, rfl⟩
  rw [NamedMember.octets, List.append_assoc, skipSpace_gap, Json.keyOctets, List.cons_append,
    List.cons_append, skipSpace_cons (by decide)]
  simp only [List.append_assoc, List.cons_append, List.nil_append]

/-- **Members are taken one after another** up to the closing bracket. -/
theorem readMembers_tail (hs : ∀ f ∈ s.fields, f.kind.IsPlain) (gap after : Gap) {fuel : Nat}
    (hfuel : ms.length < fuel) :
    (readMembers s fuel false d (after.octets ++ tailOctets ms gap rest)).toOption =
      (takeAll s d ms).map (·, rest) := by
  induction ms generalizing d after fuel with
  | nil =>
    obtain ⟨fuel, rfl⟩ := Nat.exists_eq_succ_of_ne_zero (Nat.ne_of_gt hfuel)
    have hnext : nextMember false (after.octets ++ tailOctets [] gap rest) = .ok (false, rest) := by
      rw [nextMember, skipSpace_gap, tailOctets, List.flatMap_nil, List.nil_append, skipSpace_gap,
        skipSpace_cons (by decide)]
      exact if_pos rfl
    rw [readMembers, hnext]
    rfl
  | cons m ms ih =>
    obtain ⟨fuel, rfl⟩ := Nat.exists_eq_succ_of_ne_zero (Nat.ne_of_gt (Nat.zero_lt_of_lt hfuel))
    obtain ⟨bs, hkey, hbs⟩ := octets_eq_quote m (tailOctets ms gap rest)
    have hnext : nextMember false (after.octets ++ tailOctets (m :: ms) gap rest) =
        .ok (true, bs) := by
      rw [nextMember, skipSpace_gap, tailOctets_cons, skipSpace_cons (by decide)]
      dsimp only
      rw [if_neg (by decide), if_neg (by decide), if_pos rfl, hkey]
      exact if_pos rfl
    rw [hbs] at hnext
    rw [readMembers_cons hs hnext (endsNumber_gap m.after (endsNumber_tail ms gap rest)), takeAll]
    cases take s d m with
    | none => rfl
    | some d' => exact ih m.after (Nat.lt_of_succ_lt_succ hfuel)

/-- The octets of the members of an object, from the first on, and of what closes it. -/
def membersOctets (ms : List NamedMember) (gap : Gap) (rest : Octets) : Octets :=
  [Json.comma].intercalate (Json.memberTexts (ms.map NamedMember.toMember)) ++
    (gap.octets ++ Json.closeObject :: rest)

theorem membersOctets_cons (m : NamedMember) (ms : List NamedMember) (gap : Gap)
    (rest : Octets) : membersOctets (m :: ms) gap rest = m.octets ++ tailOctets ms gap rest := by
  induction ms generalizing m with
  | nil =>
    rw [membersOctets, List.map_singleton, Json.memberTexts, Json.memberTexts,
      List.intercalate_singleton]
    rfl
  | cons m' ms ih =>
    have hrest := ih m'
    rw [membersOctets, List.map_cons, Json.memberTexts] at hrest
    rw [membersOctets, List.map_cons, List.map_cons, Json.memberTexts, Json.memberTexts,
      List.intercalate_cons_cons, List.append_assoc, List.append_assoc, hrest, tailOctets_cons]
    rfl

/-- Each member has an octet, and so has the closing bracket. -/
theorem length_lt_length_tailOctets (ms : List NamedMember) (gap : Gap) (rest : Octets) :
    ms.length < (tailOctets ms gap rest).length := by
  induction ms with
  | nil =>
    rw [tailOctets, List.flatMap_nil, List.nil_append, List.length_append, List.length_cons]
    exact Nat.succ_pos _
  | cons m ms ih =>
    rw [tailOctets_cons, List.length_cons, List.length_cons, List.length_append]
    omega

/-- **The members of an object are taken one after another.** -/
theorem readMembers_octets (hs : ∀ f ∈ s.fields, f.kind.IsPlain) (gap : Gap) {fuel : Nat}
    (hfuel : (membersOctets ms gap rest).length < fuel) :
    (readMembers s fuel true d (membersOctets ms gap rest)).toOption =
      (takeAll s d ms).map (·, rest) := by
  obtain ⟨fuel, rfl⟩ := Nat.exists_eq_succ_of_ne_zero (Nat.ne_of_gt (Nat.zero_lt_of_lt hfuel))
  cases ms with
  | nil =>
    have hnext : nextMember true (membersOctets [] gap rest) = .ok (false, rest) := by
      rw [nextMember, membersOctets, List.map_nil, Json.memberTexts, List.intercalate_nil,
        List.nil_append, skipSpace_gap, skipSpace_cons (by decide)]
      exact if_pos rfl
    rw [readMembers, hnext]
    rfl
  | cons m ms =>
    have hlength := length_lt_length_tailOctets ms gap rest
    rw [membersOctets_cons] at hfuel ⊢
    obtain ⟨bs, hkey, hbs⟩ := octets_eq_quote m (tailOctets ms gap rest)
    have hnext : nextMember true (m.octets ++ tailOctets ms gap rest) = .ok (true, bs) := by
      rw [nextMember, hkey]
      dsimp only
      rw [if_neg (by decide), if_pos rfl]
      exact if_pos rfl
    rw [hbs] at hnext
    rw [readMembers_cons hs hnext (endsNumber_gap m.after (endsNumber_tail ms gap rest)), takeAll]
    have hshort : ms.length < fuel := by
      rw [List.length_append] at hfuel
      omega
    cases take s d m with
    | none => rfl
    | some d' => exact readMembers_tail hs gap m.after hshort

/-- **An object as it is written**, with white space around it. -/
def objectOctets (front : Gap) (ms : List NamedMember) (gap after : Gap) : Octets :=
  front.octets ++ ((Tree.object (ms.map NamedMember.toMember) gap).octets ++ after.octets)

/-- **A record is read from an object** as the members of the object, taken one after another, build
it. -/
theorem Format.toOption_read {α : Type} {format : Format α}
    (hs : ∀ f ∈ format.shape.fields, f.kind.IsPlain) (front : Gap) (ms : List NamedMember)
    (gap after : Gap) : (format.read (objectOctets front ms gap after)).toOption =
      (takeAll format.shape .empty ms).bind fun d => (format.build d).toOption := by
  have hobject : objectOctets front ms gap after =
      front.octets ++ Json.openObject :: membersOctets ms gap after.octets := by
    simp only [objectOctets, membersOctets, Tree.octets, List.append_assoc, List.cons_append,
      List.nil_append]
  have hspace : Json.skipSpace after.octets = [] := by
    have h := skipSpace_gap after []
    rwa [List.append_nil] at h
  have hmembers := readMembers_octets (d := .empty) hs gap
    (Nat.lt_succ_self (membersOctets ms gap after.octets).length)
  rw [Format.read, Format.readFront, hobject, skipSpace_gap, skipSpace_cons (by decide)]
  dsimp only
  rw [if_pos rfl]
  cases htaken : takeAll format.shape .empty ms with
  | none =>
    rw [htaken, Option.map_none, toOption_eq_none] at hmembers
    obtain ⟨e, hmembers⟩ := hmembers
    rw [hmembers]
    rfl
  | some d =>
    rw [htaken, Option.map_some, toOption_eq_some] at hmembers
    rw [hmembers, Option.bind_some]
    simp only [bind, Except.bind]
    cases format.build d with
    | error e => rfl
    | ok a =>
      simp only [Except.mapError, hspace, List.isEmpty_nil, if_true]
      rfl

end Wire
end SoilWatch
