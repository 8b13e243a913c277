/-
# Values in form encoding

There is more than one way to encode a value: an octet may be written as a percent sign and two
digits of either case, a space as a plus sign, and a character that means nothing else in a query as
itself (`Form.Encodes`).  However it is done, the value is read back (`component_of_encodes`), and so
are a name and its value that stand alone in a query (`pairs_of_encodes`); the pairs of a longer query
are those in front of an ampersand and those behind it (`pairs_append`).  An ASCII text without
percent and plus signs stands for itself (`component_of_bare`).
-/

import SoilWatch.Proofs.Text.Digits
import SoilWatch.Proofs.Text.Utf8
import SoilWatch.Text.Form

namespace SoilWatch
namespace Text

namespace Utf8

/-- A text is read from its octets also where ill-formed pieces would be replaced. -/
theorem decodeLossy_encode (s : String) : decodeLossy (encode s) = s := by
  have htaken : (encode s).foldl Machine.push ⟨[], none⟩ = ⟨(s.toList.map some).reverse, none⟩ :=
    (foldl_encodeChars [] s.toList).trans (by rw [List.append_nil])
  rw [decodeLossy, pieces, htaken]
  simp [Machine.finish, Function.comp_def]

end Utf8

/-- What does not hold the separator is one piece. -/
theorem split_of_not_mem {α : Type} [DecidableEq α] {sep : α} {xs : List α} (h : sep ∉ xs) :
    split sep xs = [xs] := by
  induction xs with
  | nil => rfl
  | cons x xs ih =>
    obtain ⟨hx, hxs⟩ := not_or.1 (mt List.mem_cons.2 h)
    unfold split at ih ⊢
    rw [List.foldr_cons, ih hxs, if_neg (Ne.symm hx)]

theorem split_ne_nil {α : Type} [DecidableEq α] (sep : α) (xs : List α) : split sep xs ≠ [] := by
  unfold split
  cases xs with
  | nil => exact List.cons_ne_nil _ _
  | cons x xs =>
    rw [List.foldr_cons]
    split_ifs
    · exact List.cons_ne_nil _ _
    · split <;> exact List.cons_ne_nil _ _

/-- A separator ends the pieces in front of it and begins those behind it. -/
theorem split_append {α : Type} [DecidableEq α] (sep : α) (xs ys : List α) :
    split sep (xs ++ sep :: ys) = split sep xs ++ split sep ys := by
  induction xs with
  | nil =>
    unfold split
    rw [List.nil_append, List.foldr_cons, if_pos rfl]
    rfl
  | cons x xs ih =>
    obtain ⟨p, ps, hpieces⟩ := List.exists_cons_of_ne_nil (split_ne_nil sep xs)
    rw [hpieces] at ih
    unfold split at *
    rw [List.cons_append, List.foldr_cons, List.foldr_cons, ih, hpieces]
    split_ifs <;> rfl

namespace Form

/-- The octet of an ASCII character. -/
def octet (c : Char) : UInt8 :=
  UInt8.ofNat c.toNat

/-- Whether a character stands for itself in a name or a value: a letter, a digit, or one of the
marks that mean nothing in a query. -/
def isPlain (c : Char) : Bool :=
  let n := c.toNat
  n = 0x21 || n = 0x24 || (0x27 ≤ n && n ≤ 0x2A) || (0x2C ≤ n && n ≤ 0x3B) ||
    (0x3F ≤ n && n ≤ 0x5A) || n = 0x5F || (0x61 ≤ n && n ≤ 0x7A) || n = 0x7E

/-- **The ways to encode octets.** -/
inductive Encodes : Octets → List Char → Prop where
  | nil : Encodes [] []
  | plain {c : Char} {bs : Octets} {cs : List Char} (hc : isPlain c) (h : Encodes bs cs) :
    Encodes (octet c :: bs) (c :: cs)
  | space {bs : Octets} {cs : List Char} (h : Encodes bs cs) : Encodes (0x20 :: bs) ('+' :: cs)
  | escaped {c c' : Char} {x y : Nat} {bs : Octets} {cs : List Char} (hc : c.toNat < 0x80)
    (hc' : c'.toNat < 0x80) (hx : hexValue? (octet c) = some x) (hy : hexValue? (octet c') = some y)
    (h : Encodes bs cs) : Encodes (UInt8.ofNat (x * 16 + y) :: bs) ('%' :: c :: c' :: cs)

/-- Whether a character is ASCII, and not one that separates pieces or ends a query. -/
abbrev IsClear (c : Char) : Prop :=
  c.toNat < 0x80 ∧ c.toNat ≠ 0x26 ∧ c.toNat ≠ 0x3D ∧ c.toNat ≠ 0x23

section Octet

variable {c : Char} {x : Nat}

theorem toNat_octet (h : c.toNat < 0x80) : (octet c).toNat = c.toNat := by
  rw [octet, UInt8.toNat_ofNat']
  omega

theorem octet_ne (h : c.toNat < 0x80) {b : UInt8} (hb : c.toNat ≠ b.toNat) : octet c ≠ b :=
  fun heq => hb (by rw [← heq, toNat_octet h])

theorem isClear_of_plain (hc : isPlain c) : IsClear c ∧ octet c ≠ percent ∧ octet c ≠ 0x2B := by
  have hmark : c.toNat < 0x80 ∧ c.toNat ≠ 0x26 ∧ c.toNat ≠ 0x3D ∧ c.toNat ≠ 0x23 ∧
      c.toNat ≠ 0x25 ∧ c.toNat ≠ 0x2B := by
    simp only [isPlain, Bool.or_eq_true, Bool.and_eq_true, decide_eq_true_eq] at hc
    omega
  obtain ⟨hascii, hamp, heq, hhash, hpercent, hplus⟩ := hmark
  exact ⟨⟨hascii, hamp, heq, hhash⟩, octet_ne hascii hpercent, octet_ne hascii hplus⟩

theorem isClear_of_hexValue? (hc : c.toNat < 0x80) (hx : hexValue? (octet c) = some x) :
    IsClear c ∧ octet c ≠ 0x2B := by
  have hdigit : c.toNat ≠ 0x26 ∧ c.toNat ≠ 0x3D ∧ c.toNat ≠ 0x23 ∧ c.toNat ≠ 0x2B := by
    unfold hexValue? at hx
    dsimp only at hx
    rw [toNat_octet hc] at hx
    split_ifs at hx <;> omega
  exact ⟨⟨hc, hdigit.1, hdigit.2.1, hdigit.2.2.1⟩, octet_ne hc hdigit.2.2.2⟩

end Octet

variable {bs : Octets} {cs : List Char}

/-- ASCII characters are their octets. -/
theorem encodeChars_ascii (h : ∀ c ∈ cs, c.toNat < 0x80) : Utf8.encodeChars cs = cs.map octet := by
  induction cs with
  | nil => rfl
  | cons c cs ih =>
    obtain ⟨hc, hcs⟩ := List.forall_mem_cons.1 h
    have hone : String.utf8EncodeChar c = [octet c] := by
      have hoctet := Utf8.encodeChar_one hc
      rwa [Char.ofNat_toNat] at hoctet
    show String.utf8EncodeChar c ++ Utf8.encodeChars cs = _
    rw [hone, ih hcs]
    rfl

theorem encode_ascii (h : ∀ c ∈ cs, c.toNat < 0x80) :
    Utf8.encode (String.ofList cs) = cs.map octet := by
  rw [Utf8.encode_ofList, encodeChars_ascii h]

/-- An encoded value separates no pieces and ends no query. -/
theorem Encodes.isClear (h : Encodes bs cs) : ∀ c ∈ cs, IsClear c := by
  induction h with
  | nil => exact fun _ hc => absurd hc List.not_mem_nil
  | plain hc _ ih => exact List.forall_mem_cons.2 ⟨(isClear_of_plain hc).1, ih⟩
  | space _ ih => exact List.forall_mem_cons.2 ⟨by decide, ih⟩
  | escaped hc hc' hx hy _ ih =>
    refine List.forall_mem_cons.2 ⟨by decide, List.forall_mem_cons.2 ⟨?_, ?_⟩⟩
    · exact (isClear_of_hexValue? hc hx).1
    · exact List.forall_mem_cons.2 ⟨(isClear_of_hexValue? hc' hy).1, ih⟩

/-- Encoded octets behind each other encode both. -/
theorem Encodes.append (h : Encodes bs cs) {bs' : Octets} {cs' : List Char}
    (h' : Encodes bs' cs') : Encodes (bs ++ bs') (cs ++ cs') := by
  induction h with
  | nil => exact h'
  | plain hc _ ih => exact .plain hc ih
  | space _ ih => exact .space ih
  | escaped hc hc' hx hy _ ih => exact .escaped hc hc' hx hy ih

/-- Any other octet than a percent sign is taken as it is. -/
theorem percentDecodeOnto_cons {b : UInt8} (hb : b ≠ percent) (back : List UInt8) (rest : Octets) :
    percentDecodeOnto back (b :: rest) = percentDecodeOnto (b :: back) rest := by
  rcases rest with _ | ⟨_, _ | ⟨_, rest⟩⟩ <;> conv_lhs => unfold percentDecodeOnto
  all_goals exact if_neg hb

/-- **An encoded value is decoded** to what was encoded. -/
theorem percentDecodeOnto_of_encodes (h : Encodes bs cs) (back : List UInt8) :
    percentDecodeOnto back (spaces (cs.map octet)) = back.reverse ++ bs := by
  induction h generalizing back with
  | nil => simp [spaces, percentDecodeOnto]
  | @plain c bs cs hc _ ih =>
    obtain ⟨-, hpercent, hplus⟩ := isClear_of_plain hc
    show percentDecodeOnto back ((if octet c = 0x2B then 0x20 else octet c) :: spaces _) = _
    rw [if_neg hplus, percentDecodeOnto_cons hpercent, ih]
    simp
  | space _ ih =>
    show percentDecodeOnto back (0x20 :: spaces _) = _
    rw [percentDecodeOnto_cons (by decide), ih]
    simp
  | @escaped c c' x y bs cs hc hc' hx hy _ ih =>
    show percentDecodeOnto back (percent :: (if octet c = 0x2B then 0x20 else octet c) ::
      (if octet c' = 0x2B then 0x20 else octet c') :: spaces _) = _
    rw [if_neg (isClear_of_hexValue? hc hx).2, if_neg (isClear_of_hexValue? hc' hy).2,
      percentDecodeOnto, if_pos rfl]
    simp only [hx, hy]
    rw [ih]
    simp

/-- **An encoded value is read back.** -/
theorem component_of_encodes {value : String} (h : Encodes (Utf8.encode value) cs) :
    component (cs.map octet) = value := by
  rw [component, percentDecode, percentDecodeOnto_of_encodes h, List.reverse_nil, List.nil_append,
    Utf8.decodeLossy_encode]

/-- A name and what stands behind its equals sign are one pair; in the value another equals sign
means nothing. -/
theorem pairs_of_cut {name : String} {ns vs : List Char} (hn : Encodes (Utf8.encode name) ns)
    (hv : ∀ c ∈ vs, c.toNat < 0x80 ∧ c.toNat ≠ 0x26) :
    pairs ((ns ++ '=' :: vs).map octet) = [(name, component (vs.map octet))] := by
  have hname : ∀ b ∈ ns.map octet, b ≠ 0x3D ∧ b ≠ 0x26 := by
    refine List.forall_mem_map.2 fun c hc => ?_
    obtain ⟨hascii, hamp, heq, -⟩ := hn.isClear c hc
    exact ⟨octet_ne hascii heq, octet_ne hascii hamp⟩
  have hvalue : ∀ b ∈ vs.map octet, b ≠ 0x26 :=
    List.forall_mem_map.2 fun c hc => octet_ne (hv c hc).1 (hv c hc).2
  have hpiece : (ns ++ '=' :: vs).map octet = ns.map octet ++ 0x3D :: vs.map octet := by
    rw [List.map_append, List.map_cons]
    rfl
  have hwhole : (0x26 : UInt8) ∉ ns.map octet ++ 0x3D :: vs.map octet := by
    intro hmem
    rcases List.mem_append.1 hmem with h | h
    · exact (hname _ h).2 rfl
    · rcases List.mem_cons.1 h with h | h
      · exact absurd h (by decide)
      · exact hvalue _ h rfl
  have hcut : ∀ b ∈ ns.map octet, decide (b ≠ 0x3D) = true := fun b hb => by simp [(hname b hb).1]
  rw [hpiece, pairs, split_of_not_mem hwhole, List.filter_cons_of_pos (by simp), List.filter_nil,
    List.map_singleton, pair, List.takeWhile_append_of_pos hcut, List.dropWhile_append_of_pos hcut,
    List.takeWhile_cons_of_neg (by simp), List.dropWhile_cons_of_neg (by simp), List.append_nil,
    component_of_encodes hn]
  rfl

/-- **A name and a value that stand alone in a query are read back.** -/
theorem pairs_of_encodes {name value : String} {ns vs : List Char}
    (hn : Encodes (Utf8.encode name) ns) (hv : Encodes (Utf8.encode value) vs) :
    pairs ((ns ++ '=' :: vs).map octet) = [(name, value)] := by
  have hclear : ∀ c ∈ vs, c.toNat < 0x80 ∧ c.toNat ≠ 0x26 := fun c hc =>
    ⟨(hv.isClear c hc).1, (hv.isClear c hc).2.1⟩
  rw [pairs_of_cut hn hclear, component_of_encodes hv]

/-- The pairs in front of an ampersand are followed by those behind it. -/
theorem pairs_append (bs cs : Octets) : pairs (bs ++ 0x26 :: cs) = pairs bs ++ pairs cs := by
  rw [pairs, split_append, List.filter_append, List.map_append]
  rfl

/-- **Two names and their values with an ampersand between them are read back.** -/
theorem pairs_of_two {name value name' value' : String} {ns vs ns' vs' : List Char}
    (hn : Encodes (Utf8.encode name) ns) (hv : Encodes (Utf8.encode value) vs)
    (hn' : Encodes (Utf8.encode name') ns') (hv' : Encodes (Utf8.encode value') vs') :
    pairs (Utf8.encode (String.ofList ((ns ++ '=' :: vs) ++ '&' :: (ns' ++ '=' :: vs')))) =
      [(name, value), (name', value')] := by
  have hpiece : ∀ {bs bs' : Octets} {cs cs' : List Char}, Encodes bs cs → Encodes bs' cs' →
      ∀ c ∈ cs ++ '=' :: cs', c.toNat < 0x80 := fun h h' =>
    List.forall_mem_append.2 ⟨fun c hc => (h.isClear c hc).1,
      List.forall_mem_cons.2 ⟨by decide, fun c hc => (h'.isClear c hc).1⟩⟩
  rw [encode_ascii (List.forall_mem_append.2 ⟨hpiece hn hv,
      List.forall_mem_cons.2 ⟨by decide, hpiece hn' hv'⟩⟩), List.map_append, List.map_cons,
    show octet '&' = 0x26 from rfl, pairs_append, pairs_of_encodes hn hv, pairs_of_encodes hn' hv']
  rfl

/-! ### Values that are not encoded -/

/-- Octets without a percent sign are taken as they are. -/
theorem percentDecodeOnto_of_no_percent {bs : Octets} (h : ∀ b ∈ bs, b ≠ percent)
    (back : List UInt8) : percentDecodeOnto back bs = back.reverse ++ bs := by
  induction bs generalizing back with
  | nil => simp [percentDecodeOnto]
  | cons b bs ih =>
    obtain ⟨hb, hbs⟩ := List.forall_mem_cons.1 h
    rw [percentDecodeOnto_cons hb, ih hbs]
    simp

/-- **A value without percent and plus signs is read as it stands.** -/
theorem component_of_bare (h : ∀ c ∈ cs, c.toNat < 0x80 ∧ c.toNat ≠ 0x25 ∧ c.toNat ≠ 0x2B) :
    component (cs.map octet) = String.ofList cs := by
  have hspaces : spaces (cs.map octet) = cs.map octet := by
    refine (List.map_congr_left fun b hb => ?_).trans (List.map_id _)
    obtain ⟨c, hc, rfl⟩ := List.mem_map.1 hb
    have hplus : octet c ≠ 0x2B := octet_ne (h c hc).1 (h c hc).2.2
    exact if_neg hplus
  have hpercent : ∀ b ∈ cs.map octet, b ≠ percent :=
    List.forall_mem_map.2 fun c hc => octet_ne (h c hc).1 (h c hc).2.1
  rw [component, hspaces, percentDecode, percentDecodeOnto_of_no_percent hpercent,
    List.reverse_nil, List.nil_append, ← encode_ascii fun c hc => (h c hc).1,
    Utf8.decodeLossy_encode]

/-! ### Every text has an encoded form -/

/-- Plain characters encode their octets. -/
theorem encodes_plain (h : ∀ c ∈ cs, isPlain c) : Encodes (cs.map octet) cs := by
  induction cs with
  | nil => exact .nil
  | cons c cs ih =>
    obtain ⟨hc, hcs⟩ := List.forall_mem_cons.1 h
    exact .plain hc (ih hcs)

/-- A plain text encodes itself. -/
theorem encodes_self (h : ∀ c ∈ cs, isPlain c) : Encodes (Utf8.encode (String.ofList cs)) cs := by
  rw [encode_ascii fun c hc => (isClear_of_plain (h c hc)).1.1]
  exact encodes_plain h

/-- A text of two parts is encoded by its parts. -/
theorem encodes_ofList_append {as bs cs ds : List Char}
    (h : Encodes (Utf8.encode (String.ofList as)) cs)
    (h' : Encodes (Utf8.encode (String.ofList bs)) ds) :
    Encodes (Utf8.encode (String.ofList (as ++ bs))) (cs ++ ds) := by
  rw [Utf8.encode_ofList] at *
  rw [Utf8.encodeChars_append]
  exact h.append h'

theorem isPlain_of_isDigit {c : Char} (h : c.isDigit) : isPlain c := by
  have := isDigit_iff_toNat.1 h
  simp only [isPlain, Bool.or_eq_true, Bool.and_eq_true, decide_eq_true_eq]
  omega

theorem hexValue?_hexDigit : ∀ n < 16,
    (hexDigit n).toNat < 0x80 ∧ hexValue? (octet (hexDigit n)) = some n := by
  decide

/-- The octets with a percent sign and two digits for each. -/
def escape (bs : Octets) : List Char :=
  bs.flatMap fun b => ['%', hexDigit (b.toNat / 16), hexDigit (b.toNat % 16)]

/-- Every text can be encoded. -/
theorem encodes_escape (bs : Octets) : Encodes bs (escape bs) := by
  induction bs with
  | nil => exact .nil
  | cons b bs ih =>
    have hb : b.toNat < 256 := b.toNat_lt
    obtain ⟨hhigh, hx⟩ := hexValue?_hexDigit (b.toNat / 16) (by omega)
    obtain ⟨hlow, hy⟩ := hexValue?_hexDigit (b.toNat % 16) (by omega)
    have heq : UInt8.ofNat (b.toNat / 16 * 16 + b.toNat % 16) = b := by
      rw [Nat.div_add_mod']
      exact UInt8.ofNat_toNat
    have h := Encodes.escaped hhigh hlow hx hy ih
    rw [heq] at h
    exact h

example : escape (Utf8.encode "ä%") = "%c3%a4%25".toList := by decide

end Form
end Text
end SoilWatch
