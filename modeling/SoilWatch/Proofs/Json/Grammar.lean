/-
# The grammar of JSON texts

A JSON value as it is written: a tree whose leaves are words, numbers and texts in quotes, with white
space between its parts (`Tree`).  The parts carry their own well-formedness, so the octets of a tree
are a JSON text, and every JSON text is the octets of one.

What a text in quotes stands for is found by `unescape`: a letter behind a backslash is one octet,
a UTF-16 unit is its character, and two units that are surrogates of each other are one character
together; a surrogate alone stands for nothing.  A number is an integer if it has neither fraction
nor exponent and fits a signed word of 64 bits, minus zero excepted.  The readers find these, and
nothing where there is nothing (`readText_literal`, `readNumber_octets`).
-/

import SoilWatch.Proofs.Json.Scan
import SoilWatch.Proofs.Text.Integer

namespace SoilWatch
namespace Json

open Text.Utf8 (encodeChars)

/-- What a reader finds, if anything. -/
theorem toOption_eq_some {ε α : Type} {r : Except ε α} {a : α} :
    r.toOption = some a ↔ r = .ok a := by
  cases r <;> simp [Except.toOption]

/-- A reader that finds nothing fails. -/
theorem toOption_eq_none {ε α : Type} {r : Except ε α} : r.toOption = none ↔ ∃ e, r = .error e := by
  cases r <;> simp [Except.toOption]

/-- White space. -/
structure Gap where
  octets : Octets
  space : ∀ b ∈ octets, isSpace b

theorem endsNumber_cons {b : UInt8} {bs : Octets}
    (h : isDigit b = false ∧ b ≠ 0x2E ∧ isExponentMark b = false) : EndsNumber (b :: bs) := by
  rintro c ⟨⟩
  exact h

/-- White space ends a number, if what stands behind it does. -/
theorem endsNumber_gap (gap : Gap) {rest : Octets} (h : EndsNumber rest) :
    EndsNumber (gap.octets ++ rest) := by
  obtain ⟨bs, hspace⟩ := gap
  cases bs with
  | nil => exact h
  | cons b bs =>
    have hb := hspace b List.mem_cons_self
    rw [isSpace] at hb
    simp only [Bool.or_eq_true, beq_iff_eq, or_assoc] at hb
    refine endsNumber_cons ?_
    rcases hb with rfl | rfl | rfl | rfl <;> decide

/-! ### Texts -/

/-- **A piece of what stands between quotes**: an octet for itself, a letter behind a backslash, or a
UTF-16 unit by its four digits. -/
inductive Piece where
  | plain (b : UInt8) (h : IsPlain b)
  | simple (e o : UInt8) (h : simpleEscape? e = some o)
  | unit (w x y z : UInt8) (n : Nat) (h : hexQuad? w x y z = some n)

/-- The octets of a piece. -/
def Piece.octets : Piece → Octets
  | .plain b _ => [b]
  | .simple e _ _ => [backslash, e]
  | .unit w x y z _ _ => [backslash, 0x75, w, x, y, z]

/-- The octets between quotes. -/
def literal (ps : List Piece) : Octets :=
  ps.flatMap Piece.octets

/-- The octets of a code point. -/
def pointOctets (n : Nat) : Octets :=
  String.utf8EncodeChar (Char.ofNat n)

/-- The octets that pieces stand for. -/
def unescape : List Piece → Option Octets
  | [] => some []
  | .plain b _ :: ps => (unescape ps).map (b :: ·)
  | .simple _ o _ :: ps => (unescape ps).map (o :: ·)
  | .unit _ _ _ _ n _ :: ps =>
    if isLowSurrogate n then none
    else if isHighSurrogate n then
      match ps with
      | .unit _ _ _ _ m _ :: ps =>
        if isLowSurrogate m then
          (unescape ps).map
            (pointOctets ((n - 0xD800) * 0x400 + (m - 0xDC00) + 0x10000) ++ ·)
        else none
      | _ => none
    else (unescape ps).map (pointOctets n ++ ·)

/-- The text that pieces stand for. -/
def textOf (ps : List Piece) : Option String :=
  (unescape ps).bind Text.Utf8.decode?

/-- A letter behind a backslash is not the mark of a unit. -/
theorem ne_unit_of_simpleEscape? {e o : UInt8} (h : simpleEscape? e = some o) : e ≠ 0x75 := by
  rintro rfl
  exact absurd (show simpleEscape? 0x75 = none by decide) (by simp [h])

section Scan

variable {back bs : Octets} {w x y z w' x' y' z' : UInt8} {n m : Nat}

/-- The second unit of a pair cannot stand alone. -/
theorem scanText_low (h : hexQuad? w x y z = some n) (hlow : isLowSurrogate n) :
    scanText back (backslash :: 0x75 :: w :: x :: y :: z :: bs) = .error .loneSurrogate := by
  rw [scanText.eq_def]
  simp only [if_neg (show ¬ backslash = quote by decide), if_true, h, hlow]

/-- The first unit of a pair needs another unit behind it. -/
theorem scanText_high (h : hexQuad? w x y z = some n) (hlow : isLowSurrogate n = false)
    (hhigh : isHighSurrogate n) (hnext : ∀ cs, bs ≠ backslash :: 0x75 :: cs) :
    (scanText back (backslash :: 0x75 :: w :: x :: y :: z :: bs)).toOption = none := by
  rw [scanText.eq_def]
  simp only [if_neg (show ¬ backslash = quote by decide), if_true, h, hlow, hhigh,
    Bool.false_eq_true, if_false]
  rcases bs with _ | ⟨b, _ | ⟨c, bs⟩⟩
  · rfl
  · dsimp only
    split <;> rfl
  · dsimp only
    split_ifs with hb hc
    · rfl
    · rfl
    · exact absurd (by rw [not_not.1 hb, not_not.1 hc]) (hnext bs)

/-- Two units are one code point, or none if they do not belong together. -/
theorem scanText_pair (h : hexQuad? w x y z = some n) (hlow : isLowSurrogate n = false)
    (hhigh : isHighSurrogate n) (h' : hexQuad? w' x' y' z' = some m) :
    scanText back (backslash :: 0x75 :: w :: x :: y :: z :: backslash :: 0x75 :: w' :: x' :: y' ::
        z' :: bs) =
      if isLowSurrogate m then
        scanText (pushPoint ((n - 0xD800) * 0x400 + (m - 0xDC00) + 0x10000) back) bs
      else .error .loneSurrogate := by
  rw [scanText.eq_def]
  simp only [if_neg (show ¬ backslash = quote by decide), if_true, h, hlow, hhigh,
    Bool.false_eq_true, if_false, ne_eq, not_true_eq_false, h']

/-- Octets that were scanned stand in front of those that are found behind them. -/
theorem map_scanned (p back rest : Octets) (found : Option Octets) :
    (found.map fun os => ((p.reverse ++ back).reverse ++ os, rest)) =
      (found.map (p ++ ·)).map fun os => (back.reverse ++ os, rest) := by
  cases found <;> simp

end Scan

/-- **A text is scanned to the octets that it stands for**, and not at all if it stands for none. -/
theorem scanText_literal (ps : List Piece) (back rest : Octets) :
    (scanText back (literal ps ++ quote :: rest)).toOption =
      (unescape ps).map fun os => (back.reverse ++ os, rest) := by
  -- A pair of units is taken in one go, so the induction is along `unescape`, not along the list.
  fun_induction unescape ps generalizing back with
  | case1 =>
    show (scanText back (quote :: rest)).toOption = _
    rw [scanText_quote, Option.map_some, List.append_nil]
    rfl
  | case2 b h ps ih =>
    have hplain : ∀ c ∈ [b], IsPlain c := List.forall_mem_singleton.2 h
    show (scanText back ([b] ++ (literal ps ++ quote :: rest))).toOption = _
    rw [scanText_plain hplain, ih]
    exact map_scanned [b] back rest _
  | case3 e o h ps ih =>
    show (scanText back (backslash :: e :: (literal ps ++ quote :: rest))).toOption = _
    rw [scanText_simple (ne_unit_of_simpleEscape? h) h, ih]
    exact map_scanned [o] back rest _
  | case4 w x y z n h ps hlow =>
    show (scanText back (backslash :: 0x75 :: w :: x :: y :: z :: _)).toOption = _
    rw [scanText_low h hlow]
    rfl
  | case5 w x y z n h hlow hhigh w' x' y' z' m h' ps hlow' ih =>
    show (scanText back (backslash :: 0x75 :: w :: x :: y :: z :: backslash :: 0x75 :: w' :: x' ::
      y' :: z' :: (literal ps ++ quote :: rest))).toOption = _
    rw [scanText_pair h (by simpa using hlow) hhigh h', if_pos hlow', ih]
    exact map_scanned (pointOctets _) back rest _
  | case6 w x y z n h hlow hhigh w' x' y' z' m h' ps hlow' =>
    show (scanText back (backslash :: 0x75 :: w :: x :: y :: z :: backslash :: 0x75 :: w' :: x' ::
      y' :: z' :: (literal ps ++ quote :: rest))).toOption = _
    rw [scanText_pair h (by simpa using hlow) hhigh h', if_neg hlow']
    rfl
  | case7 w x y z n h ps hlow hhigh hnone =>
    -- Only a unit begins with a backslash and the mark of a unit, and none stands here.
    have hnext : ∀ cs, literal ps ++ quote :: rest ≠ backslash :: 0x75 :: cs := by
      intro cs hcs
      rcases ps with _ | ⟨⟨b, hb⟩ | ⟨e, o, ho⟩ | ⟨w', x', y', z', m, h'⟩, ps⟩
      · exact absurd (List.cons.inj hcs).1 (by decide)
      · exact hb.2.1 (List.cons.inj hcs).1
      · exact ne_unit_of_simpleEscape? ho (List.cons.inj (List.cons.inj hcs).2).1
      · exact hnone w' x' y' z' m h' ps rfl
    exact scanText_high h (by simpa using hlow) hhigh hnext
  | case8 w x y z n h ps hlow hhigh ih =>
    show (scanText back (backslash :: 0x75 :: w :: x :: y :: z ::
      (literal ps ++ quote :: rest))).toOption = _
    rw [scanText_unit h (by simpa using hlow) (by simpa using hhigh), ih]
    exact map_scanned (pointOctets n) back rest _

/-- **A text is read as what it stands for.** -/
theorem readText_literal (ps : List Piece) (rest : Octets) :
    (readText (literal ps ++ quote :: rest)).toOption = (textOf ps).map (·, rest) := by
  have hscan := scanText_literal ps [] rest
  unfold readText textOf
  cases hpieces : unescape ps with
  | none =>
    rw [hpieces, Option.map_none, toOption_eq_none] at hscan
    obtain ⟨flaw, hscan⟩ := hscan
    rw [hscan]
    rfl
  | some os =>
    rw [hpieces, Option.map_some, toOption_eq_some] at hscan
    rw [hscan]
    dsimp only
    rw [List.reverse_nil, List.nil_append, Option.bind_some]
    cases Text.Utf8.decode? os <;> rfl

/-! ### Numbers -/

/-- One digit or more. -/
structure Digits where
  octets : Octets
  ne_nil : octets ≠ []
  digit : ∀ b ∈ octets, isDigit b

/-- An exponent: its mark, a sign or none, and its digits. -/
structure Exponent where
  mark : UInt8
  sign : Octets
  digits : Digits
  isMark : isExponentMark mark
  isSign : sign = [] ∨ sign = [0x2B] ∨ sign = [minus]

/-- **A number as it is written.**  Its digits in front are those of a natural number, so there is no
zero too many. -/
structure NumberLiteral where
  negative : Bool
  whole : Nat
  fraction : Option Digits
  exponent : Option Exponent

/-- The octets of an exponent. -/
def Exponent.octets (e : Exponent) : Octets :=
  e.mark :: (e.sign ++ e.digits.octets)

namespace NumberLiteral

variable (n : NumberLiteral)

/-- The octets of the fraction and the exponent. -/
def tail : Octets :=
  (n.fraction.elim [] fun ds => 0x2E :: ds.octets) ++ n.exponent.elim [] Exponent.octets

/-- The octets of a number. -/
def octets : Octets :=
  (if n.negative then [minus] else []) ++ (encodeChars (Nat.toDigits 10 n.whole) ++ n.tail)

/-- The digits in front with their sign. -/
def value : Int :=
  if n.negative then -(n.whole : Int) else n.whole

/-- The integer that a number is: one without fraction and exponent that fits, and not minus zero. -/
def integer? : Option Int :=
  if n.fraction.isNone ∧ n.exponent.isNone ∧ ¬ (n.negative ∧ n.whole = 0) ∧
      Text.IntegerRange.int64.contains n.value then some n.value
  else none

end NumberLiteral

/-- A reading that gives no integer. -/
def NoInteger (r : Except Flaw (Number × Octets)) : Prop :=
  ∀ k rest, r ≠ .ok (.integer k, rest)

section NoInteger

variable {negative down : Bool} {n left : Nat} {e : Int} {bs : Octets}

theorem noInteger_error {flaw : Flaw} : NoInteger (.error flaw) := nofun

theorem floatOf_ne_integer (k : Int) : floatOf negative n e ≠ .ok (.integer k) := by
  unfold floatOf
  cases Decimal.Magnitude.ofDecimal? n e <;> exact nofun

theorem noInteger_floatOf : NoInteger ((floatOf negative n e).map (·, bs)) := by
  intro k rest h
  cases hfloat : floatOf negative n e with
  | error => simp [hfloat, Except.map] at h
  | ok x =>
    simp only [hfloat, Except.map, Except.ok.injEq, Prod.mk.injEq] at h
    exact floatOf_ne_integer k (hfloat.trans (by rw [h.1]))

theorem noInteger_readExponentDigits : NoInteger (readExponentDigits negative n e down bs) := by
  cases bs with
  | nil => exact noInteger_error
  | cons b bs =>
    rw [readExponentDigits]
    by_cases hdigit : isDigit b
    · rw [if_pos hdigit]
      dsimp only
      generalize takeDigits 0 ((b :: bs).takeWhile isDigit) = taken
      by_cases hlarge : 2147483648 ≤ taken.1 ∨ 0 < taken.2
      · rw [if_pos hlarge]
        split_ifs
        · exact noInteger_error
        · exact nofun
      · rw [if_neg hlarge]
        generalize (if down then e - taken.1 else e + taken.1) = k
        have hmap := @noInteger_floatOf negative n k ((b :: bs).dropWhile isDigit)
        cases h : floatOf negative n k with
        | error => exact noInteger_error
        | ok x => rwa [h] at hmap
    · rw [if_neg hdigit]
      exact noInteger_error

theorem noInteger_readExponent : NoInteger (readExponent negative n e bs) := by
  unfold readExponent
  split
  · exact noInteger_error
  · split_ifs <;> exact noInteger_readExponentDigits

theorem noInteger_closeFloat : NoInteger (closeFloat negative n e bs) := by
  unfold closeFloat
  split
  · split_ifs
    · exact noInteger_readExponent
    · exact noInteger_floatOf
  · exact noInteger_floatOf

theorem noInteger_readFraction : NoInteger (readFraction negative n e bs) := by
  unfold readFraction
  split
  · exact noInteger_error
  · split_ifs
    · exact noInteger_closeFloat
    · exact noInteger_error

/-- Behind a point or the mark of an exponent, or with digits left over, no integer is read. -/
theorem noInteger_closeNumber (h : left ≠ 0 ∨ ∃ b ∈ bs.head?, b = 0x2E ∨ isExponentMark b) :
    NoInteger (closeNumber negative n left bs) := by
  have hplain : left ≠ 0 → NoInteger (closeNumber.plain negative n left bs) := fun hleft => by
    rw [closeNumber.plain, if_neg hleft]
    exact noInteger_floatOf
  cases bs with
  | nil => exact hplain (h.resolve_right (by simp))
  | cons b bs =>
    rw [closeNumber]
    split_ifs with hpoint hmark
    · exact noInteger_readFraction
    · exact noInteger_readExponent
    · exact hplain (h.resolve_right (by simp [hpoint, hmark]))

end NoInteger

/-- Digits of a number that does not fit are left over. -/
theorem takeDigits_left {ds : List Char} (h : ∀ c ∈ ds, c.isDigit) {n : Nat}
    (hn : n < 18446744073709551616) (hlarge : 18446744073709551616 ≤ Nat.ofDigitChars 10 ds n) :
    (takeDigits n (ds.map Text.Form.octet)).2 ≠ 0 := by
  induction ds generalizing n with
  | nil =>
    rw [Nat.ofDigitChars_nil] at hlarge
    omega
  | cons c ds ih =>
    obtain ⟨hc, hds⟩ := List.forall_mem_cons.1 h
    have hrange := Text.isDigit_iff_toNat.1 hc
    have hoctet : (Text.Form.octet c).toNat = c.toNat := Text.Form.toNat_octet (by omega)
    rw [Nat.ofDigitChars_cons, Nat.mul_comm] at hlarge
    rw [List.map_cons, takeDigits, hoctet]
    split_ifs with hstep
    · exact Nat.succ_ne_zero _
    · exact ih hds (Nat.not_le.1 hstep) hlarge

/-- The integer of a number, if it fits a signed word of 64 bits. -/
def Number.int64? : Number → Option Int
  | .integer k => if k ≤ Text.IntegerRange.int64.high then some k else none
  | .float _ => none

/-- The integer that a reading gives, with what stands behind it. -/
def int64Of (r : Except Flaw (Number × Octets)) : Option (Int × Octets) :=
  r.toOption.bind fun p => p.1.int64?.map (·, p.2)

theorem NoInteger.int64Of {r : Except Flaw (Number × Octets)} (h : NoInteger r) :
    int64Of r = none := by
  obtain _ | ⟨_ | _, rest⟩ := r
  · rfl
  · exact absurd rfl (h _ rest)
  · rfl

/-- What begins a fraction or an exponent is no digit. -/
theorem not_digit_of_mark {b : UInt8} (h : b = 0x2E ∨ isExponentMark b) : isDigit b = false := by
  rw [isExponentMark, Bool.or_eq_true, beq_iff_eq, beq_iff_eq] at h
  rcases h with rfl | rfl | rfl <;> rfl

namespace NumberLiteral

variable (n : NumberLiteral) {rest : Octets}

/-- A fraction or an exponent begins with its mark. -/
theorem tail_cases : (n.fraction = none ∧ n.exponent = none ∧ n.tail = []) ∨
    (n.fraction.isSome ∨ n.exponent.isSome) ∧
      ∃ b bs, n.tail = b :: bs ∧ (b = 0x2E ∨ isExponentMark b) := by
  obtain ⟨negative, whole, _ | ds, _ | e⟩ := n
  · exact .inl ⟨rfl, rfl, rfl⟩
  · exact .inr ⟨.inr rfl, e.mark, _, rfl, .inr e.isMark⟩
  · exact .inr ⟨.inl rfl, 0x2E, _, rfl, .inl rfl⟩
  · exact .inr ⟨.inl rfl, 0x2E, _, rfl, .inl rfl⟩

/-- A number begins with its sign or a digit. -/
theorem octets_eq_cons : ∃ b bs, n.octets = b :: bs ∧ (b = minus ∨ isDigit b = true) := by
  obtain ⟨b, bs, hbs, hb, -⟩ := encodeChars_toDigits_eq_cons n.whole
  rw [octets]
  cases n.negative with
  | true => exact ⟨minus, _, rfl, .inl rfl⟩
  | false => exact ⟨b, bs ++ n.tail, by rw [hbs]; rfl, .inr hb⟩

/-- Behind the sign it is the digits that are read. -/
theorem readNumber_eq (rest : Octets) : readNumber (n.octets ++ rest) =
    readUnsigned n.negative (encodeChars (Nat.toDigits 10 n.whole) ++ (n.tail ++ rest)) := by
  unfold octets
  cases n.negative with
  | true =>
    rw [if_pos rfl, List.singleton_append, List.cons_append, List.append_assoc, readNumber,
      if_pos rfl]
  | false => rw [if_neg (by decide), List.nil_append, List.append_assoc, readNumber_toDigits]

theorem value_of_negative (h : n.negative = true) : n.value = -(n.whole : Int) :=
  if_pos h

theorem value_of_not_negative (h : n.negative = false) : n.value = n.whole :=
  if_neg (by simp [h])

/-- An integer that is read fits, and is not minus zero. -/
theorem int64Of_wholeNumber : int64Of ((wholeNumber n.negative n.whole).map (·, rest)) =
    if ¬ (n.negative ∧ n.whole = 0) ∧ Text.IntegerRange.int64.contains n.value then
      some (n.value, rest)
    else none := by
  have hcontains : Text.IntegerRange.int64.contains n.value ↔
      -9223372036854775808 ≤ n.value ∧ n.value ≤ 9223372036854775807 :=
    Text.IntegerRange.contains_iff
  simp only [hcontains]
  unfold wholeNumber
  cases hnegative : n.negative with
  | true =>
    rw [n.value_of_negative hnegative, if_pos rfl]
    simp only [true_and]
    by_cases hfit : n.whole = 0 ∨ 9223372036854775808 < n.whole
    · rw [if_pos hfit, noInteger_floatOf.int64Of, if_neg (by omega)]
    · rw [if_neg hfit, if_pos (by omega)]
      show (if -(n.whole : Int) ≤ 9223372036854775807 then _ else _ : Option Int).map _ = _
      rw [if_pos (by omega)]
      rfl
  | false =>
    rw [n.value_of_not_negative hnegative, if_neg Bool.false_ne_true]
    show (if (n.whole : Int) ≤ 9223372036854775807 then _ else _ : Option Int).map _ = _
    by_cases hfit : (n.whole : Int) ≤ 9223372036854775807
    · rw [if_pos hfit, if_pos ⟨fun h => Bool.false_ne_true h.1, by omega, hfit⟩]
      rfl
    · rw [if_neg hfit, if_neg fun h => hfit h.2.2]
      rfl

/-- **A number is read as the integer that it is**, and not as an integer if it is none. -/
theorem int64Of_readNumber (hrest : EndsNumber rest) :
    int64Of (readNumber (n.octets ++ rest)) = n.integer?.map (·, rest) := by
  have hdigits : ∀ c ∈ Nat.toDigits 10 n.whole, c.isDigit :=
    fun c => Text.isDigit_of_mem_toDigits
  rw [n.readNumber_eq]
  rcases n.tail_cases with ⟨hfraction, hexponent, htail⟩ | ⟨hsome, b, bs, htail, hb⟩
  · rw [htail, List.nil_append]
    by_cases hfits : n.whole < 18446744073709551616
    · rw [readUnsigned_toDigits n.negative hrest hfits, int64Of_wholeNumber, integer?, hfraction,
        hexponent]
      split_ifs with h h' h'
      · rfl
      · exact absurd ⟨rfl, rfl, h⟩ h'
      · exact absurd h'.2.2 h
      · rfl
    · -- Of digits that fit no unsigned word some are left over, which makes the number a float.
      have hleft := takeDigits_left hdigits (n := 0) (by decide)
        (by rw [Nat.ofDigitChars_ten_toDigits]; exact Nat.not_lt.1 hfits)
      have hnone : n.integer? = none := by
        refine if_neg fun h => hfits ?_
        obtain ⟨hlow, hhigh⟩ : -9223372036854775808 ≤ n.value ∧ n.value ≤ 9223372036854775807 :=
          Text.IntegerRange.contains_iff.1 h.2.2.2
        cases hnegative : n.negative with
        | true => have := n.value_of_negative hnegative; omega
        | false => have := n.value_of_not_negative hnegative; omega
      rw [readUnsigned_digits _ _ hrest.noDigitNext, (noInteger_closeNumber (.inl hleft)).int64Of,
        hnone]
      rfl
  · have hmark : ∃ b ∈ (n.tail ++ rest).head?, b = 0x2E ∨ isExponentMark b :=
      ⟨b, by rw [htail]; rfl, hb⟩
    have hnext : NoDigitNext (n.tail ++ rest) := by
      rw [htail]
      rintro c ⟨⟩
      exact not_digit_of_mark hb
    have hnone : n.integer? = none := by
      refine if_neg fun h => ?_
      rcases hsome with hsome | hsome
      · exact absurd h.1 (Option.isNone_eq_false_iff.2 hsome ▸ Bool.false_ne_true)
      · exact absurd h.2.1 (Option.isNone_eq_false_iff.2 hsome ▸ Bool.false_ne_true)
    rw [readUnsigned_digits _ _ hnext, (noInteger_closeNumber (.inr hmark)).int64Of, hnone]
    rfl

example : integer? ⟨true, 9223372036854775808, none, none⟩ = some (-9223372036854775808) ∧
    integer? ⟨false, 9223372036854775808, none, none⟩ = none ∧
    integer? ⟨true, 0, none, none⟩ = none := by decide

end NumberLiteral

/-! ### Values -/

/-- The words that are values. -/
inductive Word where
  | null
  | true
  | false

/-- The letters of a word. -/
def Word.octets : Word → Octets
  | .null => 0x6E :: nullTail
  | .true => 0x74 :: trueTail
  | .false => 0x66 :: falseTail

/-- An element of a list, with the white space around it. -/
structure Element (α : Type) where
  before : Gap
  value : α
  after : Gap

/-- A member of an object: its name, and its value behind a colon, with white space around all. -/
structure Member (α : Type) where
  before : Gap
  key : List Piece
  behind : Gap
  front : Gap
  value : α
  after : Gap

/-- **A value as it is written.** -/
inductive Tree where
  | word (w : Word)
  | number (n : NumberLiteral)
  | text (ps : List Piece)
  | list (es : List (Element Tree)) (gap : Gap)
  | object (ms : List (Member Tree)) (gap : Gap)

/-- A key in quotes, and the colon behind it. -/
def keyOctets (key : List Piece) (behind : Gap) : Octets :=
  quote :: (literal key ++ quote :: (behind.octets ++ [colon]))

mutual

/-- The octets of a value. -/
def Tree.octets : Tree → Octets
  | .word w => w.octets
  | .number n => n.octets
  | .text ps => quote :: (literal ps ++ [quote])
  | .list es gap => openList :: ([comma].intercalate (elementTexts es) ++ (gap.octets ++ [closeList]))
  | .object ms gap =>
    openObject :: ([comma].intercalate (memberTexts ms) ++ (gap.octets ++ [closeObject]))

/-- The elements of a list, each by itself. -/
def elementTexts : List (Element Tree) → List Octets
  | [] => []
  | ⟨before, value, after⟩ :: es =>
    (before.octets ++ (value.octets ++ after.octets)) :: elementTexts es

/-- The members of an object, each by itself. -/
def memberTexts : List (Member Tree) → List Octets
  | [] => []
  | ⟨before, key, behind, front, value, after⟩ :: ms =>
    (before.octets ++ (keyOctets key behind ++ (front.octets ++ (value.octets ++ after.octets)))) ::
      memberTexts ms

end

namespace Tree

/-- The text that a value is. -/
def text? : Tree → Option String
  | .text ps => textOf ps
  | _ => none

/-- The integer that a value is. -/
def integer? : Tree → Option Int
  | .number n => n.integer?
  | _ => none

/-- **What a value begins with** is no white space and closes no bracket; a text alone begins with a
quote, and a number alone with a minus sign or a digit. -/
theorem octets_eq_cons (t : Tree) : ∃ b bs, t.octets = b :: bs ∧ isSpace b = false ∧
    b ≠ closeList ∧ (b = quote → ∃ ps, t = .text ps) ∧
    (b = minus ∨ isDigit b = true → ∃ n, t = .number n) := by
  have hother : ∀ {p q : Prop}, ¬ p → p → q := fun hp h => absurd h hp
  cases t with
  | word w =>
    cases w <;> exact ⟨_, _, rfl, by decide, by decide, hother (by decide), hother (by decide)⟩
  | number n =>
    obtain ⟨b, bs, hbs, hb⟩ := n.octets_eq_cons
    have hne : ∀ c, ¬ (c = minus ∨ isDigit c = true) → b ≠ c := fun c hc h => hc (h ▸ hb)
    exact ⟨b, bs, hbs, (clear_of_number hb).1, hne _ (by decide),
      hother (hne _ (by decide)), fun _ => ⟨n, rfl⟩⟩
  | text ps => exact ⟨quote, _, rfl, by decide, by decide, fun _ => ⟨ps, rfl⟩, hother (by decide)⟩
  | list es gap =>
    exact ⟨openList, _, rfl, by decide, by decide, hother (by decide), hother (by decide)⟩
  | object ms gap =>
    exact ⟨openObject, _, rfl, by decide, by decide, hother (by decide), hother (by decide)⟩

end Tree

end Json
end SoilWatch
