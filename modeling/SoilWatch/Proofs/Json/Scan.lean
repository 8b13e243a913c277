/-
# Texts and numbers are read back

A text between quotes is scanned to the octets of the text (`readText_escaped`): every character
adds its own octets, whether it stands for itself or is escaped.  The digits of an integer are read
as the integer (`readNumber_integerChars`), if it fits a word of 64 bits and nothing stands behind
it that would make it a longer or another number.
-/

import SoilWatch.Json.Value
import SoilWatch.Proofs.Text.Digits
import SoilWatch.Proofs.Text.Form

namespace SoilWatch
namespace Json

open Text.Utf8 (encodeChars encodeChars_append)

variable {c : Char} {back p bs rest : Octets}

/-! ### Texts -/

/-- Octets that stand for themselves between quotes. -/
def IsPlain (b : UInt8) : Prop :=
  b ≠ quote ∧ b ≠ backslash ∧ ¬ b < 0x20

theorem scanText_quote : scanText back (quote :: bs) = .ok (back.reverse, bs) := by
  unfold scanText
  exact if_pos rfl

theorem scanText_plain (h : ∀ b ∈ p, IsPlain b) :
    scanText back (p ++ bs) = scanText (p.reverse ++ back) bs := by
  induction p generalizing back with
  | nil => rfl
  | cons b p ih =>
    obtain ⟨⟨hquote, hbackslash, hcontrol⟩, hp⟩ := List.forall_mem_cons.1 h
    rw [List.cons_append, scanText.eq_def]
    dsimp only
    rw [if_neg hquote, if_neg hbackslash, if_neg hcontrol, ih hp, List.reverse_cons,
      List.append_assoc]
    rfl

theorem scanText_simple {e o : UInt8} (hunit : e ≠ 0x75) (h : simpleEscape? e = some o) :
    scanText back (backslash :: e :: bs) = scanText (o :: back) bs := by
  rw [scanText.eq_def]
  dsimp only
  rw [if_neg (by decide), if_pos rfl, if_neg hunit, h]

theorem scanText_unit {w x y z : UInt8} {n : Nat} (h : hexQuad? w x y z = some n)
    (hlow : isLowSurrogate n = false) (hhigh : isHighSurrogate n = false) :
    scanText back (backslash :: 0x75 :: w :: x :: y :: z :: bs) =
      scanText (pushPoint n back) bs := by
  rw [scanText.eq_def]
  simp only [if_neg (show ¬ backslash = quote by decide), if_true, h, hlow, hhigh,
    Bool.false_eq_true, if_false]

/-- The octets of a character that is not escaped stand for themselves. -/
theorem isPlain_of_mem_encodeChar (hquote : c ≠ '"') (hbackslash : c ≠ '\\')
    (hcontrol : 0x20 ≤ c.toNat) : ∀ b ∈ String.utf8EncodeChar c, IsPlain b := by
  intro b hb
  suffices h : b.toNat ≠ 0x22 ∧ b.toNat ≠ 0x5C ∧ 0x20 ≤ b.toNat by
    refine ⟨?_, ?_, ?_⟩
    · rintro rfl
      exact h.1 rfl
    · rintro rfl
      exact h.2.1 rfl
    · rw [UInt8.lt_iff_toNat_lt, Nat.not_lt]
      exact h.2.2
  by_cases hascii : c.toNat < 0x80
  · have hone := Text.Utf8.encodeChar_one hascii
    rw [Char.ofNat_toNat] at hone
    rw [hone, List.mem_singleton] at hb
    have hnat : b.toNat = c.toNat := by
      rw [hb]
      exact Text.Form.toNat_octet hascii
    rw [hnat]
    exact ⟨fun h => hquote (Char.toNat_inj.1 h), fun h => hbackslash (Char.toNat_inj.1 h), hcontrol⟩
  · have := Text.Utf8.le_of_mem_encodeChar (Nat.not_lt.1 hascii) hb
    omega

/-- A control is found again behind its four digits. -/
theorem hexQuad?_control (h : c.toNat < 0x20) :
    encodeChars ['\\', 'u', '0', '0', Text.hexDigit (c.toNat / 16), Text.hexDigit (c.toNat % 16)] =
      [backslash, 0x75, 0x30, 0x30, Text.Form.octet (Text.hexDigit (c.toNat / 16)),
        Text.Form.octet (Text.hexDigit (c.toNat % 16))] ∧
    hexQuad? 0x30 0x30 (Text.Form.octet (Text.hexDigit (c.toNat / 16)))
      (Text.Form.octet (Text.hexDigit (c.toNat % 16))) = some c.toNat := by
  obtain ⟨hascii, hhigh⟩ := Text.Form.hexValue?_hexDigit (c.toNat / 16) (by omega)
  obtain ⟨hascii', hlow⟩ := Text.Form.hexValue?_hexDigit (c.toNat % 16) (by omega)
  constructor
  · rw [Text.Form.encodeChars_ascii (by simp [hascii, hascii'])]
    rfl
  · rw [hexQuad?, hhigh, hlow]
    show some (((0 * 16 + 0) * 16 + c.toNat / 16) * 16 + c.toNat % 16) = _
    congr 1
    omega

/-- **A character adds its octets**, escaped or not. -/
theorem scanText_escapeChar (c : Char) (back bs : Octets) :
    scanText back (encodeChars (escapeChar c) ++ bs) =
      scanText ((String.utf8EncodeChar c).reverse ++ back) bs := by
  have hchar : ∀ n, c.toNat = n → c = Char.ofNat n := fun n h => by rw [← h, Char.ofNat_toNat]
  unfold escapeChar
  split_ifs with hquote hbackslash h₈ h₉ hA hC hD hcontrol
  · obtain rfl := hquote
    exact scanText_simple (by decide) rfl
  · obtain rfl := hbackslash
    exact scanText_simple (by decide) rfl
  · obtain rfl := hchar _ h₈
    exact scanText_simple (by decide) rfl
  · obtain rfl := hchar _ h₉
    exact scanText_simple (by decide) rfl
  · obtain rfl := hchar _ hA
    exact scanText_simple (by decide) rfl
  · obtain rfl := hchar _ hC
    exact scanText_simple (by decide) rfl
  · obtain rfl := hchar _ hD
    exact scanText_simple (by decide) rfl
  · obtain ⟨hoctets, hquad⟩ := hexQuad?_control hcontrol
    have hlow : isLowSurrogate c.toNat = false := by simp [isLowSurrogate]; omega
    have hhigh : isHighSurrogate c.toNat = false := by simp [isHighSurrogate]; omega
    rw [hoctets]
    refine (scanText_unit hquad hlow hhigh).trans ?_
    rw [pushPoint, Char.ofNat_toNat]
    rfl
  · rw [show encodeChars [c] = String.utf8EncodeChar c from List.append_nil _]
    exact scanText_plain (isPlain_of_mem_encodeChar hquote hbackslash (Nat.not_lt.1 hcontrol))

/-- A text is scanned to its octets. -/
theorem scanText_flatMap_escapeChar (cs : List Char) (back rest : Octets) :
    scanText back (encodeChars (cs.flatMap escapeChar) ++ quote :: rest) =
      .ok (back.reverse ++ encodeChars cs, rest) := by
  induction cs generalizing back with
  | nil =>
    rw [show encodeChars ([] : List Char) = [] from rfl, List.append_nil]
    exact scanText_quote
  | cons c cs ih =>
    rw [List.flatMap_cons, encodeChars_append, List.append_assoc, scanText_escapeChar, ih,
      List.reverse_append, List.reverse_reverse, List.append_assoc]
    rfl

/-- The octets of a text in quotes. -/
theorem encodeChars_textChars (s : String) :
    encodeChars (textChars s) =
      quote :: (encodeChars (s.toList.flatMap escapeChar) ++ [quote]) := by
  show quote :: encodeChars (s.toList.flatMap escapeChar ++ ['"']) = _
  rw [encodeChars_append]
  rfl

/-- **A text is read back** behind its opening quote. -/
theorem readText_escaped (s : String) (rest : Octets) :
    readText (encodeChars (s.toList.flatMap escapeChar) ++ quote :: rest) = .ok (s, rest) := by
  have hdecode : Text.Utf8.decode? (encodeChars s.toList) = some s :=
    Text.Utf8.decode?_eq_some.2 rfl
  rw [readText, scanText_flatMap_escapeChar, List.reverse_nil, List.nil_append]
  simp only [hdecode]

/-! ### Numbers -/

/-- What may stand behind a number: nothing that would make it another one. -/
def EndsNumber (bs : Octets) : Prop :=
  ∀ b ∈ bs.head?, isDigit b = false ∧ b ≠ 0x2E ∧ isExponentMark b = false

/-- What does not go on with a digit. -/
def NoDigitNext (bs : Octets) : Prop :=
  ∀ b ∈ bs.head?, isDigit b = false

theorem EndsNumber.noDigitNext (h : EndsNumber bs) : NoDigitNext bs :=
  fun b hb => (h b hb).1

variable {ds : List Char} {n : Nat}

theorem isDigit_octet (h : c.isDigit) : isDigit (Text.Form.octet c) = true := by
  have hrange := Text.isDigit_iff_toNat.1 h
  have hoctet : (Text.Form.octet c).toNat = c.toNat := Text.Form.toNat_octet (by omega)
  simp only [isDigit, Bool.and_eq_true, decide_eq_true_eq, UInt8.le_iff_toNat_le, hoctet]
  exact hrange

theorem encodeChars_digits (h : ∀ c ∈ ds, c.isDigit) :
    encodeChars ds = ds.map Text.Form.octet := by
  refine Text.Form.encodeChars_ascii fun c hc => ?_
  have hrange := Text.isDigit_iff_toNat.1 (h c hc)
  omega

/-- The digits in front of what is none. -/
theorem span_digits (h : ∀ c ∈ ds, c.isDigit) (hrest : NoDigitNext rest) :
    (encodeChars ds ++ rest).takeWhile isDigit = ds.map Text.Form.octet ∧
      (encodeChars ds ++ rest).dropWhile isDigit = rest := by
  have hall : ∀ b ∈ ds.map Text.Form.octet, isDigit b = true :=
    List.forall_mem_map.2 fun c hc => isDigit_octet (h c hc)
  rw [encodeChars_digits h, List.takeWhile_append_of_pos hall, List.dropWhile_append_of_pos hall]
  cases rest with
  | nil => exact ⟨List.append_nil _, rfl⟩
  | cons b rest =>
    have hb : ¬ isDigit b = true := by simp [hrest b rfl]
    rw [List.takeWhile_cons_of_neg hb, List.dropWhile_cons_of_neg hb, List.append_nil]
    exact ⟨rfl, rfl⟩

/-- Digits that fit are all taken. -/
theorem takeDigits_octets (h : ∀ c ∈ ds, c.isDigit)
    (hlt : Nat.ofDigitChars 10 ds n < 18446744073709551616) :
    takeDigits n (ds.map Text.Form.octet) = (Nat.ofDigitChars 10 ds n, 0) := by
  induction ds generalizing n with
  | nil => rw [Nat.ofDigitChars_nil]; rfl
  | cons c ds ih =>
    obtain ⟨hc, hds⟩ := List.forall_mem_cons.1 h
    obtain ⟨hstep, hlt⟩ := Text.ofDigitChars_cons_lt hlt
    have hrange := Text.isDigit_iff_toNat.1 hc
    have hoctet : (Text.Form.octet c).toNat = c.toNat := Text.Form.toNat_octet (by omega)
    rw [List.map_cons, takeDigits, hoctet]
    refine (if_neg (Nat.not_le.2 hstep)).trans ((ih hds hlt).trans ?_)
    rw [Nat.ofDigitChars_cons, Nat.mul_comm]

/-- A number ends with its digits. -/
theorem closeNumber_of_endsNumber (negative : Bool) (hrest : EndsNumber rest) :
    closeNumber negative n 0 rest = (wholeNumber negative n).map (·, rest) := by
  cases rest with
  | nil => rfl
  | cons b rest =>
    obtain ⟨-, hpoint, hexponent⟩ := hrest b rfl
    rw [closeNumber]
    simp only [if_neg hpoint, hexponent, Bool.false_eq_true, if_false]
    rfl

/-- The digits of a number begin with a digit, which is no zero unless the number is. -/
theorem encodeChars_toDigits_eq_cons (n : Nat) :
    ∃ b bs, encodeChars (Nat.toDigits 10 n) = b :: bs ∧ isDigit b = true ∧
      (∀ c ∈ bs, isDigit c = true) ∧ (0 < n → b ≠ 0x30) := by
  obtain ⟨d, ds, hds, hd, hzero⟩ := Text.toDigits_eq_cons n
  have hdigits : ∀ c ∈ Nat.toDigits 10 n, c.isDigit := fun c => Text.isDigit_of_mem_toDigits
  have hmore : ∀ c ∈ ds.map Text.Form.octet, isDigit c = true :=
    List.forall_mem_map.2 fun c hc => isDigit_octet (hdigits c (hds ▸ List.mem_cons_of_mem _ hc))
  refine ⟨Text.Form.octet d, ds.map Text.Form.octet, ?_, isDigit_octet hd, hmore, fun hpos => ?_⟩
  · rw [encodeChars_digits hdigits, hds, List.map_cons]
  · have hrange := Text.isDigit_iff_toNat.1 hd
    exact Text.Form.octet_ne (by omega) fun heq => hzero hpos (Char.toNat_inj.1 heq)

/-- **Digits are read up to what is none**, and as many of them are taken as fit. -/
theorem readUnsigned_digits (negative : Bool) (n : Nat) (hrest : NoDigitNext rest) :
    readUnsigned negative (encodeChars (Nat.toDigits 10 n) ++ rest) =
      closeNumber negative (takeDigits 0 ((Nat.toDigits 10 n).map Text.Form.octet)).1
        (takeDigits 0 ((Nat.toDigits 10 n).map Text.Form.octet)).2 rest := by
  rcases Nat.eq_zero_or_pos n with rfl | hpos
  · cases rest with
    | nil => rfl
    | cons b rest =>
      show (if isDigit b then _ else _) = _
      rw [if_neg (by simp [hrest b rfl])]
      rfl
  · obtain ⟨htake, hdrop⟩ := span_digits (fun c => Text.isDigit_of_mem_toDigits (n := n)) hrest
    obtain ⟨b, bs, hbs, hb, -, hzero⟩ := encodeChars_toDigits_eq_cons n
    rw [hbs, List.cons_append] at htake hdrop ⊢
    rw [readUnsigned.eq_def]
    dsimp only
    rw [if_neg (hzero hpos), if_pos hb, htake, hdrop]

/-- Digits that fit are read up to what ends the number. -/
theorem readUnsigned_toDigits (negative : Bool) (hrest : EndsNumber rest)
    (h : n < 18446744073709551616) :
    readUnsigned negative (encodeChars (Nat.toDigits 10 n) ++ rest) =
      (wholeNumber negative n).map (·, rest) := by
  have hdigits : ∀ c ∈ Nat.toDigits 10 n, c.isDigit := fun c => Text.isDigit_of_mem_toDigits
  have htaken := takeDigits_octets (n := 0) hdigits (by rwa [Nat.ofDigitChars_ten_toDigits])
  rw [readUnsigned_digits negative n hrest.noDigitNext, htaken, Nat.ofDigitChars_ten_toDigits]
  exact closeNumber_of_endsNumber negative hrest

/-- An integer begins with a minus sign or a digit. -/
theorem encodeChars_integerChars_eq_cons (k : Int) :
    ∃ b bs, encodeChars (integerChars k) = b :: bs ∧ (b = minus ∨ isDigit b = true) := by
  cases k with
  | ofNat n =>
    obtain ⟨b, bs, hbs, hb, -⟩ := encodeChars_toDigits_eq_cons n
    exact ⟨b, bs, hbs, .inr hb⟩
  | negSucc n => exact ⟨minus, _, rfl, .inl rfl⟩

/-- What a number begins with is no white space, and no other value begins with it. -/
theorem clear_of_number {b : UInt8} (h : b = minus ∨ isDigit b = true) :
    isSpace b = false ∧ b ≠ 0x6E := by
  have hrange : b.toNat = 0x2D ∨ 0x30 ≤ b.toNat ∧ b.toNat ≤ 0x39 := by
    rcases h with rfl | h
    · exact .inl rfl
    · right
      simpa [isDigit, UInt8.le_iff_toNat_le] using h
  have hne : ∀ o : UInt8, o.toNat < 0x2D ∨ 0x39 < o.toNat → b ≠ o := by
    rintro o ho rfl
    omega
  simp only [isSpace, Bool.or_eq_false_iff, beq_eq_false_iff_ne]
  exact ⟨⟨⟨⟨hne _ (by decide), hne _ (by decide)⟩, hne _ (by decide)⟩, hne _ (by decide)⟩,
    hne _ (by decide)⟩

/-- Without a minus sign in front it is the digits that are read. -/
theorem readNumber_toDigits (n : Nat) (rest : Octets) :
    readNumber (encodeChars (Nat.toDigits 10 n) ++ rest) =
      readUnsigned false (encodeChars (Nat.toDigits 10 n) ++ rest) := by
  obtain ⟨b, bs, hbs, hb, -⟩ := encodeChars_toDigits_eq_cons n
  have hminus : b ≠ minus := by
    rintro rfl
    exact absurd hb (by decide)
  rw [hbs, List.cons_append, readNumber, if_neg hminus]

/-- **The digits of an integer are read as the integer.** -/
theorem readNumber_integerChars {k : Int} (hrest : EndsNumber rest)
    (h : -9223372036854775808 ≤ k) (h' : k < 18446744073709551616) :
    readNumber (encodeChars (integerChars k) ++ rest) = .ok (.integer k, rest) := by
  cases k with
  | ofNat n =>
    have hread := readUnsigned_toDigits false hrest (n := n) (Int.ofNat_lt.1 h')
    rw [integerChars, readNumber_toDigits, hread]
    rfl
  | negSucc n =>
    have hread := readUnsigned_toDigits true hrest (n := n + 1) (by omega)
    have hminus : readNumber (encodeChars (integerChars (.negSucc n)) ++ rest) =
        readUnsigned true (encodeChars (Nat.toDigits 10 (n + 1)) ++ rest) := rfl
    rw [hminus, hread, wholeNumber, if_pos rfl, if_neg (by omega)]
    rfl

end Json
end SoilWatch
