/-
# Every value is passed over

The machine that passes over values takes the octets of any tree, however deep, and stops right
behind them (`skipValue_octets`).  What it does behind a value depends on whether a bracket is open
(`Skip.behind`).  Each kind of leaf is a walk through its own states; a list and an object are the
same walk for two kinds of bracket (`Skip.Passes`, `Skip.run_bracket`), and the induction is on the
tree.
-/

import SoilWatch.Json.Skip
import SoilWatch.Proofs.Json.Grammar

namespace SoilWatch
namespace Json
namespace Skip

open Text.Utf8 (encodeChars)

variable {frames outer : List Frame} {f : Frame} {isKey : Bool} {b : UInt8} {bs rest : Octets}

/-! ### One octet after another -/

theorem run_next {s t : State} {frames' : List Frame} (h : step frames s b = .next frames' t) :
    run frames s (b :: bs) = run frames' t bs := by
  rw [run, h]

/-- What the machine answers behind a value: the rest, or inside a bracket what it makes of it. -/
def behind (frames : List Frame) (rest : Octets) : Except Flaw Octets :=
  if frames.isEmpty then .ok rest else run frames .ended rest

theorem behind_cons (f : Frame) (outer : List Frame) (rest : Octets) :
    behind (f :: outer) rest = run (f :: outer) .ended rest :=
  rfl

/-- The last octet of a value, which may close a bracket. -/
theorem run_close {s : State} {frames' : List Frame} (h : step frames s b = close frames') :
    run frames s (b :: bs) = behind frames' bs := by
  rw [run, h]
  cases frames' <;> rfl

/-- States in which white space changes nothing. -/
inductive Idle : List Frame → State → Prop where
  | due (frames : List Frame) : Idle frames .due
  | opened (f : Frame) (outer : List Frame) : Idle (f :: outer) .opened
  | key (frames : List Frame) : Idle frames .key
  | colon (frames : List Frame) : Idle frames .colon
  | ended (f : Frame) (outer : List Frame) : Idle (f :: outer) .ended

/-- White space is passed over. -/
theorem run_gap {s : State} (hs : Idle frames s) (gap : Gap) (rest : Octets) :
    run frames s (gap.octets ++ rest) = run frames s rest := by
  obtain ⟨bs, hspace⟩ := gap
  dsimp only
  induction bs with
  | nil => rfl
  | cons b bs ih =>
    obtain ⟨hb, hbs⟩ := List.forall_mem_cons.1 hspace
    have hstep : step frames s b = .next frames s := by
      cases hs <;> simp [step, begin, afterOpening, beginKey, afterValue, hb]
    rw [List.cons_append, run_next hstep, ih hbs]

/-! ### Leaves -/

/-- A word is passed over letter by letter. -/
theorem run_word {w : UInt8} {ws : List UInt8} :
    run frames (.word (w :: ws)) (w :: ws ++ rest) = behind frames rest := by
  induction ws generalizing w with
  | nil => exact run_close (by simp [step])
  | cons w' ws ih =>
    exact (run_next (by simp [step])).trans ih

/-- Four digits are each a digit. -/
theorem isSome_of_hexQuad? {w x y z : UInt8} {n : Nat} (h : hexQuad? w x y z = some n) :
    (Text.hexValue? w).isSome ∧ (Text.hexValue? x).isSome ∧ (Text.hexValue? y).isSome ∧
      (Text.hexValue? z).isSome := by
  unfold hexQuad? at h
  simp only [bind, Option.bind_eq_some_iff] at h
  obtain ⟨_, hw, _, hx, _, hy, _, hz, -⟩ := h
  simp [hw, hx, hy, hz]

theorem run_piece (p : Piece) :
    run frames (.text isKey) (p.octets ++ rest) = run frames (.text isKey) rest := by
  cases p with
  | plain b h =>
    obtain ⟨hquote, hbackslash, hcontrol⟩ := h
    exact run_next (by simp [step, hquote, hbackslash, hcontrol])
  | simple e o h =>
    have hescape : step frames (.text isKey) backslash = .next frames (.escape isKey) := rfl
    have hletter : step frames (.escape isKey) e = .next frames (.text isKey) := by
      simp [step, ne_unit_of_simpleEscape? h, h]
    exact (run_next hescape).trans (run_next hletter)
  | unit w x y z n h =>
    obtain ⟨hw, hx, hy, hz⟩ := isSome_of_hexQuad? h
    have hescape : step frames (.text isKey) backslash = .next frames (.escape isKey) := rfl
    have hunit : step frames (.escape isKey) 0x75 = .next frames (.hex isKey 0 true) := rfl
    have hfirst : step frames (.hex isKey 0 true) w = .next frames (.hex isKey 1 true) := by
      simp [step, hw]
    have hsecond : step frames (.hex isKey 1 true) x = .next frames (.hex isKey 2 true) := by
      simp [step, hx]
    have hthird : step frames (.hex isKey 2 true) y = .next frames (.hex isKey 3 true) := by
      simp [step, hy]
    have hlast : step frames (.hex isKey 3 true) z = .next frames (.text isKey) := by
      simp [step, hz]
    exact (run_next hescape).trans ((run_next hunit).trans ((run_next hfirst).trans
      ((run_next hsecond).trans ((run_next hthird).trans (run_next hlast)))))

/-- Pieces of a text are passed over whatever they stand for. -/
theorem run_literal (ps : List Piece) :
    run frames (.text isKey) (literal ps ++ rest) = run frames (.text isKey) rest := by
  induction ps with
  | nil => rfl
  | cons p ps ih =>
    rw [literal, List.flatMap_cons, List.append_assoc, run_piece]
    exact ih

/-- A text that is a value. -/
theorem run_text (ps : List Piece) :
    run frames (.text false) (literal ps ++ quote :: rest) = behind frames rest := by
  rw [run_literal]
  exact run_close (by simp [step, closeText])

/-- A key in quotes and its colon. -/
theorem run_key (key : List Piece) (gap : Gap) (rest : Octets) :
    run frames .key (keyOctets key gap ++ rest) = run frames .due rest := by
  have hquote : step frames .key quote = .next frames (.text true) := rfl
  have hend : step frames (.text true) quote = .next frames .colon := rfl
  have hcolon : step frames .colon Json.colon = .next frames .due := rfl
  rw [keyOctets, List.cons_append, List.append_assoc, List.cons_append, List.append_assoc,
    run_next hquote, run_literal, run_next hend, run_gap (.colon frames)]
  exact run_next hcolon

/-! ### Numbers -/

/-- The states in which a number may end. -/
inductive Complete : NumberState → Prop where
  | zero : Complete .zero
  | digits : Complete .digits
  | fraction : Complete .fraction
  | exponent : Complete .exponent

/-- A number ends in front of what would not make it longer. -/
theorem run_ended {s : NumberState} (hs : Complete s) (hrest : EndsNumber rest) :
    run frames (.number s) rest = behind frames rest := by
  cases rest with
  | nil => cases hs <;> cases frames <;> rfl
  | cons b rest =>
    obtain ⟨hdigit, hpoint, hmark⟩ := hrest b rfl
    have hstep : step frames (.number s) b = afterValue frames b := by
      cases hs <;> simp [step, insideNumber, hdigit, hpoint, hmark]
    cases frames with
    | nil =>
      rw [run, hstep]
      rfl
    | cons f outer =>
      rw [behind_cons, run, run, hstep]
      rfl

/-- The states in which digits are taken one after another. -/
inductive Counting : NumberState → Prop where
  | digits : Counting .digits
  | fraction : Counting .fraction
  | exponent : Counting .exponent

theorem run_digits {s : NumberState} (hs : Counting s) {ds : Octets} (h : ∀ b ∈ ds, isDigit b) :
    run frames (.number s) (ds ++ rest) = run frames (.number s) rest := by
  induction ds with
  | nil => rfl
  | cons b ds ih =>
    obtain ⟨hb, hds⟩ := List.forall_mem_cons.1 h
    have hstep : step frames (.number s) b = .next frames (.number s) := by
      cases hs <;> simp [step, insideNumber, hb]
    rw [List.cons_append, run_next hstep, ih hds]

/-- One digit or more lead from a state that needs one to a state that takes more. -/
theorem run_digits_of_first {s t : NumberState} (ht : Counting t) (ds : Digits)
    (hfirst : ∀ b, isDigit b → step frames (.number s) b = .next frames (.number t)) :
    run frames (.number s) (ds.octets ++ rest) = run frames (.number t) rest := by
  obtain ⟨bs, hne, hdigits⟩ := ds
  obtain ⟨b, bs, rfl⟩ := List.exists_cons_of_ne_nil hne
  obtain ⟨hb, hbs⟩ := List.forall_mem_cons.1 hdigits
  rw [List.cons_append, run_next (hfirst b hb), run_digits ht hbs]

/-- A fraction may stand behind the digits in front. -/
theorem run_fraction {s : NumberState} (hs : s = .zero ∨ s = .digits) (ds : Digits) :
    run frames (.number s) (0x2E :: ds.octets ++ rest) = run frames (.number .fraction) rest := by
  have hpoint : step frames (.number s) 0x2E = .next frames (.number .point) := by
    rcases hs with rfl | rfl <;> rfl
  rw [List.cons_append, run_next hpoint]
  exact run_digits_of_first .fraction ds fun b hb => by simp [step, insideNumber, hb]

/-- An exponent may stand behind digits, of a fraction or not. -/
theorem run_exponent {s : NumberState} (hs : s = .zero ∨ s = .digits ∨ s = .fraction)
    (e : Exponent) :
    run frames (.number s) (e.octets ++ rest) = run frames (.number .exponent) rest := by
  obtain ⟨mark, sign, ds, hmark, hsign⟩ := e
  have hdigit : isDigit mark = false := not_digit_of_mark (.inr hmark)
  have hpoint : mark ≠ 0x2E := by
    rintro rfl
    exact absurd hmark (by decide)
  have hstart : step frames (.number s) mark = .next frames (.number .mark) := by
    rcases hs with rfl | rfl | rfl <;> simp [step, insideNumber, hdigit, hpoint, hmark]
  have hsigned : ∀ b, b = 0x2B ∨ b = minus →
      run frames (.number .mark) (b :: (ds.octets ++ rest)) =
        run frames (.number .exponent) rest := by
    intro b hb
    have hstep : step frames (.number .mark) b = .next frames (.number .markSign) := by
      simp [step, insideNumber, hb]
    rw [run_next hstep]
    exact run_digits_of_first .exponent ds fun b hb => by simp [step, insideNumber, hb]
  rw [Exponent.octets, List.cons_append, List.append_assoc, run_next hstart]
  rcases hsign with rfl | rfl | rfl
  · refine run_digits_of_first .exponent ds fun b hb => ?_
    have hplus : b ≠ 0x2B := by rintro rfl; exact absurd hb (by decide)
    have hminus : b ≠ minus := by rintro rfl; exact absurd hb (by decide)
    simp [step, insideNumber, hb, hplus, hminus]
  · exact hsigned 0x2B (.inl rfl)
  · exact hsigned minus (.inr rfl)

/-- What may stand behind the digits in front. -/
theorem run_tail {s : NumberState} (hs : s = .zero ∨ s = .digits) (n : NumberLiteral)
    (hrest : EndsNumber rest) :
    run frames (.number s) (n.tail ++ rest) = behind frames rest := by
  obtain ⟨negative, whole, fraction, exponent⟩ := n
  have hexponent : ∀ s, s = .zero ∨ s = .digits ∨ s = .fraction →
      run frames (.number s) (exponent.elim [] Exponent.octets ++ rest) = behind frames rest := by
    intro s hs
    cases exponent with
    | none =>
      refine run_ended ?_ hrest
      rcases hs with rfl | rfl | rfl
      · exact .zero
      · exact .digits
      · exact .fraction
    | some e => exact (run_exponent hs e).trans (run_ended .exponent hrest)
  rw [NumberLiteral.tail, List.append_assoc]
  cases fraction with
  | none => exact hexponent s (hs.imp_right .inl)
  | some ds => exact (run_fraction hs ds).trans (hexponent .fraction (.inr (.inr rfl)))

/-- A digit that is not zero begins a number of more digits, behind a sign or not. -/
theorem step_digit {t : State} (ht : t = .due ∨ t = .number .sign) (hb : isDigit b)
    (hzero : b ≠ 0x30) : step frames t b = .next frames (.number .digits) := by
  have hspace : isSpace b = false := (clear_of_number (.inr hb)).1
  have hne : ∀ c, isDigit c = false → b ≠ c := by
    rintro c hc rfl
    exact absurd hb (by simp [hc])
  rcases ht with rfl | rfl
  · simp [step, begin, hspace, hne quote rfl, hne openList rfl, hne openObject rfl, hne minus rfl,
      hzero, hb]
  · simp [step, insideNumber, hzero, hb]

/-- The digits in front are passed over, behind a sign or not. -/
theorem run_whole (frames : List Frame) {t : State} (ht : t = .due ∨ t = .number .sign) (n : Nat) :
    ∃ s, (s = .zero ∨ s = .digits) ∧ ∀ rest,
      run frames t (encodeChars (Nat.toDigits 10 n) ++ rest) = run frames (.number s) rest := by
  rcases Nat.eq_zero_or_pos n with rfl | hpos
  · refine ⟨.zero, .inl rfl, fun rest => run_next ?_⟩
    rcases ht with rfl | rfl <;> rfl
  · obtain ⟨b, bs, hbs, hb, hmore, hzero⟩ := encodeChars_toDigits_eq_cons n
    refine ⟨.digits, .inr rfl, fun rest => ?_⟩
    rw [hbs, List.cons_append, run_next (step_digit ht hb (hzero hpos)), run_digits .digits hmore]

/-- **A number is passed over.** -/
theorem run_number (n : NumberLiteral) (hrest : EndsNumber rest) :
    run frames .due (n.octets ++ rest) = behind frames rest := by
  rw [NumberLiteral.octets, List.append_assoc, List.append_assoc]
  cases n.negative with
  | true =>
    have hsign : step frames .due minus = .next frames (.number .sign) := rfl
    obtain ⟨s, hs, hwhole⟩ := run_whole frames (.inr rfl) n.whole
    rw [if_pos rfl, List.singleton_append, run_next hsign, hwhole, run_tail hs n hrest]
  | false =>
    obtain ⟨s, hs, hwhole⟩ := run_whole frames (.inl rfl) n.whole
    rw [if_neg Bool.false_ne_true, List.nil_append, hwhole, run_tail hs n hrest]

/-! ### Brackets -/

/-- The state in which a part between brackets begins. -/
def Frame.start : Frame → State
  | .list => .due
  | .object => .key

/-- The octet of a closing bracket. -/
def Frame.closing : Frame → UInt8
  | .list => closeList
  | .object => closeObject

theorem idle_start (f : Frame) (outer : List Frame) : Idle (f :: outer) f.start := by
  cases f
  · exact .due _
  · exact .key _

/-- **A part between brackets that is passed over**: it begins, behind white space, with an octet that
does not close the bracket, and the machine takes it to its end. -/
structure Passes (f : Frame) (outer : List Frame) (x : Octets) : Prop where
  head : ∃ (gap : Gap) (b : UInt8) (bs : Octets), x = gap.octets ++ b :: bs ∧ isSpace b = false ∧
    b ≠ f.closing
  run_start : ∀ rest, EndsNumber rest →
    run (f :: outer) f.start (x ++ rest) = run (f :: outer) .ended rest

/-- The first part stands right behind the opening bracket. -/
theorem run_opened {x : Octets} (h : Passes f outer x) (rest : Octets) :
    run (f :: outer) .opened (x ++ rest) = run (f :: outer) f.start (x ++ rest) := by
  obtain ⟨gap, b, bs, rfl, hspace, hclosing⟩ := h.head
  have hstep : step (f :: outer) .opened b = step (f :: outer) f.start b := by
    cases f with
    | list => simp [step, afterOpening, Frame.start, hspace, show b ≠ closeList from hclosing]
    | object => simp [step, afterOpening, Frame.start, hspace, show b ≠ closeObject from hclosing]
  rw [List.append_assoc, run_gap (.opened f outer), run_gap (idle_start f outer), List.cons_append,
    run, run, hstep]

theorem endsNumber_closing (f : Frame) : EndsNumber (f.closing :: rest) := by
  cases f <;> exact endsNumber_cons (by decide)

/-- Parts with commas between them are passed over one after another. -/
theorem run_commas {xs : List Octets} (hne : xs ≠ []) (h : ∀ x ∈ xs, Passes f outer x)
    (hrest : EndsNumber rest) :
    run (f :: outer) f.start ([comma].intercalate xs ++ rest) = run (f :: outer) .ended rest := by
  induction xs with
  | nil => exact absurd rfl hne
  | cons x xs ih =>
    obtain ⟨hx, hxs⟩ := List.forall_mem_cons.1 h
    rcases xs with _ | ⟨y, xs⟩
    · rw [List.intercalate_singleton]
      exact hx.run_start rest hrest
    · have hcomma : step (f :: outer) .ended comma = .next (f :: outer) f.start := by
        cases f <;> rfl
      rw [List.intercalate_cons_cons, List.append_assoc, List.append_assoc, List.singleton_append,
        hx.run_start _ (endsNumber_cons (by decide)), run_next hcomma]
      exact ih (List.cons_ne_nil _ _) hxs

/-- **What stands behind an opening bracket is passed over**, with the bracket that closes it. -/
theorem run_bracket {xs : List Octets} (h : ∀ x ∈ xs, Passes f outer x) (gap : Gap)
    (rest : Octets) :
    run (f :: outer) .opened ([comma].intercalate xs ++ (gap.octets ++ f.closing :: rest)) =
      behind outer rest := by
  have hend : EndsNumber (gap.octets ++ f.closing :: rest) :=
    endsNumber_gap gap (endsNumber_closing f)
  cases xs with
  | nil =>
    have hclose : step (f :: outer) .opened f.closing = close outer := by cases f <;> rfl
    rw [List.intercalate_nil, List.nil_append, run_gap (.opened f outer), run_close hclose]
  | cons x xs =>
    have hopened : run (f :: outer) .opened
        ([comma].intercalate (x :: xs) ++ (gap.octets ++ f.closing :: rest)) =
          run (f :: outer) f.start
            ([comma].intercalate (x :: xs) ++ (gap.octets ++ f.closing :: rest)) := by
      have hx := h x List.mem_cons_self
      rcases xs with _ | ⟨y, xs⟩
      · rw [List.intercalate_singleton]
        exact run_opened hx _
      · rw [List.intercalate_cons_cons, List.append_assoc, List.append_assoc]
        exact run_opened hx _
    have hclose : step (f :: outer) .ended f.closing = close outer := by cases f <;> rfl
    rw [hopened, run_commas (List.cons_ne_nil _ _) h hend, run_gap (.ended f outer),
      run_close hclose]

/-! ### Trees -/

mutual

/-- **Any value is passed over.** -/
theorem run_octets (t : Tree) (frames : List Frame) {rest : Octets} (hrest : EndsNumber rest) :
    run frames .due (t.octets ++ rest) = behind frames rest := by
  match t with
  | .word .null => exact (run_next rfl).trans run_word
  | .word .true => exact (run_next rfl).trans run_word
  | .word .false => exact (run_next rfl).trans run_word
  | .number n => exact run_number n hrest
  | .text ps =>
    have hquote : step frames .due quote = .next frames (.text false) := rfl
    rw [Tree.octets, List.cons_append, List.append_assoc, run_next hquote]
    exact run_text ps
  | .list es gap =>
    have hopen : step frames .due openList = .next (.list :: frames) .opened := rfl
    rw [Tree.octets, List.cons_append, List.append_assoc, List.append_assoc, run_next hopen]
    exact run_bracket (passes_elements es frames) gap rest
  | .object ms gap =>
    have hopen : step frames .due openObject = .next (.object :: frames) .opened := rfl
    rw [Tree.octets, List.cons_append, List.append_assoc, List.append_assoc, run_next hopen]
    exact run_bracket (passes_members ms frames) gap rest

/-- The elements of a list are passed over. -/
theorem passes_elements (es : List (Element Tree)) (outer : List Frame) :
    ∀ x ∈ elementTexts es, Passes .list outer x := by
  match es with
  | [] => exact fun _ h => absurd h List.not_mem_nil
  | ⟨before, value, after⟩ :: es =>
    rw [elementTexts]
    refine List.forall_mem_cons.2 ⟨⟨?_, fun rest hrest => ?_⟩, passes_elements es outer⟩
    · obtain ⟨b, bs, hbs, hspace, hclosing, -⟩ := value.octets_eq_cons
      exact ⟨before, b, bs ++ after.octets, by rw [hbs, List.cons_append], hspace, hclosing⟩
    · rw [List.append_assoc, List.append_assoc, run_gap (idle_start .list outer)]
      refine (run_octets value (.list :: outer) (endsNumber_gap after hrest)).trans ?_
      rw [behind_cons, run_gap (.ended .list outer)]

/-- The members of an object are passed over. -/
theorem passes_members (ms : List (Member Tree)) (outer : List Frame) :
    ∀ x ∈ memberTexts ms, Passes .object outer x := by
  match ms with
  | [] => exact fun _ h => absurd h List.not_mem_nil
  | ⟨before, key, gap, front, value, after⟩ :: ms =>
    rw [memberTexts]
    refine List.forall_mem_cons.2 ⟨⟨?_, fun rest hrest => ?_⟩, passes_members ms outer⟩
    · exact ⟨before, quote, _, rfl, by decide, by decide⟩
    · rw [List.append_assoc, List.append_assoc, List.append_assoc, List.append_assoc,
        run_gap (idle_start .object outer)]
      refine (run_key key gap _).trans ?_
      rw [run_gap (.due _)]
      refine (run_octets value (.object :: outer) (endsNumber_gap after hrest)).trans ?_
      rw [behind_cons, run_gap (.ended .object outer)]

end

end Skip

/-- **A value is passed over up to what stands behind it**, white space in front of it included. -/
theorem skipValue_octets (front : Gap) (t : Tree) {rest : Octets} (hrest : EndsNumber rest) :
    skipValue (front.octets ++ (t.octets ++ rest)) = .ok rest := by
  rw [skipValue, Skip.run_gap (.due []), Skip.run_octets t [] hrest]
  rfl

end Json
end SoilWatch
