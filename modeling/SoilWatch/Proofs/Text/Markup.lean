/-
# What escaping keeps and what it keeps out

An escaped text holds none of the characters that markup gives a meaning to, but for the ampersands
at the head of its entities (`isText_of_mem_escapeChars`, `entity_of_ampersand`).  Undoing the
entities gives the text back (`unescape_escapeChars`), so two texts are never escaped alike, and that
holds of a text that has entities of its own.

The tags of a markup text are what stands between angle brackets, where a bracket inside a quoted
attribute counts for nothing (`tags`).  Between tags an escaped text adds none and opens none
(`tagsFrom_escapeChars`).
-/

import SoilWatch.Text.Markup
import Mathlib.Data.List.Infix
import Mathlib.Data.List.TakeWhile

namespace SoilWatch
namespace Text
namespace Markup

variable {c d : Char} {cs before behind rest rest' : List Char}

/-! ### Entities -/

/-- The six entities, behind the characters that they stand for. -/
def entities : List (Char × String) :=
  [('<', "&lt;"), ('>', "&gt;"), ('&', "&amp;"), ('"', "&quot;"), ('\'', "&#x27;"), ('/', "&#x2f;")]

/-- The text with each entity replaced by the character that it stands for. -/
def unescape : List Char → List Char
  | '&' :: 'l' :: 't' :: ';' :: cs => '<' :: unescape cs
  | '&' :: 'g' :: 't' :: ';' :: cs => '>' :: unescape cs
  | '&' :: 'a' :: 'm' :: 'p' :: ';' :: cs => '&' :: unescape cs
  | '&' :: 'q' :: 'u' :: 'o' :: 't' :: ';' :: cs => '"' :: unescape cs
  | '&' :: '#' :: 'x' :: '2' :: '7' :: ';' :: cs => '\'' :: unescape cs
  | '&' :: '#' :: 'x' :: '2' :: 'f' :: ';' :: cs => '/' :: unescape cs
  | c :: cs => c :: unescape cs
  | [] => []

/-- A character that is not a mark of markup. -/
def IsText (c : Char) : Prop :=
  c ≠ '<' ∧ c ≠ '>' ∧ c ≠ '"' ∧ c ≠ '\'' ∧ c ≠ '/'

instance (c : Char) : Decidable (IsText c) :=
  inferInstanceAs (Decidable (_ ∧ _))

/-- **A character is escaped by its entity, or stands for itself.** -/
theorem escapeChar_cases (c : Char) :
    (∃ e, (c, e) ∈ entities ∧ escapeChar c = e.toList) ∨
      (IsText c ∧ c ≠ '&' ∧ escapeChar c = [c]) := by
  unfold escapeChar
  by_cases h : c = '<' ∨ c = '>' ∨ c = '&' ∨ c = '"' ∨ c = '\'' ∨ c = '/'
  · left
    rcases h with rfl | rfl | rfl | rfl | rfl | rfl
    all_goals exact ⟨_, by simp [entities], rfl⟩
  · right
    simp only [not_or] at h
    obtain ⟨hlt, hgt, hamp, hquot, hapos, hslash⟩ := h
    have hnone : entity? c = none := by
      unfold entity?
      split <;> first | contradiction | rfl
    rw [hnone]
    exact ⟨⟨hlt, hgt, hquot, hapos, hslash⟩, hamp, rfl⟩

/-- **An escaped text holds no mark of markup.** -/
theorem isText_of_mem_escapeChars (h : c ∈ escapeChars cs) : IsText c := by
  obtain ⟨d, -, hc⟩ := List.mem_flatMap.1 h
  rcases escapeChar_cases d with ⟨e, he, hd⟩ | ⟨htext, -, hd⟩
  · have hentities : ∀ m ∈ entities, ∀ c ∈ m.2.toList, IsText c := by
      simp [entities, IsText]
    exact hentities _ he c (hd ▸ hc)
  · rw [hd] at hc
    obtain rfl := List.mem_singleton.1 hc
    exact htext

/-- An ampersand stands nowhere in an entity but at its head. -/
theorem entity_eq_append {e : String} (he : (c, e) ∈ entities)
    (h : e.toList = before ++ '&' :: behind) : before = [] := by
  have hentities : ∀ m ∈ entities, '&' ∉ m.2.toList.tail := by decide
  cases before with
  | nil => rfl
  | cons b before =>
    refine absurd ?_ (hentities _ he)
    rw [h]
    exact List.mem_append_right _ List.mem_cons_self

/-- **Every ampersand of an escaped text begins an entity.** -/
theorem entity_of_ampersand (h : escapeChars cs = before ++ '&' :: behind) :
    ∃ m ∈ entities, m.2.toList <+: '&' :: behind := by
  induction cs generalizing before with
  | nil => exact absurd h (by simp [escapeChars])
  | cons c cs ih =>
    rw [escapeChars, List.flatMap_cons] at h
    rcases List.append_eq_append_iff.1 h with ⟨more, -, hcs⟩ | ⟨part, hc, hpart⟩
    · exact ih hcs
    cases part with
    | nil =>
      have hcs : cs.flatMap escapeChar = [] ++ '&' :: behind := hpart.symm
      exact ih hcs
    | cons a part =>
      obtain ⟨rfl, hbehind⟩ := List.cons.inj hpart
      rcases escapeChar_cases c with ⟨e, he, hescape⟩ | ⟨-, hne, hescape⟩
      · rw [hescape] at hc
        obtain rfl := entity_eq_append he hc
        exact ⟨(c, e), he, cs.flatMap escapeChar, by rw [hc, hbehind]; rfl⟩
      · -- The character would be the ampersand, which has an entity.
        have hmem : '&' ∈ [c] := by
          rw [← hescape, hc]
          exact List.mem_append_right _ List.mem_cons_self
        exact absurd (List.mem_singleton.1 hmem).symm hne

/-- Another character than an ampersand begins no entity. -/
theorem unescape_cons (h : c ≠ '&') : unescape (c :: cs) = c :: unescape cs := by
  rw [unescape]
  all_goals
    intros
    contradiction

theorem unescape_entity {m : Char × String} (h : m ∈ entities) (cs : List Char) :
    unescape (m.2.toList ++ cs) = m.1 :: unescape cs := by
  simp only [entities, List.mem_cons, List.not_mem_nil, or_false] at h
  rcases h with rfl | rfl | rfl | rfl | rfl | rfl <;> rfl

/-- **Undoing the entities gives the text back.** -/
theorem unescape_escapeChars (cs : List Char) : unescape (escapeChars cs) = cs := by
  induction cs with
  | nil => rfl
  | cons c cs ih =>
    unfold escapeChars at ih ⊢
    rw [List.flatMap_cons]
    rcases escapeChar_cases c with ⟨e, he, hescape⟩ | ⟨-, hne, hescape⟩ <;> rw [hescape]
    · rw [unescape_entity he, ih]
    · rw [List.singleton_append, unescape_cons hne, ih]

theorem escapeChars_inj {ds : List Char} (h : escapeChars cs = escapeChars ds) : cs = ds := by
  rw [← unescape_escapeChars cs, h, unescape_escapeChars]

/-! ### Tags -/

/-- Where a character of a markup text stands. -/
inductive Place where
  | text
  | tag
  | quoted (mark : Char)
  deriving DecidableEq

/-- Where the next character stands. -/
def Place.next : Place → Char → Place
  | .text, c => if c = '<' then .tag else .text
  | .tag, c => if c = '>' then .text else if c = '"' ∨ c = '\'' then .quoted c else .tag
  | .quoted mark, c => if c = mark then .tag else .quoted mark

/-- Where a text leaves off. -/
def Place.after (p : Place) (cs : List Char) : Place :=
  cs.foldl Place.next p

/-- The tags of a markup text that begins at a place. -/
def tagsFrom : Place → List Char → List Char
  | _, [] => []
  | p, c :: cs =>
    if p = .text ∧ p.next c = .text then tagsFrom (p.next c) cs else c :: tagsFrom (p.next c) cs

/-- **The tags of a markup text**, one behind the other. -/
def tags (s : String) : List Char :=
  tagsFrom .text s.toList

theorem tagsFrom_append (p : Place) (cs ds : List Char) :
    tagsFrom p (cs ++ ds) = tagsFrom p cs ++ tagsFrom (p.after cs) ds := by
  induction cs generalizing p with
  | nil => rfl
  | cons c cs ih =>
    rw [List.cons_append, tagsFrom, tagsFrom, ih]
    split <;> rfl

/-- **Between tags an escaped text adds none and opens none.** -/
theorem tagsFrom_escapeChars (cs : List Char) :
    tagsFrom .text (escapeChars cs) = [] ∧ Place.text.after (escapeChars cs) = .text := by
  have htext : ∀ c ∈ escapeChars cs, Place.text.next c = .text := by
    intro c hc
    exact if_neg (isText_of_mem_escapeChars hc).1
  generalize escapeChars cs = ds at htext
  induction ds with
  | nil => exact ⟨rfl, rfl⟩
  | cons d ds ih =>
    obtain ⟨hd, hds⟩ := List.forall_mem_cons.1 htext
    obtain ⟨htags, hafter⟩ := ih hds
    constructor
    · rw [tagsFrom, hd, if_pos ⟨rfl, rfl⟩, htags]
    · rw [Place.after, List.foldl_cons, hd]
      exact hafter

example : tags "a <b title=\"x > y\">c</b> &lt;d" = "<b title=\"x > y\"></b>".toList := by decide

end Markup
end Text
end SoilWatch
