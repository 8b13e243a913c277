/-
# What a name can do to a page

A template whose branches have been taken is a list of pieces: fixed texts, and places where a
variable is inserted, escaped or verbatim.  Which pieces a template has depends on what its branches
ask, and on nothing that it shows (`chars_eq_fill`).  The mail with the reset link and the three
states of the page on which a password is changed are four such lists (`Screen`).

In all four the name and the error are escaped and stand between tags, so the tags of a page are the
same whatever they are (`tags_page`).  Behind the name comes a tag, which an escaped name cannot
hold, so that the page tells the name (`name_of_page`); and the tags tell the state.
-/

import SoilWatch.Proofs.Text.Markup
import SoilWatch.Template

namespace SoilWatch
namespace Template

open Json (Value)
open Text.Markup (Place entities escapeChars tags tagsFrom unescape)

/-! ### Pieces -/

/-- A part of a template whose branches have been taken. -/
inductive Piece where
  | fixed (text : String)
  | escaped (name : String)
  | verbatim (name : String)
  deriving DecidableEq

/-- The characters of a piece, by the texts of the variables. -/
def Piece.chars (shown : String → String) : Piece → List Char
  | .fixed t => t.toList
  | .escaped x => escapeChars (shown x).toList
  | .verbatim x => (shown x).toList

/-- The characters of a list of pieces. -/
def fill (shown : String → String) (ps : List Piece) : List Char :=
  ps.flatMap (Piece.chars shown)

mutual

/-- The pieces of a part, by which variables are true. -/
def partPieces (holds : String → Bool) : Part → List Piece
  | .fixed t => [.fixed t]
  | .escaped x => [.escaped x]
  | .verbatim x => [.verbatim x]
  | .branch x yes no => if holds x then pieces holds yes else pieces holds no

/-- The pieces of a template. -/
def pieces (holds : String → Bool) : List Part → List Piece
  | [] => []
  | p :: ps => partPieces holds p ++ pieces holds ps

end

variable {env : String → Option Value} {shown shown' : String → String} {ps : List Piece}
  {x : String}

theorem fill_append (shown : String → String) (ps qs : List Piece) :
    fill shown (ps ++ qs) = fill shown ps ++ fill shown qs :=
  List.flatMap_append

theorem fill_cons (shown : String → String) (p : Piece) (ps : List Piece) :
    fill shown (p :: ps) = p.chars shown ++ fill shown ps :=
  List.flatMap_cons

mutual

theorem partChars_eq_fill (env : String → Option Value) : (p : Part) → partChars env p =
    fill (fun x => outerText (env x)) (partPieces (fun x => isTrue (env x)) p)
  | .fixed _ => by simp [partChars, partPieces, fill, Piece.chars]
  | .escaped _ => by simp [partChars, partPieces, fill, Piece.chars]
  | .verbatim _ => by simp [partChars, partPieces, fill, Piece.chars]
  | .branch x yes no => by
    rw [partChars, partPieces, chars_eq_fill env yes, chars_eq_fill env no]
    split <;> rfl

/-- **A template is its pieces, filled in.** -/
theorem chars_eq_fill (env : String → Option Value) : (ps : List Part) → chars env ps =
    fill (fun x => outerText (env x)) (pieces (fun x => isTrue (env x)) ps)
  | [] => rfl
  | p :: ps => by
    rw [chars, pieces, fill_append, partChars_eq_fill env p, chars_eq_fill env ps]

end

/-- The variable that a piece shows. -/
def Piece.name? : Piece → Option String
  | .fixed _ => none
  | .escaped x | .verbatim x => some x

/-- Pieces show only the texts of their variables. -/
theorem fill_congr (h : ∀ p ∈ ps, ∀ x ∈ p.name?, shown x = shown' x) :
    fill shown ps = fill shown' ps := by
  induction ps with
  | nil => rfl
  | cons p ps ih =>
    obtain ⟨hp, hps⟩ := List.forall_mem_cons.1 h
    rw [fill_cons, fill_cons, ih hps]
    cases p with
    | fixed t => rfl
    | escaped y => rw [Piece.chars, Piece.chars, hp y rfl]
    | verbatim y => rw [Piece.chars, Piece.chars, hp y rfl]

/-- Fixed pieces show the same whatever the variables are. -/
theorem fill_eq_of_fixed (h : ∀ p ∈ ps, p.name? = none) : fill shown ps = fill shown' ps := by
  refine fill_congr fun p hp x hx => ?_
  rw [h p hp] at hx
  cases hx

/-! ### Tags between pieces -/

/-- **Whether escaped pieces stand between tags**, and none of them behind a verbatim one, which
could leave off anywhere. -/
def steady : Place → List Piece → Bool
  | _, [] => true
  | p, .fixed t :: ps => steady (p.after t.toList) ps
  | p, .escaped _ :: ps => p = .text && steady .text ps
  | _, .verbatim _ :: ps => ps.all (·.name? = none)

/-- **Escaped variables do not change the tags.** -/
theorem tagsFrom_fill {p : Place} (h : steady p ps)
    (hverbatim : ∀ x, .verbatim x ∈ ps → shown x = shown' x) :
    tagsFrom p (fill shown ps) = tagsFrom p (fill shown' ps) := by
  induction ps generalizing p with
  | nil => rfl
  | cons q ps ih =>
    have hrest : ∀ x, .verbatim x ∈ ps → shown x = shown' x := fun x hx =>
      hverbatim x (List.mem_cons_of_mem _ hx)
    rw [fill_cons, fill_cons, Text.Markup.tagsFrom_append, Text.Markup.tagsFrom_append]
    cases q with
    | fixed t =>
      show _ ++ tagsFrom (p.after t.toList) _ = _ ++ tagsFrom (p.after t.toList) _
      rw [ih h hrest]
      rfl
    | escaped y =>
      obtain ⟨hp, hps⟩ := Bool.and_eq_true_iff.1 h
      obtain rfl := of_decide_eq_true hp
      have hshown := Text.Markup.tagsFrom_escapeChars (shown y).toList
      have hshown' := Text.Markup.tagsFrom_escapeChars (shown' y).toList
      rw [Piece.chars, Piece.chars, hshown.1, hshown.2, hshown'.1, hshown'.2, ih hps hrest]
    | verbatim y =>
      -- It may leave off inside a tag, but everything behind it is fixed, so both go on alike.
      have hy : shown y = shown' y := hverbatim y List.mem_cons_self
      have hfixed : ∀ p ∈ ps, p.name? = none := fun p hp =>
        of_decide_eq_true (List.all_eq_true.1 h p hp)
      have hps : fill shown ps = fill shown' ps := fill_eq_of_fixed hfixed
      rw [Piece.chars, Piece.chars, hy, hps]

/-! ### What a page tells -/

/-- In front of the next tag an escaped text is told from another. -/
theorem eq_of_append_tag {cs ds between rest rest' : List Char} (hbetween : '<' ∉ between)
    (h : escapeChars cs ++ (between ++ '<' :: rest) =
      escapeChars ds ++ (between ++ '<' :: rest')) : cs = ds := by
  have hfront (cs rest : List Char) :
      (escapeChars cs ++ (between ++ '<' :: rest)).takeWhile (· ≠ '<') =
        escapeChars cs ++ between := by
    have hescaped : ∀ c ∈ escapeChars cs, decide (c ≠ '<') = true := fun c hc =>
      decide_eq_true (Text.Markup.isText_of_mem_escapeChars hc).1
    have hplain : ∀ c ∈ between, decide (c ≠ '<') = true := fun c hc =>
      decide_eq_true fun heq => hbetween (heq ▸ hc)
    rw [List.takeWhile_append_of_pos hescaped, List.takeWhile_append_of_pos hplain,
      List.takeWhile_cons_of_neg (by simp), List.append_nil]
  have hfronts := congrArg (List.takeWhile (· ≠ '<')) h
  rw [hfront, hfront] at hfronts
  exact Text.Markup.escapeChars_inj (List.append_cancel_right hfronts)

/-- **A variable that is escaped is told by the whole**, if a tag comes behind it and everything in
front of it is fixed. -/
theorem shown_of_fill {pre post : List Piece} {t : String} (hpre : ∀ p ∈ pre, p.name? = none)
    (ht : '<' ∈ t.toList) (h : fill shown (pre ++ .escaped x :: .fixed t :: post) =
      fill shown' (pre ++ .escaped x :: .fixed t :: post)) : shown x = shown' x := by
  obtain ⟨between, rest, hrest, hbetween⟩ := List.eq_append_cons_of_mem ht
  have hfront : fill shown pre = fill shown' pre := fill_eq_of_fixed hpre
  simp only [fill_append, fill_cons, Piece.chars] at h
  rw [hfront, hrest, List.append_assoc, List.append_assoc] at h
  have hname := eq_of_append_tag hbetween (List.append_cancel_left h)
  exact String.toList_inj.1 hname

/-! ### The mail and the page -/

/-- The mail with the reset link, and the states of the page on which a password is changed. -/
inductive Screen where
  | mail
  | changed
  | form
  | formWithError
  deriving DecidableEq

namespace Screen

/-- The name of the template. -/
def template : Screen → String
  | .mail => resetMailName
  | .changed | .form | .formWithError => passwordPageName

/-- The template. -/
def parts : Screen → List Part
  | .mail => resetMail
  | .changed | .form | .formWithError => passwordPage

/-- The fixed texts of a screen and the places between them. -/
def pieces : Screen → List Piece
  | .mail => Template.pieces (fun _ => false) resetMail
  | .changed => Template.pieces (· = "changed") passwordPage
  | .form => Template.pieces (fun _ => false) passwordPage
  | .formWithError => Template.pieces (· = "error") passwordPage

/-- The texts of the three variables that are shown. -/
def texts (name error link x : String) : String :=
  if x = "username" then name else if x = "error" then error else link

/-- **A screen for a name, an error and a link.** -/
def page (s : Screen) (name error link : String) : String :=
  String.ofList (fill (texts name error link) s.pieces)

/-- **Variables that call for a screen**: what the branches of its template ask, and the texts that
it shows. -/
inductive Given (vars : Value) : Screen → (name error link : String) → Prop where
  | mail {name error link : String} (hname : vars.get? "username" = some (.text name))
    (hlink : vars.get? "reset_link" = some (.text link)) : Given vars .mail name error link
  | changed {name error link : String} (hname : vars.get? "username" = some (.text name))
    (hchanged : isTrue (vars.get? "changed") = true) : Given vars .changed name error link
  | form {name error link : String} (hname : vars.get? "username" = some (.text name))
    (hchanged : isTrue (vars.get? "changed") = false)
    (herror : isTrue (vars.get? "error") = false) : Given vars .form name error link
  | formWithError {name error link : String} (hname : vars.get? "username" = some (.text name))
    (hchanged : isTrue (vars.get? "changed") = false)
    (herror : vars.get? "error" = some (.text error)) (hne : error ≠ "") :
    Given vars .formWithError name error link

variable {s s' : Screen} {vars : Value} {name error link name' error' link' : String}

/-- The page takes one of its three states. -/
theorem pieces_passwordPage (holds : String → Bool) : Template.pieces holds passwordPage =
    if holds "changed" then pieces .changed
    else if holds "error" then pieces .formWithError else pieces .form := by
  cases hchanged : holds "changed" <;> cases herror : holds "error"
  all_goals
    simp only [pieces, passwordPage, Template.pieces, partPieces, hchanged, herror]
    rfl

/-- What a screen shows of its variables. -/
theorem name_of_mem_pieces {p : Piece} (hp : p ∈ s.pieces) {x : String} (hx : x ∈ p.name?) :
    x = "username" ∨ (x = "error" ∧ s = .formWithError) ∨ (x = "reset_link" ∧ s = .mail) := by
  have hall : ∀ p ∈ s.pieces, p.name? = none ∨ p.name? = some "username" ∨
      (p.name? = some "error" ∧ s = .formWithError) ∨
        (p.name? = some "reset_link" ∧ s = .mail) := by
    cases s <;> decide
  rw [Option.mem_def] at hx
  simpa [hx] using hall p hp

/-- The branches of a template are taken as its variables call for. -/
theorem pieces_of_given (h : Given vars s name error link) :
    Template.pieces (fun x => isTrue (vars.get? x)) s.parts = s.pieces := by
  cases h with
  | mail => rfl
  | changed hname hchanged =>
    rw [parts, pieces_passwordPage, hchanged]
    rfl
  | form hname hchanged herror =>
    rw [parts, pieces_passwordPage, hchanged, herror]
    rfl
  | formWithError hname hchanged herror hne =>
    have htrue : isTrue (vars.get? "error") = true := by
      rw [herror]
      simpa [isTrue] using hne
    rw [parts, pieces_passwordPage, hchanged, htrue]
    rfl

/-- The texts that a screen shows are those that it is called for with. -/
theorem texts_of_given (h : Given vars s name error link) {p : Piece} (hp : p ∈ s.pieces)
    {x : String} (hx : x ∈ p.name?) : outerText (vars.get? x) = texts name error link x := by
  have hname : vars.get? "username" = some (.text name) := by cases h <;> assumption
  rcases name_of_mem_pieces hp hx with rfl | ⟨rfl, rfl⟩ | ⟨rfl, rfl⟩
  · rw [hname]
    rfl
  · cases h with
    | formWithError _ _ herror _ => rw [herror]; rfl
  · cases h with
    | mail _ hlink => rw [hlink]; rfl

/-- **A template is rendered as the screen that its variables call for.** -/
theorem render_of_given (h : Given vars s name error link) :
    render s.template vars = .ok (s.page name error link) := by
  have hfind : find? s.template = some s.parts := by cases s <;> rfl
  have hfill : fill (fun x => outerText (vars.get? x)) s.pieces =
      fill (texts name error link) s.pieces :=
    fill_congr fun p hp x hx => texts_of_given h hp hx
  rw [render, hfind]
  dsimp only
  rw [chars_eq_fill, pieces_of_given h, hfill, page]

/-! ### Names on screens -/

/-- Only the mail shows anything verbatim, and that is the link. -/
theorem verbatim_mem_pieces {x : String} (h : .verbatim x ∈ s.pieces) :
    x = "reset_link" ∧ s = .mail := by
  have hall : ∀ p ∈ s.pieces, ∀ x ∈ p.name?,
      p = .escaped x ∨ (p = .verbatim "reset_link" ∧ s = .mail) := by
    cases s <;> decide
  rcases hall _ h x rfl with hescaped | ⟨hlink, hmail⟩
  · cases hescaped
  · exact ⟨Piece.verbatim.inj hlink, hmail⟩

theorem tags_eq (s : Screen) (name error link : String) : tags (s.page name error link) =
    tagsFrom .text (fill (texts name error link) s.pieces) := by
  rw [tags, page, String.toList_ofList]

/-- In no screen a variable stands inside a tag, but for the link of the mail. -/
theorem steady_pieces (s : Screen) : steady .text s.pieces := by
  have hall : ∀ s ∈ [mail, changed, form, formWithError], steady .text s.pieces := by
    decide +kernel
  exact hall s (by cases s <;> decide)

/-- **The tags of a screen are the same for every name and every error.** -/
theorem tags_page (name error name' error' : String) (hlink : s = .mail → link = link') :
    tags (s.page name error link) = tags (s.page name' error' link') := by
  rw [tags_eq, tags_eq]
  refine tagsFrom_fill s.steady_pieces fun x hx => ?_
  obtain ⟨rfl, hmail⟩ := verbatim_mem_pieces hx
  exact hlink hmail

/-- What a screen shows besides the name. -/
def besides : Screen → List Piece
  | .mail => [.verbatim "reset_link"]
  | .changed | .form => []
  | .formWithError => [.escaped "error"]

/-- **A screen is fixed texts around the name and what it shows besides**; the text behind the name
has a tag. -/
theorem exists_pieces_eq (s : Screen) : ∃ pre t mid post,
    (∀ p ∈ pre ++ mid ++ post, p.name? = none) ∧ '<' ∈ t.toList ∧
      s.pieces = pre ++ .escaped "username" :: .fixed t :: (mid ++ (s.besides ++ post)) := by
  cases s with
  | mail =>
    exact ⟨mail.pieces.take 2, _, (mail.pieces.drop 4).take 2, mail.pieces.drop 7, by decide,
      by decide, rfl⟩
  | changed => exact ⟨changed.pieces.take 5, _, changed.pieces.drop 7, [], by decide, by decide, rfl⟩
  | form => exact ⟨form.pieces.take 4, _, form.pieces.drop 6, [], by decide, by decide, rfl⟩
  | formWithError =>
    exact ⟨formWithError.pieces.take 4, _, (formWithError.pieces.drop 6).take 1,
      formWithError.pieces.drop 8, by decide, by decide, rfl⟩

/-- What stands in the second place of a screen: the link as it is, the escaped error, or nothing. -/
def inserted (s : Screen) (error link : String) : String :=
  match s with
  | .mail => link
  | .changed | .form => ""
  | .formWithError => Text.Markup.escape error

/-- **The texts around a name do not depend on it.** -/
theorem exists_page_eq (s : Screen) : ∃ front between back : String, ∀ name error link,
    s.page name error link = front ++ Text.Markup.escape name ++ between ++ s.inserted error link ++
      back := by
  obtain ⟨pre, t, mid, post, hfixed, -, hpieces⟩ := s.exists_pieces_eq
  have hfill (ps : List Piece) (hps : ∀ p ∈ ps, p ∈ pre ++ mid ++ post) (name error link : String) :
      fill (texts name error link) ps = fill (texts "" "" "") ps :=
    fill_eq_of_fixed fun p hp => hfixed p (hps p hp)
  refine ⟨String.ofList (fill (texts "" "" "") pre),
    String.ofList (t.toList ++ fill (texts "" "" "") mid),
    String.ofList (fill (texts "" "" "") post), fun name error link => ?_⟩
  have hbesides : fill (texts name error link) s.besides = (s.inserted error link).toList := by
    cases s with
    | mail => exact List.append_nil _
    | changed => rfl
    | form => rfl
    | formWithError =>
      rw [inserted, Text.Markup.escape, String.toList_ofList]
      exact List.append_nil _
  have hname : Piece.chars (texts name error link) (.escaped "username") =
      (Text.Markup.escape name).toList := by
    rw [Text.Markup.escape, String.toList_ofList]
    rfl
  rw [page, hpieces, ← String.toList_inj]
  simp only [fill_append, fill_cons, hbesides, hname, String.toList_append, String.toList_ofList,
    List.append_assoc, hfill pre (by simp +contextual), hfill mid (by simp +contextual),
    hfill post (by simp +contextual)]
  rfl

/-- **A screen tells the name.** -/
theorem name_of_page (h : s.page name error link = s.page name' error' link') : name = name' := by
  obtain ⟨pre, t, mid, post, hfixed, ht, hpieces⟩ := s.exists_pieces_eq
  have hpre : ∀ p ∈ pre, p.name? = none := fun p hp => hfixed p (by simp [hp])
  have hfill := String.ofList_inj.1 h
  rw [hpieces] at hfill
  exact shown_of_fill hpre ht hfill

/-- The states of the page. -/
def states : List Screen := [changed, form, formWithError]

theorem mem_states (hs : s ≠ .mail) : s ∈ states := by
  cases s with
  | mail => exact absurd rfl hs
  | _ => decide

/-- The states of the page differ in their tags. -/
theorem tags_states : ∀ s ∈ states, ∀ s' ∈ states, s ≠ s' →
    tagsFrom .text (fill (texts "" "" "") s.pieces) ≠
      tagsFrom .text (fill (texts "" "" "") s'.pieces) := by
  decide +kernel

/-- **A page tells its state.** -/
theorem screen_of_page (htemplate : s.template = s'.template)
    (h : s.page name error link = s'.page name' error' link') : s = s' := by
  by_cases hs : s = .mail
  · subst hs
    cases s' with
    | mail => rfl
    | _ => exact absurd htemplate (by decide)
  by_cases hs' : s' = .mail
  · subst hs'
    cases s with
    | mail => rfl
    | _ => exact absurd htemplate (by decide)
  refine not_imp_not.1 (tags_states s (mem_states hs) s' (mem_states hs')) ?_
  rw [← tags_eq, ← tags_eq]
  calc tags (s.page "" "" "") = tags (s.page name error link) :=
        tags_page _ _ _ _ fun heq => absurd heq hs
    _ = tags (s'.page name' error' link') := by rw [h]
    _ = tags (s'.page "" "" "") := tags_page _ _ _ _ fun heq => absurd heq hs'

end Screen

/-- **The text of a user stays text.**  The mail and the page in each of its states are fixed texts
around the escaped name and, in the mail, the link as it is, or the escaped error where there is one.
The tags are the same for every name and every error, and a page tells its state and its name.  An
escaped text holds no mark of markup but the ampersands of its entities, and undoing these gives the
text back. -/
theorem user_text_stays_text :
    (∀ s : Screen, ∃ front between back : String, ∀ (vars : Value) (name error link : String),
      s.Given vars name error link → render s.template vars =
        .ok (front ++ Text.Markup.escape name ++ between ++ s.inserted error link ++ back)) ∧
    (∀ (s : Screen) (vars vars' : Value) (name error name' error' link page page' : String),
      s.Given vars name error link → s.Given vars' name' error' link →
      render s.template vars = .ok page → render s.template vars' = .ok page' →
      tags page = tags page') ∧
    (∀ (s s' : Screen) (vars vars' : Value) (name error link name' error' link' page : String),
      s.template = s'.template →
      s.Given vars name error link → s'.Given vars' name' error' link' →
      render s.template vars = .ok page → render s'.template vars' = .ok page →
      s = s' ∧ name = name') ∧
    ∀ t : String,
      (∀ c ∈ (Text.Markup.escape t).toList, c ≠ '<' ∧ c ≠ '>' ∧ c ≠ '"' ∧ c ≠ '\'' ∧ c ≠ '/') ∧
      (∀ before behind, (Text.Markup.escape t).toList = before ++ '&' :: behind →
        ∃ m ∈ entities, m.2.toList <+: '&' :: behind) ∧
      unescape (Text.Markup.escape t).toList = t.toList := by
  have hpage {s : Screen} {vars : Value} {name error link page : String}
      (h : s.Given vars name error link) (hrender : render s.template vars = .ok page) :
      page = s.page name error link :=
    Except.ok.inj (hrender.symm.trans (Screen.render_of_given h))
  refine ⟨?_, ?_, ?_, ?_⟩
  · intro s
    obtain ⟨front, between, back, hshape⟩ := s.exists_page_eq
    refine ⟨front, between, back, fun vars name error link h => ?_⟩
    rw [Screen.render_of_given h, hshape]
  · intro s vars vars' name error name' error' link page page' h h' hrender hrender'
    rw [hpage h hrender, hpage h' hrender']
    exact Screen.tags_page name error name' error' fun _ => rfl
  · intro s s' vars vars' name error link name' error' link' page htemplate h h' hrender hrender'
    have hsame := (hpage h hrender).symm.trans (hpage h' hrender')
    obtain rfl := Screen.screen_of_page htemplate hsame
    exact ⟨rfl, Screen.name_of_page hsame⟩
  · intro t
    rw [Text.Markup.escape, String.toList_ofList]
    refine ⟨fun c hc => Text.Markup.isText_of_mem_escapeChars hc, ?_, ?_⟩
    · intro before behind h
      exact Text.Markup.entity_of_ampersand h
    · exact Text.Markup.unescape_escapeChars t.toList

/-- A name with markup and an error that is an entity, on the page with the form. -/
def boldVars : Value :=
  .object [("username", .text "<b>Ann</b>"), ("changed", .bool false), ("error", .text "&lt;")]

/-- A name without markup, and another error. -/
def plainVars : Value :=
  .object [("username", .text "Ann"), ("changed", .bool false), ("error", .text "x")]

theorem bold_name_shown_as_text : ∃ front between back page page',
    render passwordPageName boldVars = .ok page ∧ render passwordPageName plainVars = .ok page' ∧
    page = front ++ "&lt;b&gt;Ann&lt;&#x2f;b&gt;" ++ between ++ "&amp;lt;" ++ back ∧
    tags page = tags page' ∧ page ≠ page' ∧
    (∃ m ∈ entities, m.2.toList <+: "&amp;lt;".toList) := by
  obtain ⟨hshape, htags, htold, hescape⟩ := user_text_stays_text
  have hbold : Screen.formWithError.Given boldVars "<b>Ann</b>" "&lt;" "" :=
    .formWithError rfl rfl rfl (by decide)
  have hplain : Screen.formWithError.Given plainVars "Ann" "x" "" :=
    .formWithError rfl rfl rfl (by decide)
  have hrender := Screen.render_of_given hbold
  have hrender' := Screen.render_of_given hplain
  have hname : Text.Markup.escape "<b>Ann</b>" = "&lt;b&gt;Ann&lt;&#x2f;b&gt;" := by
    decide +kernel
  have herror : Screen.formWithError.inserted "&lt;" "" = "&amp;lt;" := by decide
  obtain ⟨front, between, back, hfilled⟩ := hshape .formWithError
  refine ⟨front, between, back, _, _, hrender, hrender', ?_, ?_, ?_, ?_⟩
  · rw [← hname, ← herror]
    exact Except.ok.inj (hrender.symm.trans (hfilled _ _ _ _ hbold))
  · exact htags _ _ _ _ _ _ _ _ _ _ hbold hplain hrender hrender'
  · intro heq
    have hsame := hrender'.trans (congrArg Except.ok heq.symm)
    obtain ⟨-, hnames⟩ := htold .formWithError .formWithError boldVars plainVars "<b>Ann</b>" "&lt;"
      "" "Ann" "x" "" _ rfl hbold hplain hrender hsame
    exact absurd hnames (by decide)
  · exact (hescape "&lt;").2.1 [] "amp;lt;".toList (by decide)

end Template
end SoilWatch
