/-
# Following a reset link

The token of a reset link goes through many hands: it is written in hexadecimal and in base 64, put
behind the base of the link, the link into a mail, and the mail is markup.  Whoever follows the link
sends its query, which is taken apart, and the token is read from base 64 again.  None of them
alters it: the digits of base 64 and its padding mean nothing in a query behind the first equals
sign, and the link is the one value that the mail shows verbatim.

So a link that was mailed opens the page of its user (`reset_link_works`), as long as the base has no
query or fragment of its own.
-/

import Mathlib.Data.Bool.AllAny
import Mathlib.Data.List.TakeWhile
import SoilWatch.Proofs.Http.PasswordForm
import SoilWatch.Proofs.Text.Form

namespace SoilWatch

open Time (Instant)
open SoilWatch.Flow

/-! ### Templates -/

/-- Whether a text stands in another as it is. -/
def Shows (whole text : String) : Prop :=
  ∃ before behind, whole = before ++ text ++ behind

/-- Characters that stand among others in a row are shown. -/
theorem shows_of_isInfix {text : String} {cs : List Char} (h : text.toList <:+: cs) :
    Shows (String.ofList cs) text := by
  obtain ⟨before, behind, rfl⟩ := h
  refine ⟨String.ofList before, String.ofList behind, ?_⟩
  rw [String.ofList_append, String.ofList_append, String.ofList_toList]

namespace Template

variable {env : String → Option Json.Value} {ps qs : List Part}

/-- A template is rendered part after part. -/
theorem chars_append : chars env (ps ++ qs) = chars env ps ++ chars env qs := by
  induction ps with
  | nil => rw [chars, List.nil_append, List.nil_append]
  | cons p ps ih => rw [List.cons_append, chars, chars, ih, List.append_assoc]

/-- What a part of a template shows is shown by the whole. -/
theorem partChars_isInfix {p : Part} (h : p ∈ ps) : partChars env p <:+: chars env ps := by
  obtain ⟨before, behind, rfl⟩ := List.append_of_mem h
  refine ⟨chars env before, chars env behind, ?_⟩
  rw [chars_append, chars, List.append_assoc]

/-- **The mail shows the link as it is,** whatever the name of the user. -/
theorem render_resetMail (name link : String) : ∃ body,
    render resetMailName (.object [("username", .text name), ("reset_link", .text link)]) =
      .ok body ∧ Shows body link := by
  let vars : Json.Value := .object [("username", .text name), ("reset_link", .text link)]
  have hpart : Part.verbatim "reset_link" ∈ resetMail := by simp [resetMail]
  have hshown : partChars vars.get? (.verbatim "reset_link") = link.toList := rfl
  exact ⟨_, rfl, shows_of_isInfix (hshown ▸ partChars_isInfix hpart)⟩

/-- **The page on which a password is typed is for the user whose name it was given.** -/
theorem render_passwordPage (name : String) : ∃ page,
    render passwordPageName (.object [("username", .text name), ("changed", .bool false),
      ("error", .null)]) = .ok page ∧
    Shows page ("Change password for " ++ Text.Markup.escape name) := by
  let vars : Json.Value := .object [("username", .text name), ("changed", .bool false),
    ("error", .null)]
  have hpart : passwordPage[3] ∈ passwordPage := List.getElem_mem _
  obtain ⟨behind, hshown⟩ : ∃ behind, partChars vars.get? passwordPage[3] =
      "\n      <h2>Change password for ".toList ++
        (Text.Markup.escapeChars name.toList ++ behind) := ⟨_, rfl⟩
  refine ⟨_, rfl, shows_of_isInfix (List.IsInfix.trans ?_ (partChars_isInfix hpart))⟩
  rw [hshown, String.toList_append, Text.Markup.escape, String.toList_ofList]
  exact ⟨"\n      <h2>".toList, behind, by simp⟩

end Template

/-! ### The link -/

namespace Service
namespace Accounts

variable {c : Char} {token : String}

/-- **No character of a mailed token means anything in a query,** but for the equals signs of its
padding. -/
theorem clear_of_mem_encodeToken (h : c ∈ (encodeToken token).toList) :
    c.toNat < 0x80 ∧ c.toNat ≠ 0x26 ∧ c.toNat ≠ 0x25 ∧ c.toNat ≠ 0x2B ∧ c ≠ '#' ∧ c ≠ ':' := by
  have hdigits : ∀ n < 64, ∀ d, d = Text.Base64.digit .urlSafe n →
      d.toNat < 0x80 ∧ d.toNat ≠ 0x26 ∧ d.toNat ≠ 0x25 ∧ d.toNat ≠ 0x2B ∧ d ≠ '#' ∧ d ≠ ':' := by
    simp only [forall_eq]
    decide
  rw [encodeToken, Text.Base64.encode, String.toList_ofList] at h
  rcases Text.Base64.digit_or_padding h with ⟨n, hn, hc⟩ | rfl
  · exact hdigits n hn c hc
  · decide

end Accounts
end Service

namespace Http

open Service (Reachable)
open Service.Accounts

/-- The part of a link behind its first question mark. -/
def linkQuery (link : String) : String :=
  String.ofList ((link.toList.dropWhile (· ≠ '?')).drop 1)

/-- The query of a reset link. -/
def tokenQuery (encoded : String) : String :=
  "token=" ++ encoded

variable {base token : String}

theorem toList_resetLink (base token : String) : (resetLink base token).toList =
    base.toList ++ '?' :: (tokenQuery (encodeToken token)).toList := by
  simp [resetLink, tokenQuery, String.toList_append]

/-- The query of a reset link is its token with the name in front, if the base has none. -/
theorem linkQuery_resetLink (hbase : '?' ∉ base.toList) :
    linkQuery (resetLink base token) = tokenQuery (encodeToken token) := by
  have hbefore : ∀ c ∈ base.toList, decide (c ≠ '?') = true := fun c hc =>
    decide_eq_true fun h => hbase (h ▸ hc)
  rw [linkQuery, toList_resetLink, List.dropWhile_append_of_pos hbefore,
    List.dropWhile_cons_of_neg (by simp), List.drop_one, List.tail_cons, String.ofList_toList]

/-- **The token of a link is read as it was mailed,** padding included. -/
theorem readQuery_tokenQuery (token : String) :
    LinkQuery.format.readQuery (Text.Utf8.encode (tokenQuery (encodeToken token))) =
      .ok ⟨encodeToken token⟩ := by
  have hname : Text.Form.Encodes (Text.Utf8.encode "token") ['t', 'o', 'k', 'e', 'n'] :=
    show Text.Form.Encodes (['t', 'o', 'k', 'e', 'n'].map Text.Form.octet) _ from
      Text.Form.encodes_plain (by simp [Text.Form.isPlain])
  have hchars : tokenQuery (encodeToken token) =
      String.ofList (['t', 'o', 'k', 'e', 'n'] ++ '=' :: (encodeToken token).toList) := by
    rw [tokenQuery, ← String.ofList_toList (s := "token=" ++ encodeToken token),
      String.toList_append]
    rfl
  have hascii : ∀ c ∈ ['t', 'o', 'k', 'e', 'n'] ++ '=' :: (encodeToken token).toList,
      c.toNat < 0x80 := by
    refine List.forall_mem_append.2 ⟨by simp, List.forall_mem_cons.2 ⟨by decide, fun c hc => ?_⟩⟩
    exact (clear_of_mem_encodeToken hc).1
  rw [Wire.Format.readQuery, hchars, Text.Form.encode_ascii hascii,
    Text.Form.pairs_of_cut hname fun c hc => ⟨(clear_of_mem_encodeToken hc).1,
      (clear_of_mem_encodeToken hc).2.1⟩,
    Text.Form.component_of_bare fun c hc => ⟨(clear_of_mem_encodeToken hc).1,
      (clear_of_mem_encodeToken hc).2.2.1, (clear_of_mem_encodeToken hc).2.2.2.1⟩,
    String.ofList_toList]
  rfl

/-- The request of who opens a link. -/
def opening (link : String) : Request :=
  ⟨"GET", link, [], []⟩

/-- Where a link is cut in front of its question mark at the latest, the query stays. -/
theorem dropWhile_mark {p : Char → Bool} (hp : p '?' = false) (before behind : List Char) :
    ∃ path, path <:+ before ∧
      (before ++ '?' :: behind).dropWhile p = path ++ '?' :: behind := by
  rw [List.dropWhile_append]
  split_ifs
  · exact ⟨[], List.nil_suffix, by rw [List.dropWhile_cons_of_neg (by simp [hp])]; rfl⟩
  · exact ⟨before.dropWhile p, List.dropWhile_suffix _, rfl⟩

/-- **A link keeps its query when the scheme and the host are left out,** if these lie in the base:
no question mark and no hash stand in front of the query, and no colon in it. -/
theorem originForm_append (before : List Char) {behind : List Char} (hbehind : ':' ∉ behind) :
    ∃ path, path <:+ before ∧
      Request.originForm (before ++ '?' :: behind) = path ++ '?' :: behind := by
  have hwhole : ∃ path, path <:+ before ∧ before ++ '?' :: behind = path ++ '?' :: behind :=
    ⟨before, List.suffix_refl _, rfl⟩
  unfold Request.originForm
  split
  · exact hwhole
  split
  case h_2 => exact hwhole
  rename_i rest hscheme
  rw [List.dropWhile_append] at hscheme
  split_ifs at hscheme with hcolon
  · -- A colon that is not in front of the question mark would be behind it.
    have hnone : ∀ c ∈ '?' :: behind, decide (c ≠ ':') = true := by
      refine List.forall_mem_cons.2 ⟨by decide, fun c hc => decide_eq_true fun h => ?_⟩
      exact hbehind (h ▸ hc)
    rw [List.dropWhile_eq_nil_iff.2 hnone] at hscheme
    cases hscheme
  · have hsuffix := List.dropWhile_suffix (l := before) (· ≠ ':')
    rcases hd : before.dropWhile (· ≠ ':') with _ | ⟨a, _ | ⟨b, _ | ⟨c, host⟩⟩⟩ <;>
      rw [hd] at hscheme
    · rw [hd] at hcolon
      exact absurd rfl hcolon
    · simp at hscheme
    · simp at hscheme
    · obtain ⟨-, -, -, rfl⟩ : a = ':' ∧ b = '/' ∧ c = '/' ∧ host ++ '?' :: behind = rest := by
        simpa using hscheme
      obtain ⟨path, hpath, heq⟩ := dropWhile_mark
        (p := fun c => c ≠ '/' ∧ c ≠ '?' ∧ c ≠ '#') (by decide) host behind
      refine ⟨path, hpath.trans (.trans ?_ (hd ▸ hsuffix)), heq⟩
      exact ⟨[a, b, c], rfl⟩

/-- **The query of who opens a reset link** is that of the link. -/
theorem query_opening (hbase : ∀ c ∈ base.toList, c ≠ '?' ∧ c ≠ '#') (token : String) :
    (opening (resetLink base token)).query =
      Text.Utf8.encode (tokenQuery (encodeToken token)) := by
  have hplain : ∀ c ∈ (tokenQuery (encodeToken token)).toList, c ≠ '#' ∧ c ≠ ':' := by
    rw [tokenQuery, String.toList_append]
    refine List.forall_mem_append.2 ⟨List.all_iff_forall_prop.1 (by decide), fun c hc => ?_⟩
    exact (clear_of_mem_encodeToken hc).2.2.2.2
  have hcolon : ':' ∉ (tokenQuery (encodeToken token)).toList := fun h => (hplain _ h).2 rfl
  obtain ⟨path, hpath, horigin⟩ := originForm_append base.toList hcolon
  have hpath : ∀ c ∈ path, decide (c ≠ '?' ∧ c ≠ '#') = true := fun c hc =>
    decide_eq_true (hbase c (hpath.subset hc))
  have hwhole : (tokenQuery (encodeToken token)).toList.takeWhile (· ≠ '#') =
      (tokenQuery (encodeToken token)).toList :=
    List.takeWhile_eq_self_iff.2 fun c hc => decide_eq_true (hplain c hc).1
  rw [Request.query, opening, toList_resetLink, horigin, List.dropWhile_append_of_pos hpath,
    List.dropWhile_cons_of_neg (by simp)]
  show Text.Utf8.encode (String.ofList (List.takeWhile _ _)) = _
  rw [hwhole, String.ofList_toList]

/-! ### The page behind the link -/

/-- A request follows a link: it asks for the page with the query of the link. -/
structure Follows (link : String) (r : Request) : Prop where
  method : r.method = "GET"
  route : r.route? = some .passwordPage
  query : r.query = Text.Utf8.encode (linkQuery link)

/-- **A link works until its token expires:** its query is read as the token that was mailed, the
token is accepted, and the page for the user is what is found behind it. -/
structure Works (setup : Setup) (s : System) (user : UserRow) (encoded link : String)
    (expiresAt : Instant) : Prop where
  opened : (opening link).query = Text.Utf8.encode (linkQuery link)
  read : LinkQuery.format.readQuery (Text.Utf8.encode (linkQuery link)) = .ok ⟨encoded⟩
  accepted : ∀ now, now ≤ expiresAt → (validateReset now encoded).run s = (.ok user.id, s)
  followed : Follows link (opening ("/pw/change?" ++ linkQuery link))
  shown : ∀ cx r, cx.opened ≤ expiresAt → Follows link r → ∃ answer page,
    (respond setup cx r).run s = (.ok answer, s) ∧ answer.status = 200 ∧
      answer.body = .text page ∧ Shows page ("Change password for " ++ Text.Markup.escape user.name)

/-- A link is followed by a request for the page with its query. -/
theorem follows_page {link token : String}
    (hquery : linkQuery link = tokenQuery (encodeToken token)) :
    Follows link (opening ("/pw/change?" ++ linkQuery link)) := by
  have htarget : "/pw/change?" ++ linkQuery link = resetLink "/pw/change" token := by
    rw [hquery, ← String.toList_inj, toList_resetLink, String.toList_append]
    rfl
  have hpath : (opening (resetLink "/pw/change" token)).path = "/pw/change".toList := by
    rw [Request.path, opening, toList_resetLink]
    rfl
  rw [htarget]
  refine ⟨rfl, ?_, ?_⟩
  · rw [Request.route?, Request.segments?, hpath]
    rfl
  · rw [hquery, query_opening (List.all_iff_forall_prop.1 (by decide))]

section Following

variable {setup : Setup} {cx : Context} {r : Request} {s : System} {user : UserRow}

/-- A request for the page is served by its handler. -/
theorem serve_getPasswordPage (hmethod : r.method = "GET") (hroute : r.route? = some .passwordPage) :
    serve setup cx r = getPasswordPage setup cx r := by
  unfold serve
  rw [show r.segments?.bind Route.ofSegments? = some .passwordPage from hroute, hmethod]
  rfl

/-- **The page behind a good token is for its user.** -/
theorem page_of_goodFor (hpages : setup.renderer = Template.render) (hs : s.store.Consistent)
    (hn : s.store.Numbered) {encoded : String} (hmethod : r.method = "GET")
    (hroute : r.route? = some .passwordPage)
    (hread : LinkQuery.format.readQuery r.query = .ok ⟨encoded⟩)
    (hgood : GoodFor s.store cx.opened encoded user) : ∃ answer page,
    (respond setup cx r).run s = (.ok answer, s) ∧ answer.status = 200 ∧
      answer.body = .text page ∧
      Shows page ("Change password for " ++ Text.Markup.escape user.name) := by
  obtain ⟨page, hrender, hshows⟩ := Template.render_passwordPage user.name
  have hpage : passwordPage setup 200 user.user.name false none = pure (.ofPage 200 page) := by
    have hvars : Template.render Template.passwordPageName (.object
        [("username", .text user.user.name), ("changed", .bool false),
          ("error", Wire.optionValue .text none)]) = .ok page := hrender
    unfold passwordPage
    rw [hpages]
    dsimp only
    rw [hvars]
  have hrun : (getPasswordPage setup cx r).run s = (.ok (.ofPage 200 page), s) := by
    unfold getPasswordPage withPart readQuery
    rw [hread]
    dsimp only
    rw [run_bind, resetOwner_of_goodFor hs hn hgood]
    dsimp only
    rw [hpage]
    rfl
  refine ⟨finish r (.ofPage 200 page), page, ?_, rfl, ?_, hshows⟩
  · rw [run_respond, serve_getPasswordPage hmethod hroute, hrun]
    rfl
  · rw [finish, if_neg (by rw [hmethod]; decide)]
    rfl

end Following

/-! ### The mail -/

/-- The state behind a reset link that was sent can be reached, too. -/
theorem reachable_of_forgotPassword {setup : Setup} {random : Octets} {now : Instant}
    {email : String} {s s' : System} (hs : Reachable s)
    (h : (forgotPassword setup random now email).run s = (.ok (), s')) : Reachable s' := by
  obtain ⟨user, row, body, -, hreplace, -, -, hs'⟩ := forgotPassword_eq_ok h
  obtain ⟨run, hrun⟩ := hs.store
  obtain ⟨writes, hwrites⟩ := hs.series
  refine ⟨⟨run ++ [.call (.replaceReset user.id (tokenOf random)
    (now.addSeconds setup.auth.resetTtl))], ?_⟩, ⟨writes, ?_⟩⟩
  · rw [Store.after_append, ← hrun]
    exact (congrArg Prod.snd hreplace).symm
  · rw [hs', ← hwrites, Service.mailing]
    split <;> rfl

/-- **A reset link that was mailed works.**  In every state that can be reached, for every user, every
base without a query or a fragment and all random octets: if the call ends well, one mail was handed
over, it goes to the user and shows the link as it is, and the link works until the token that was
stored for the user expires, which is later than now if tokens last. -/
theorem mailed_reset_link_works (setup : Setup) (hpages : setup.renderer = Template.render)
    (hbase : ∀ c ∈ setup.auth.resetLinkBase.toList, c ≠ '?' ∧ c ≠ '#') (s : System)
    (hs : Reachable s) (user : UserRow) (huser : user ∈ s.store.users) (random : Octets)
    (now : Instant) (s' : System)
    (hok : (forgotPassword setup random now user.email).run s = (.ok (), s')) :
    ∃ encoded body, ∃ row ∈ s'.store.resets,
      setup.mailer.refuse ⟨user.email, resetSubject, body⟩ = none ∧
      s'.outbox = (if setup.mailer.keeps then s.outbox ++ [⟨user.email, resetSubject, body⟩]
        else s.outbox) ∧
      Shows body (setup.auth.resetLinkBase ++ "?token=" ++ encoded) ∧
      row.userId = user.id ∧ row.token = tokenOf random ∧
      Works setup s' user encoded (setup.auth.resetLinkBase ++ "?token=" ++ encoded)
        row.expiresAt ∧
      (0 < setup.auth.resetTtl → now.second < Time.lastSecond → now < row.expiresAt) := by
  have hs'reach := reachable_of_forgotPassword hs hok
  have hconsistent := hs'reach.sound.consistent
  obtain ⟨found, row, body, hfound, hreplace, hbody, hsent, hs'⟩ := forgotPassword_eq_ok hok
  obtain rfl : user = found := by
    have hunique : s.store.userByEmail? user.email = some user :=
      hs.sound.consistent.emails.find?_eq_some huser rfl
    exact Option.some.inj (hunique.symm.trans hfound)
  obtain ⟨-, -, -, -, hrow, hstore⟩ := Store.replaceReset_eq_ok.1 hreplace
  have hmem : row ∈ s'.store.resets := by
    rw [hstore, hrow]
    exact List.mem_append_right _ (List.mem_singleton_self _)
  have hknown : user ∈ s'.store.users := by
    rw [hstore]
    exact huser
  have hid : row.userId = user.id := by rw [hrow]; rfl
  have htoken : row.token = tokenOf random := by rw [hrow]; rfl
  have hexpires : row.expiresAt = now.addSeconds setup.auth.resetTtl := by rw [hrow]; rfl
  have hgood {t : Instant} (ht : t ≤ row.expiresAt) :
      GoodFor s'.store t (encodeToken (tokenOf random)) user :=
    ⟨hknown, row, hmem, hid, by rw [htoken], ht⟩
  have hquery : linkQuery (resetLink setup.auth.resetLinkBase (tokenOf random)) =
      tokenQuery (encodeToken (tokenOf random)) := linkQuery_resetLink fun h => (hbase _ h).1 rfl
  obtain ⟨body', hbody', hshows⟩ := Template.render_resetMail user.name
    (resetLink setup.auth.resetLinkBase (tokenOf random))
  rw [hpages, hbody'] at hbody
  obtain rfl := Except.ok.inj hbody
  refine ⟨encodeToken (tokenOf random), body', row, hmem, hsent, ?_, hshows, hid, htoken, ?_, ?_⟩
  · rw [hs', Service.mailing]
    split <;> rfl
  · show Works setup s' user _ (resetLink setup.auth.resetLinkBase (tokenOf random)) _
    constructor
    case opened => rw [hquery, query_opening hbase]
    case read => rw [hquery, readQuery_tokenQuery]
    case accepted =>
      intro t ht
      rw [run_validateReset_eq, validateReset_of_goodFor hconsistent (hgood ht)]
    case followed => exact follows_page hquery
    case shown =>
      intro cx r ht hr
      refine page_of_goodFor hpages hconsistent hs'reach.numbered hr.method hr.route ?_ (hgood ht)
      rw [hr.query, hquery, readQuery_tokenQuery]
  · intro hlasts hearly
    rw [hexpires]
    exact Time.Instant.lt_addSeconds hlasts hearly

/-- Ann has signed up. -/
def annAlone : System :=
  ⟨Store.empty.after [.call (.createUser "ann@example.com" "hash" "Ann" .epoch)], .empty, []⟩

/-- Ann is mailed a link that works. -/
theorem anns_link_works : ∃ encoded body,
    ((forgotPassword .standard (List.replicate 32 0xFF) .epoch "ann@example.com").run
        annAlone).2.outbox = [⟨"ann@example.com", resetSubject, body⟩] ∧
      Shows body (AuthSettings.default.resetLinkBase ++ "?token=" ++ encoded) := by
  obtain ⟨encoded, body, -, -, -, houtbox, hshows, -⟩ := mailed_reset_link_works .standard rfl
    (List.all_iff_forall_prop.1 (by decide)) annAlone ⟨⟨_, rfl⟩, ⟨[], rfl⟩⟩
    ⟨1, "ann@example.com", "Ann", "hash", .epoch, none⟩ (List.mem_singleton_self _)
    (List.replicate 32 0xFF) .epoch _ (Prod.ext rfl rfl)
  exact ⟨encoded, body, houtbox, hshows⟩

end Http
end SoilWatch
