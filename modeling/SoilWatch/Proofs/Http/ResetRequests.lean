/-
# Asking for a reset link

Who asks for a reset link is not told whether the email is known, as long as mails go out: an email
that nobody has is answered like one whose mail was sent.  A mail goes only to a known email, though,
and one that cannot be rendered or is refused is answered as a failure of the machinery.  So two
emails are answered alike if and only if the mail fails for both of them or for neither.
-/

import Mathlib.Data.List.TakeWhile
import SoilWatch.Proofs.Http.Traces
import SoilWatch.Proofs.Isolation
import SoilWatch.Proofs.Text.Form

namespace SoilWatch

open Time (Instant)

namespace Store

/-- Whether the store takes a new reset token: it refuses neither to insert nor to delete one, and
nobody has been given this one before. -/
structure TakesReset (s : Store) (token : String) : Prop where
  inserts : (.resets, .insert) ∉ s.forbidden
  deletes : (.resets, .delete) ∉ s.forbidden
  fresh : s.resetByToken? token = none

/-- A store that takes a new reset token stores it for any of its users. -/
theorem TakesReset.replaceReset {s : Store} {token email : String} {user : UserRow}
    (h : s.TakesReset token) (huser : s.userByEmail? email = some user) (expiresAt : Instant) :
    s.replaceReset user.id token expiresAt =
      (.ok (s.newReset user.id token expiresAt), s.putReset user.id token expiresAt) := by
  have hfresh : (s.dropResets user.id).resetByToken? token = none := by
    refine List.find?_eq_none.2 fun row hrow => ?_
    exact List.find?_eq_none.1 h.fresh row (List.mem_filter.1 hrow).1
  have hknown : (s.userById? user.id).isSome :=
    List.find?_isSome.2 ⟨user, List.mem_of_find?_eq_some huser, by simp⟩
  exact replaceReset_eq_ok.2 ⟨.inr h.deletes, h.inserts, hfresh, hknown, rfl, rfl⟩

end Store

namespace Service
namespace Accounts

open SoilWatch.Flow

variable {setup : Setup} {s : System} {random : Octets} {email : String}

/-- Why the mail with a reset link does not reach a user, if it does not. -/
def mailFailure? (setup : Setup) (random : Octets) (user : UserRow) : Option Error :=
  let link := resetLink setup.auth.resetLinkBase (tokenOf random)
  let vars := .object [("username", .text user.name), ("reset_link", .text link)]
  match setup.renderer Template.resetMailName vars with
  | .error cause => some (.template cause)
  | .ok body => (setup.mailer.refuse ⟨user.email, resetSubject, body⟩).map .email

/-- Why the mail to an email fails; none is sent to an email that nobody has. -/
def resetFailure? (setup : Setup) (random : Octets) (store : Store) (email : String) :
    Option Error :=
  (store.userByEmail? email).bind (mailFailure? setup random)

/-- A mail fails because it cannot be rendered or because it is refused. -/
theorem mailFailure?_eq_some {user : UserRow} {e : Error}
    (h : mailFailure? setup random user = some e) :
    (∃ cause, e = .template cause) ∨ ∃ reason, e = .email reason := by
  unfold mailFailure? at h
  dsimp only at h
  split at h
  · exact .inl ⟨_, (Option.some.inj h).symm⟩
  · obtain ⟨reason, -, he⟩ := Option.map_eq_some_iff.1 h
    exact .inr ⟨reason, he.symm⟩

/-- **What becomes of a forgotten password:** nobody has the email, the mail fails, or it is sent. -/
theorem run_forgotPassword_fst (now : Instant) (hs : s.store.TakesReset (tokenOf random)) :
    ((forgotPassword setup random now email).run s).1 =
      match s.store.userByEmail? email with
      | none => .error .noUser
      | some user => ((mailFailure? setup random user).elim (.ok ()) .error) := by
  unfold forgotPassword mailFailure?
  rw [run_bind, lookStore, run_look]
  dsimp only
  cases huser : s.store.userByEmail? email with
  | none => rfl
  | some user =>
    dsimp only
    rw [run_bind, run_onStore, hs.replaceReset huser]
    dsimp only [Except.mapError]
    cases setup.renderer Template.resetMailName (.object [("username", .text user.name),
        ("reset_link", .text (resetLink setup.auth.resetLinkBase (tokenOf random)))]) with
    | error cause => rfl
    | ok body =>
      dsimp only
      unfold send
      cases setup.mailer.refuse ⟨user.email, resetSubject, body⟩ <;> rfl

end Accounts
end Service

namespace Http

open Service (Reachable)
open Service.Accounts
  (tokenOf mailFailure? mailFailure?_eq_some resetFailure? run_forgotPassword_fst)
open SoilWatch.Flow

/-- A request for a reset link to an email, which stands encoded in the query. -/
structure AsksReset (email : String) (r : Request) : Prop where
  method : r.method = "POST"
  target : ∃ cs, Text.Form.Encodes (Text.Utf8.encode email) cs ∧
    r.target = "/pw/reset?email=" ++ String.ofList cs

/-- The name under which the email stands in the query. -/
def emailField : List Char :=
  ['e', 'm', 'a', 'i', 'l']

namespace AsksReset

variable {email : String} {r : Request} {setup : Setup} {cx : Context}

theorem toList_target (hr : AsksReset email r) :
    ∃ cs, Text.Form.Encodes (Text.Utf8.encode email) cs ∧
      r.target.toList = "/pw/reset".toList ++ '?' :: (emailField ++ '=' :: cs) := by
  obtain ⟨cs, hcs, htarget⟩ := hr.target
  exact ⟨cs, hcs, by rw [htarget, String.toList_append, String.toList_ofList (l := cs)]; rfl⟩

theorem route (hr : AsksReset email r) : r.route? = some .resetRequest := by
  obtain ⟨cs, -, htarget⟩ := hr.toList_target
  have hpath : r.path = "/pw/reset".toList := by
    rw [Request.path, htarget]
    rfl
  rw [Request.route?, Request.segments?, hpath]
  rfl

/-- The email is all that the query says. -/
theorem pairs_query (hr : AsksReset email r) : Text.Form.pairs r.query = [("email", email)] := by
  obtain ⟨cs, hcs, htarget⟩ := hr.toList_target
  have hclear : ∀ c ∈ emailField ++ '=' :: cs, c.toNat < 0x80 ∧ c.toNat ≠ 0x23 := by
    refine List.forall_mem_append.2
      ⟨by simp [emailField], List.forall_mem_cons.2 ⟨by decide, fun c hc => ?_⟩⟩
    exact ⟨(hcs.isClear c hc).1, (hcs.isClear c hc).2.2.2⟩
  have hwhole : (emailField ++ '=' :: cs).takeWhile (· ≠ '#') = emailField ++ '=' :: cs := by
    refine List.takeWhile_eq_self_iff.2 fun c hc => decide_eq_true ?_
    rintro rfl
    exact (hclear _ hc).2 rfl
  have hquery : r.query = Text.Utf8.encode
      (String.ofList ((emailField ++ '=' :: cs).takeWhile (· ≠ '#'))) := by
    rw [Request.query, htarget]
    rfl
  have hname : Text.Form.Encodes (Text.Utf8.encode "email") emailField :=
    show Text.Form.Encodes (emailField.map Text.Form.octet) _ from
      Text.Form.encodes_plain (by simp [emailField, Text.Form.isPlain])
  rw [hquery, hwhole, Text.Form.encode_ascii fun c hc => (hclear c hc).1]
  exact Text.Form.pairs_of_encodes hname hcs

/-- The email is read. -/
theorem readQuery (hr : AsksReset email r) : readQuery ResetQuery.format r = .ok ⟨email⟩ := by
  rw [Http.readQuery, Wire.Format.readQuery, hr.pairs_query]
  rfl

theorem serve (hr : AsksReset email r) : serve setup cx r = postReset setup cx r := by
  unfold Http.serve
  rw [show r.segments?.bind Route.ofSegments? = some .resetRequest from hr.route, hr.method]
  rfl

/-- The answer is sent as it is. -/
theorem finish (hr : AsksReset email r) {answer : Response} (h : answer.allow = none) :
    finish r answer = answer := by
  have hallowed : allowed r = none := by
    unfold allowed
    rw [show r.segments?.bind Route.ofSegments? = some .resetRequest from hr.route, hr.method]
    rfl
  rw [Http.finish, hallowed, if_neg (by rw [hr.method]; decide), ← h]

end AsksReset

/-- What is answered when the machinery fails. -/
def internalError : Response :=
  .ofJson 500 (.object [("error", .text "internal server error")])

/-- What a request for a reset link is answered with: that the mail failed, or nothing. -/
def resetAnswer (failure : Option Service.Error) : Response :=
  if failure.isSome then internalError else .ofStatus 200

/-- **What a request for a reset link is answered with.** -/
theorem run_respond_fst_of_asksReset (setup : Setup) {cx : Context} {s : System} {email : String}
    {r : Request} (hr : AsksReset email r) (hs : s.store.TakesReset (tokenOf cx.secret)) :
    ((respond setup cx r).run s).1 =
      .ok (resetAnswer (resetFailure? setup cx.secret s.store email)) := by
  have hanswer : answerOf ((postReset setup cx r).run s).1 =
      resetAnswer (resetFailure? setup cx.secret s.store email) := by
    unfold postReset withPart
    rw [hr.readQuery]
    dsimp only
    rw [run_bind, run_attempt, run_forgotPassword_fst cx.served hs, resetFailure?]
    cases s.store.userByEmail? email with
    | none => rfl
    | some user =>
      dsimp only [Option.bind]
      cases hfailure : mailFailure? setup cx.secret user with
      | none => rfl
      | some e => rcases mailFailure?_eq_some hfailure with ⟨_, rfl⟩ | ⟨_, rfl⟩ <;> rfl
  have hallow : (resetAnswer (resetFailure? setup cx.secret s.store email)).allow = none := by
    unfold resetAnswer
    split <;> rfl
  rw [run_respond, hr.serve, hanswer, hr.finish hallow]

/-! ### Two requests -/

/-- Whether two requests that find the same state are answered with the same status and body. -/
def AnsweredAlike (setup : Setup) (s : System) (cx : Context) (r : Request) (cx' : Context)
    (r' : Request) : Prop :=
  ∃ answer answer', ((respond setup cx r).run s).1 = .ok answer ∧
    ((respond setup cx' r').run s).1 = .ok answer' ∧
    answer.status = answer'.status ∧ answer.body.string = answer'.body.string

/-- The answers do not tell which failure it was. -/
theorem resetAnswer_alike_iff (f f' : Option Service.Error) :
    (resetAnswer f).status = (resetAnswer f').status ∧
      (resetAnswer f).body.string = (resetAnswer f').body.string ↔ (f.isSome ↔ f'.isSome) := by
  have hstatus : internalError.status ≠ (Response.ofStatus 200).status := by decide
  cases f <;> cases f' <;> simp [resetAnswer, hstatus, hstatus.symm]

/-- No mail fails if each can be rendered and is taken. -/
theorem resetFailure?_eq_none {setup : Setup}
    (hrender : ∀ vars, ∃ page, setup.renderer Template.resetMailName vars = .ok page)
    (hsend : ∀ mail, setup.mailer.refuse mail = none) (random : Octets) (store : Store)
    (email : String) : resetFailure? setup random store email = none := by
  refine Option.bind_eq_none_iff.2 fun user _ => ?_
  obtain ⟨page, hpage⟩ := hrender (.object [("username", .text user.name),
    ("reset_link", .text (Service.Accounts.resetLink setup.auth.resetLinkBase (tokenOf random)))])
  simp only [mailFailure?, hpage, hsend, Option.map_none]

/-- **Who asks for a reset link learns of an email only by a mail that fails.**  In every state whose
store takes the tokens drawn, and whatever the times, the mailer and the templates, each of two
requests is answered, with the failure of the mail or with nothing.  The two are answered alike if
and only if the mail fails for both emails or for neither, so they are answered alike where every
mail can be rendered and is taken, and an email that nobody has is told from another only by a mail
that fails. -/
theorem reset_requests_told_apart_by_failures (setup : Setup) (cx cx' : Context) (s : System)
    {email email' : String} {r r' : Request} (hr : AsksReset email r) (hr' : AsksReset email' r')
    (hs : s.store.TakesReset (tokenOf cx.secret)) (hs' : s.store.TakesReset (tokenOf cx'.secret)) :
    ((respond setup cx r).run s).1 =
        .ok (resetAnswer (resetFailure? setup cx.secret s.store email)) ∧
      (AnsweredAlike setup s cx r cx' r' ↔
        ((resetFailure? setup cx.secret s.store email).isSome ↔
          (resetFailure? setup cx'.secret s.store email').isSome)) ∧
      ((∀ vars, ∃ page, setup.renderer Template.resetMailName vars = .ok page) →
        (∀ mail, setup.mailer.refuse mail = none) → AnsweredAlike setup s cx r cx' r') := by
  have hanswer := run_respond_fst_of_asksReset setup hr hs
  have hanswer' := run_respond_fst_of_asksReset setup hr' hs'
  have hiff : AnsweredAlike setup s cx r cx' r' ↔
      ((resetFailure? setup cx.secret s.store email).isSome ↔
        (resetFailure? setup cx'.secret s.store email').isSome) := by
    rw [← resetAnswer_alike_iff]
    constructor
    · rintro ⟨answer, answer', h, h', hsame⟩
      obtain rfl := Except.ok.inj (hanswer.symm.trans h)
      obtain rfl := Except.ok.inj (hanswer'.symm.trans h')
      exact hsame
    · exact fun hsame => ⟨_, _, hanswer, hanswer', hsame⟩
  refine ⟨hanswer, hiff, fun hrender hsend => hiff.2 ?_⟩
  rw [resetFailure?_eq_none hrender hsend, resetFailure?_eq_none hrender hsend]

/-- A request for a reset link with every octet of the email escaped. -/
def resetRequest (email : String) : Request :=
  ⟨"POST", "/pw/reset?email=" ++ String.ofList (Text.Form.escape (Text.Utf8.encode email)), [], []⟩

theorem asksReset_resetRequest (email : String) : AsksReset email (resetRequest email) :=
  ⟨rfl, _, Text.Form.encodes_escape _, rfl⟩

/-- Surroundings in which pages are empty. -/
def plainPages (mailer : Mailer) : Setup :=
  { Setup.standard with mailer, renderer := fun _ _ => .ok "" }

theorem takesReset_annOnly : annOnly.store.TakesReset (tokenOf atEpoch.secret) :=
  ⟨by decide, by decide, by decide⟩

/-- Ann is not told from a stranger while mails go out. -/
theorem ann_hidden_by_mails : AnsweredAlike (plainPages .forgetting) annOnly atEpoch
    (resetRequest "ann@example.com") atEpoch (resetRequest "bob@example.com") :=
  (reset_requests_told_apart_by_failures (plainPages .forgetting) atEpoch atEpoch annOnly
    (asksReset_resetRequest _) (asksReset_resetRequest _) takesReset_annOnly
    takesReset_annOnly).2.2 (fun _ => ⟨"", rfl⟩) fun _ => rfl

/-- Ann is told from a stranger when mails are refused. -/
theorem ann_betrayed_by_refusal :
    ¬ ∀ (setup : Setup) (cx : Context) (s : System), Reachable s → s.store.forbidden = [] →
      s.store.TakesReset (tokenOf cx.secret) → ∀ (email email' : String) (r r' : Request),
      AsksReset email r → AsksReset email' r' → AnsweredAlike setup s cx r cx r' := by
  intro h
  obtain ⟨answer, answer', hr, hr', hstatus, -⟩ := h (plainPages (.failing "closed")) atEpoch annOnly
    ⟨⟨_, rfl⟩, ⟨_, rfl⟩⟩ rfl takesReset_annOnly "ann@example.com" "bob@example.com" _ _
    (asksReset_resetRequest _) (asksReset_resetRequest _)
  have hann : answer = internalError := Except.ok.inj
    (hr.symm.trans (run_respond_fst_of_asksReset _ (asksReset_resetRequest _) takesReset_annOnly))
  have hbob : answer' = .ofStatus 200 := Except.ok.inj
    (hr'.symm.trans (run_respond_fst_of_asksReset _ (asksReset_resetRequest _) takesReset_annOnly))
  rw [hann, hbob] at hstatus
  exact absurd hstatus (by decide)

end Http
end SoilWatch
