/-
# Requests one after the other

In a sequential run every request is served to its end before the next one begins.  The surroundings
may be others for each request, and other events may be refused from some point on, so mails, pages
and statements fail as they like (`Turn`).  `served` is the state that a run leaves, and `replies`
are its requests with their answers, in order.

A request leaves the tables that none of its operations writes (`Request.run_same`), and a store that
is sound stays so.
-/

import SoilWatch.Proofs.Service.Interleaving
import SoilWatch.Proofs.Store.Consistency

namespace SoilWatch

namespace Flow

open Service (Call Operates)

/-- What every operation of a kind keeps, a call made of them keeps. -/
theorem Every.run_store {α : Type} {P : Store.Operation → Prop} {J : Store → Prop} {x : Call α}
    (hx : x.Every (Operates P)) (hJ : ∀ s op, P op → J s → J (op.run s).2) {s : System}
    (hs : J s.store) : J (x.run s).2.store := by
  induction hx generalizing s with
  | done r => exact hs
  | @step act next hact _ ih =>
    refine ih s ?_
    rcases hact with h | ⟨op, hop, h⟩ <;> rw [h]
    · exact hs
    · exact hJ _ op hop hs

end Flow

namespace Service

/-- **A request leaves the tables that none of its operations writes.** -/
theorem Request.run_same (setup : Setup) {r : Request} {t : Store.Table}
    (h : ∀ op, r.Uses op → t ∉ op.writes) (s : System) :
    s.store.SameTable ((r.call setup).run s).2.store t :=
  (r.operates setup h).run_store (J := fun store => s.store.SameTable store t)
    (fun _ _ hop hs => hs.trans (Store.Operation.run_same rfl hop)) (.refl _ _)

/-- A request leaves a sound store. -/
theorem Request.sound (setup : Setup) (r : Request) {s : System} (hs : s.store.Sound) :
    ((r.call setup).run s).2.store.Sound :=
  (r.operates (P := fun _ => True) setup fun _ _ => trivial).run_store
    (fun _ op _ hs => hs.run op) hs

/-- What comes next in a sequential run. -/
inductive Turn where
  /-- A request is served in its surroundings. -/
  | serve (setup : Setup) (r : Request)
  /-- Other events are refused from now on. -/
  | refuse (events : List (Store.Table × Store.Event))

/-- A request with its surroundings and its answer. -/
structure Reply where
  setup : Setup
  request : Request
  answer : Except Error request.Answer

namespace Turn

/-- The state behind a turn. -/
def act : Turn → System → System
  | serve setup r, s => ((r.call setup).run s).2
  | refuse events, s => { s with store := { s.store with forbidden := events } }

/-- What a turn adds to the replies. -/
def replies : Turn → System → List Reply
  | serve setup r, s => [⟨setup, r, ((r.call setup).run s).1⟩]
  | refuse _, _ => []

end Turn

/-- The state behind a run. -/
def served (s : System) (run : List Turn) : System :=
  run.foldl (fun s turn => turn.act s) s

/-- The replies of a run, in order. -/
def replies (s : System) : List Turn → List Reply
  | [] => []
  | turn :: run => turn.replies s ++ replies (turn.act s) run

theorem served_append (s : System) (past future : List Turn) :
    served s (past ++ future) = served (served s past) future :=
  List.foldl_append

theorem replies_append (s : System) (past future : List Turn) :
    replies s (past ++ future) = replies s past ++ replies (served s past) future := by
  induction past generalizing s with
  | nil => rfl
  | cons turn past ih =>
    simp only [List.cons_append, replies, ih, List.append_assoc]
    rfl

/-- A list with one more element is split in front of that element, or before. -/
theorem append_singleton_eq_split {α : Type} {l before after : List α} {x y : α} :
    l ++ [x] = before ++ y :: after ↔
      (before = l ∧ y = x ∧ after = []) ∨ ∃ rest, after = rest ++ [x] ∧ l = before ++ y :: rest := by
  constructor
  · intro heq
    rcases List.eq_nil_or_concat after with rfl | ⟨rest, z, rfl⟩
    · obtain ⟨rfl, hx⟩ := List.append_inj' heq rfl
      exact .inl ⟨rfl, (List.singleton_inj.1 hx).symm, rfl⟩
    · rw [List.concat_eq_append, ← List.cons_append, ← List.append_assoc] at heq
      obtain ⟨rfl, hx⟩ := List.append_inj' heq rfl
      exact .inr ⟨rest, by rw [List.concat_eq_append, List.singleton_inj.1 hx], rfl⟩
  · rintro (⟨rfl, rfl, rfl⟩ | ⟨rest, rfl, rfl⟩)
    · rfl
    · rw [List.append_assoc, List.cons_append]

/-- **Induction over a sequential run,** with its replies and the state that it leaves. -/
theorem turns_induction {P : List Turn → List Reply → System → Prop} {start : System}
    (init : P [] [] start)
    (serve : ∀ run h s setup (r : Request), P run h s →
      P (run ++ [.serve setup r]) (h ++ [⟨setup, r, ((r.call setup).run s).1⟩])
        ((r.call setup).run s).2)
    (refuse : ∀ run h s events, P run h s →
      P (run ++ [.refuse events]) h { s with store := { s.store with forbidden := events } })
    (run : List Turn) : P run (replies start run) (served start run) := by
  induction run using List.reverseRecOn with
  | nil => exact init
  | append_singleton run turn ih =>
    rw [replies_append, served_append]
    show P _ (_ ++ (turn.replies _ ++ [])) (turn.act _)
    rw [List.append_nil]
    cases turn with
    | serve setup r => exact serve run _ _ setup r ih
    | refuse events =>
      show P _ (_ ++ []) _
      rw [List.append_nil]
      exact refuse run _ _ events ih

end Service
end SoilWatch
