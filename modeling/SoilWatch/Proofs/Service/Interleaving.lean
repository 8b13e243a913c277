/-
# Tasks side by side

Requests and messages are served side by side, and between two steps of one of them the others may
take steps of their own (`Pool`).  A schedule says which task begins or takes its next step, at
which point the file of the store is closed and opened again, and when other events are refused
(`Move`); every schedule is possible.

Each step of a task is at most one operation of the store (`Task.stepwise`), so a schedule goes
through a run of operations, one after the other (`Pool.Stepwise.runs`).  The stores that the pool
passes through are those of the run (`Pool.Runs.store`), and what holds of every run holds under
every schedule.
-/

import SoilWatch.Proofs.Service.Footprint

namespace SoilWatch
namespace Service

open Time (Instant)
open SoilWatch.Flow

/-- A step is an operation of the store, or leaves the store alone. -/
def OneOperation (act : System → System) : Prop :=
  (∀ s, (act s).store = s.store) ∨ ∃ op : Store.Operation, ∀ s, (act s).store = (op.run s.store).2

/-- A step is an operation of the store of a certain kind, or leaves the store alone. -/
def Operates (P : Store.Operation → Prop) (act : System → System) : Prop :=
  (∀ s, (act s).store = s.store) ∨
    ∃ op : Store.Operation, P op ∧ ∀ s, (act s).store = (op.run s.store).2

theorem oneOperation_eq : OneOperation = Operates fun _ => True := by
  funext act
  simp only [OneOperation, Operates, true_and]

/-- **Every step of a request is at most one operation of the store,** of those that it uses. -/
theorem Request.operates {P : Store.Operation → Prop} (setup : Setup) (r : Request)
    (hP : ∀ op, r.Uses op → P op) : (r.call setup).Every (Operates P) := by
  refine (r.steps setup).mono fun act hact => ?_
  cases hact with
  | look | point => exact .inl fun _ => rfl
  | operate hop => exact .inr ⟨_, hP _ hop, fun _ => rfl⟩
  | mail =>
    refine .inl fun s => ?_
    unfold mailing
    split <;> rfl

/-- A handler takes the steps of the service that it hands its payload to. -/
theorem steps_handleJson {α β : Type} {P : (System → System) → Prop} {topic : String}
    {format : Wire.Format α} {serve : α → Call β} (h : ∀ a, (serve a).Every P) (payload : Octets) :
    (Bus.handleJson topic format serve payload).Every P := by
  unfold Bus.handleJson
  split
  · exact every_fail _
  · refine (h _).attempt.bind ?_
    rintro (e | b)
    · exact every_fail _
    · exact every_pure ()

/-- The handling of a message takes the operations of the requests that it leads to. -/
theorem operates_dispatch {P : Store.Operation → Prop} (setup : Setup) (now : Instant)
    (m : Bus.Message) (hP : ∀ contract address, P (.completeDevice contract address)) :
    ((Bus.serviceTable setup).dispatch now m).Every (Operates P) := by
  unfold Bus.Table.dispatch
  split
  · rename_i r hr
    have hr : r ∈ (Bus.serviceTable setup).routes :=
      List.mem_reverse.1 (List.mem_of_find?_eq_some hr)
    simp only [Bus.serviceTable, List.mem_cons, List.not_mem_nil, or_false] at hr
    rcases hr with rfl | rfl
    · refine steps_handleJson (fun c => ?_) m.payload
      refine (Request.completeDevice c.address c.contract).operates setup fun op hop => ?_
      cases hop with
      | completeDevice => exact hP _ _
    · refine steps_handleJson (fun c => ?_) m.payload
      refine (Request.record now c).operates setup fun op hop => ?_
      cases hop
  · exact every_fail _

/-- The operations that a task can run on the store. -/
inductive Task.Uses : Task → Store.Operation → Prop where
  | request {r : Request} {op : Store.Operation} (h : r.Uses op) : Uses (.request r) op
  | message {now : Instant} {m : Bus.Message} (contract address : String) :
    Uses (.message now m) (.completeDevice contract address)

/-- Every step of a task is at most one operation of the store, of those that it uses. -/
theorem Task.operates {P : Store.Operation → Prop} (setup : Setup) :
    (t : Task) → (∀ op, t.Uses op → P op) → (t.call setup).Every (Operates P)
  | .request r, hP => (r.operates setup fun op hop => hP op (.request hop)).attempt
  | .message now m, hP => (operates_dispatch setup now m fun c a => hP _ (.message c a)).attempt

/-- **Every step of a task is at most one operation of the store.** -/
theorem Task.stepwise (setup : Setup) (t : Task) : (t.call setup).Every OneOperation :=
  oneOperation_eq ▸ t.operates setup fun _ _ => trivial

/-! ### Pools -/

/-- Tasks side by side: the state that they share, and what each of them still has to do. -/
structure Pool where
  system : System
  calls : List (Σ t : Task, Flow System Empty t.Result)

/-- What a schedule can do next. -/
inductive Move where
  /-- A task begins. -/
  | start (t : Task)
  /-- A task takes its next step, if it has one. -/
  | advance (i : Nat)
  /-- The file of the store is closed and opened again. -/
  | reopen
  /-- Other events are refused from now on. -/
  | refuse (events : List (Store.Table × Store.Event))

namespace Pool

/-- The pool in which nothing has begun. -/
def empty : Pool := ⟨.empty, []⟩

/-- The pool behind a move. -/
def move (setup : Setup) (p : Pool) : Move → Pool
  | .start t => { p with calls := p.calls ++ [⟨t, t.call setup⟩] }
  | .advance i =>
    match p.calls[i]? with
    | some ⟨t, .step act next⟩ => ⟨act p.system, p.calls.set i ⟨t, next p.system⟩⟩
    | _ => p
  | .reopen => { p with system := { p.system with store := p.system.store.reopen } }
  | .refuse events =>
    { p with system := { p.system with store := { p.system.store with forbidden := events } } }

/-- The pool behind a schedule. -/
def run (setup : Setup) (p : Pool) (schedule : List Move) : Pool :=
  schedule.foldl (move setup) p

/-- What every call of a pool still has to do are operations of the store, one at a time. -/
def Stepwise (p : Pool) : Prop :=
  ∀ c ∈ p.calls, c.2.Every OneOperation

/-- What every call of a pool still has to do are operations of a certain kind, one at a time. -/
def KeepsTo (P : Store.Operation → Prop) (p : Pool) : Prop :=
  ∀ c ∈ p.calls, c.2.Every (Operates P)

theorem stepwise_empty : empty.Stepwise :=
  fun _ h => absurd h List.not_mem_nil

theorem stepwise_iff {p : Pool} : p.Stepwise ↔ p.KeepsTo fun _ => True := by
  rw [Stepwise, KeepsTo, oneOperation_eq]

/-- What a move does to the store, as steps of a run.  A task that goes on takes an operation of the
store, or works elsewhere. -/
inductive Takes (setup : Setup) (p : Pool) : Move → List Store.Action → Prop where
  | started (t : Task) : Takes setup p (.start t) []
  | idle {i : Nat} (h : ∀ t act next, p.calls[i]? ≠ some ⟨t, .step act next⟩) :
    Takes setup p (.advance i) []
  | elsewhere {i : Nat} {t : Task} {act : System → System}
      {next : System → Flow System Empty t.Result}
      (hi : p.calls[i]? = some ⟨t, .step act next⟩) (h : ∀ s, (act s).store = s.store) :
    Takes setup p (.advance i) []
  | operated {i : Nat} {t : Task} {act : System → System}
      {next : System → Flow System Empty t.Result} (op : Store.Operation)
      (hi : p.calls[i]? = some ⟨t, .step act next⟩)
      (h : ∀ s, (act s).store = (op.run s.store).2) :
    Takes setup p (.advance i) [.call op]
  | reopened : Takes setup p .reopen [.reopen]
  | refused (events : List (Store.Table × Store.Event)) :
    Takes setup p (.refuse events) [.refuse events]

/-- A schedule goes through a run of the store: the steps that its moves take, in their order. -/
inductive Runs (setup : Setup) : Pool → List Move → List Store.Action → Prop where
  | nil (p : Pool) : Runs setup p [] []
  | cons {p : Pool} {m : Move} {schedule : List Move} {steps run : List Store.Action}
      (hm : p.Takes setup m steps) (hs : Runs setup (p.move setup m) schedule run) :
    Runs setup p (m :: schedule) (steps ++ run)

variable {setup : Setup} {p : Pool} {m : Move} {schedule : List Move}

/-- A move leaves the store that its steps leave. -/
theorem Takes.store {steps : List Store.Action} (h : p.Takes setup m steps) :
    (p.move setup m).system.store = p.system.store.after steps := by
  cases h with
  | started | reopened | refused => rfl
  | idle h =>
    simp only [Pool.move]
    rfl
  | elsewhere hi h =>
    simp only [Pool.move, hi]
    exact h p.system
  | operated op hi h =>
    simp only [Pool.move, hi]
    exact h p.system

/-- **Whatever is interleaved, the stores of a pool are those of a run of operations.** -/
theorem Runs.store {run : List Store.Action} (h : Runs setup p schedule run) :
    (p.run setup schedule).system.store = p.system.store.after run := by
  induction h with
  | nil => rfl
  | cons hm _ ih =>
    rw [Store.after_append, ← hm.store]
    exact ih

/-- A move leaves what the calls of a pool keep to, if a task that begins keeps to it, too. -/
theorem KeepsTo.move {P : Store.Operation → Prop} (hp : p.KeepsTo P)
    (hstart : ∀ t, m = .start t → (t.call setup).Every (Operates P)) :
    (p.move setup m).KeepsTo P := by
  cases m with
  | start t =>
    intro c hc
    rcases List.mem_append.1 hc with h | h
    · exact hp c h
    · rw [List.mem_singleton.1 h]
      exact hstart t rfl
  | advance i =>
    simp only [Pool.move]
    split
    · rename_i t act next hi
      obtain ⟨-⟩ | ⟨-, hnext⟩ := hp _ (List.mem_of_getElem? hi)
      intro c h
      rcases List.mem_or_eq_of_mem_set h with h | rfl
      · exact hp c h
      · exact hnext p.system
    · exact hp
  | reopen | refuse => exact hp

/-- A move takes at most one step of a run, and an operation that the calls keep to. -/
theorem KeepsTo.takes {P : Store.Operation → Prop} (hp : p.KeepsTo P) (setup : Setup) (m : Move) :
    ∃ steps, p.Takes setup m steps ∧ ∀ op, .call op ∈ steps → P op := by
  cases m with
  | start t => exact ⟨_, .started t, by simp⟩
  | advance i =>
    by_cases hi : ∃ t act next, p.calls[i]? = some ⟨t, .step act next⟩
    · obtain ⟨t, act, next, hi⟩ := hi
      obtain ⟨-⟩ | ⟨hact, -⟩ := hp _ (List.mem_of_getElem? hi)
      rcases hact with h | ⟨op, hop, h⟩
      · exact ⟨_, .elsewhere hi h, by simp⟩
      · exact ⟨_, .operated op hi h, by simp [hop]⟩
    · exact ⟨_, .idle fun t act next h => hi ⟨t, act, next, h⟩, by simp⟩
  | reopen => exact ⟨_, .reopened, by simp⟩
  | refuse events => exact ⟨_, .refused events, by simp⟩

/-- **Tasks that keep to operations of a certain kind** take a schedule through a run of them. -/
theorem KeepsTo.runs {P : Store.Operation → Prop} (hp : p.KeepsTo P)
    (hstart : ∀ t, .start t ∈ schedule → (t.call setup).Every (Operates P)) :
    ∃ run, Runs setup p schedule run ∧ ∀ op, .call op ∈ run → P op := by
  induction schedule generalizing p with
  | nil => exact ⟨_, .nil p, by simp⟩
  | cons m schedule ih =>
    obtain ⟨steps, hm, hsteps⟩ := hp.takes setup m
    obtain ⟨run, hs, hrun⟩ := ih (hp.move fun t ht => hstart t (ht ▸ List.mem_cons_self))
      fun t ht => hstart t (List.mem_cons_of_mem _ ht)
    exact ⟨_, .cons hm hs, fun op hop => (List.mem_append.1 hop).elim (hsteps op) (hrun op)⟩

/-- A move leaves the calls of a pool stepwise. -/
theorem Stepwise.move (hp : p.Stepwise) (setup : Setup) (m : Move) :
    (p.move setup m).Stepwise :=
  stepwise_iff.2 ((stepwise_iff.1 hp).move fun t _ => oneOperation_eq ▸ t.stepwise setup)

/-- A move takes at most one step of a run. -/
theorem Stepwise.takes (hp : p.Stepwise) (setup : Setup) (m : Move) :
    ∃ steps, p.Takes setup m steps := by
  obtain ⟨steps, hm, -⟩ := (stepwise_iff.1 hp).takes setup m
  exact ⟨steps, hm⟩

/-- A schedule leaves the calls of a pool stepwise. -/
theorem Stepwise.run (hp : p.Stepwise) (setup : Setup) (schedule : List Move) :
    (p.run setup schedule).Stepwise := by
  induction schedule generalizing p with
  | nil => exact hp
  | cons m schedule ih => exact ih (hp.move setup m)

/-- **Every schedule goes through a run of the store.** -/
theorem Stepwise.runs (hp : p.Stepwise) (setup : Setup) (schedule : List Move) :
    ∃ run, Runs setup p schedule run := by
  obtain ⟨run, hrun, -⟩ := (stepwise_iff.1 hp).runs fun t _ => oneOperation_eq ▸ t.stepwise setup
  exact ⟨run, hrun⟩

theorem run_append (setup : Setup) (p : Pool) (past future : List Move) :
    p.run setup (past ++ future) = (p.run setup past).run setup future :=
  List.foldl_append

end Pool
end Service
end SoilWatch
