/-
# The worker beside the pump

The pump puts messages into a queue while it follows the events, and a worker takes them out one at
a time.  The two run side by side: between two steps of the handling of a message the pump may take
any number of events, and the run ends when the pump has ended and the worker has emptied the queue
(`Machine`, `Turn`).  `Listener.run` says the same in one line, first the pump, then all messages.

Both agree under every schedule.  What carries this is that the report that the pump will give does
not depend on the worker, and that what the worker still has to do, together with the messages that
it has not taken yet, leads to the state of `Listener.run` (`Agrees`).  A turn keeps this
(`Agrees.turn`), and every schedule can be completed (`exists_finished`), so no message is lost,
handled twice or handled out of turn, however the run ends.
-/

import SoilWatch.Proofs.Bus.Script

namespace SoilWatch
namespace Bus

open Time (Instant)

variable {σ : Type}

namespace Table

/-- The state behind messages that are routed one after the other, numbered from `i`. -/
def routed (t : Table σ) (clock : Nat → Instant) (i : Nat) (ms : List Message) (s : σ) : σ :=
  (ms.zipIdx i).foldl (fun s (m, n) => ((t.route (clock n) m : Flow σ Empty Unit).run s).2) s

theorem routed_append (t : Table σ) (clock : Nat → Instant) (i : Nat) (ms ms' : List Message)
    (s : σ) : t.routed clock i (ms ++ ms') s =
      t.routed clock (i + ms.length) ms' (t.routed clock i ms s) := by
  rw [routed, List.zipIdx_append, List.foldl_append]
  rfl

/-- A message is routed without an error, whatever becomes of it. -/
theorem run_route (t : Table σ) {ε : Type} (now : Instant) (m : Message) (s : σ) :
    (t.route now m : Flow σ ε Unit).run s = (.ok (), ((t.dispatch now m).run s).2) := by
  rw [route, Flow.run_bind, Flow.run_attempt]
  rfl

theorem routed_cons (t : Table σ) (clock : Nat → Instant) (i : Nat) (m : Message)
    (ms : List Message) (s : σ) : t.routed clock i (m :: ms) s =
      t.routed clock (i + 1) ms ((t.dispatch (clock i) m).run s).2 := by
  rw [routed, List.zipIdx_cons, List.foldl_cons]
  dsimp only
  rw [run_route]
  rfl

/-- Messages are routed one after the other. -/
theorem run_routeAll (t : Table σ) (clock : Nat → Instant) (i : Nat) (ms : List Message) (s : σ) :
    (t.routeAll clock i ms : Flow σ Empty Unit).run s = (.ok (), t.routed clock i ms s) := by
  induction ms generalizing i s with
  | nil => rfl
  | cons m ms ih =>
    rw [routeAll, Flow.run_bind, run_route]
    dsimp only
    rw [ih, routed_cons]

end Table

namespace Listener

/-- **The listener while it runs:** the pump with the events that it has not taken, and the worker
with the messages that it has not taken. -/
structure Machine (σ : Type) where
  system : σ
  progress : Progress
  script : List Event
  result : Option (Except Error Unit)
  queue : List Message
  taken : Nat
  worker : Flow σ Empty Unit

/-- What happens next: the pump takes an event, the worker takes a message, or the worker takes a
step of the handling of its message. -/
inductive Turn where
  | listen
  | take
  | work

namespace Machine

/-- The listener before anything has happened. -/
def start (events : List Event) (s : σ) : Machine σ :=
  ⟨s, .start, events, none, [], 0, .done (.ok ())⟩

/-- Whether the pump has ended and the worker has nothing left to do. -/
def Finished (m : Machine σ) : Prop :=
  m.result.isSome ∧ m.queue = [] ∧ ∃ r, m.worker = .done r

variable (table : Table σ) (maxAttempts : Nat) (subscribe : Subscriptions) (clock : Nat → Instant)

/-- The listener behind a turn.  The pump is cancelled when the script is used up; a turn that is
not possible changes nothing. -/
def turn (m : Machine σ) : Turn → Machine σ
  | .listen =>
    match m.result, m.script with
    | some _, _ => m
    | none, [] => { m with result := some (.ok ()) }
    | none, e :: script =>
      match step table.topics maxAttempts subscribe m.progress e with
      | (p, .ok _) => { m with progress := p, script, queue := m.queue ++ e.message?.toList }
      | (p, .error err) => { m with progress := p, script, result := some (.error err) }
  | .take =>
    match m.worker, m.queue with
    | .done _, msg :: queue =>
      { m with queue, taken := m.taken + 1, worker := table.route (clock m.taken) msg }
    | _, _ => m
  | .work =>
    match m.worker with
    | .done _ => m
    | .step act next => { m with system := act m.system, worker := next m.system }

/-- The listener behind a schedule. -/
def runAll (m : Machine σ) (schedule : List Turn) : Machine σ :=
  schedule.foldl (turn table maxAttempts subscribe clock) m

/-- The report that the pump has given or will give. -/
def report (m : Machine σ) : Report :=
  match m.result with
  | some r => m.progress.report r
  | none => pump table.topics maxAttempts subscribe m.progress m.script

end Machine

variable {table : Table σ} {maxAttempts : Nat} {subscribe : Subscriptions}
variable {clock : Nat → Instant} {out : Report × σ} {m : Machine σ}

/-- **A listener on its way to a report and a state.** -/
structure Agrees (table : Table σ) (maxAttempts : Nat) (subscribe : Subscriptions)
    (clock : Nat → Instant) (out : Report × σ) (m : Machine σ) : Prop where
  report : m.report table maxAttempts subscribe = out.1
  queued : m.queue = m.progress.delivered.reverse.drop m.taken
  taken : m.taken ≤ m.progress.delivered.length
  system : ((m.worker >>= fun _ =>
    table.routeAll clock m.taken (out.1.delivered.drop m.taken)).run m.system).2 = out.2

theorem agrees_start (events : List Event) (s : σ) :
    Agrees table maxAttempts subscribe clock (run table maxAttempts subscribe clock events s)
      (.start events s) :=
  ⟨rfl, rfl, Nat.le_refl _, rfl⟩

/-- What was delivered so far is the beginning of what the report will say. -/
theorem Agrees.isPrefix (h : Agrees table maxAttempts subscribe clock out m) :
    m.progress.delivered.reverse <+: out.1.delivered := by
  rw [← h.report, Machine.report]
  split
  · exact List.prefix_rfl
  · exact delivered_isPrefix _ _

/-- An event that the pump takes puts its message at the end of the queue. -/
theorem Agrees.listen (h : Agrees table maxAttempts subscribe clock out m) :
    Agrees table maxAttempts subscribe clock out
      (m.turn table maxAttempts subscribe clock .listen) := by
  rw [Machine.turn]
  split
  · exact h
  · rename_i hr hs
    refine ⟨?_, h.queued, h.taken, h.system⟩
    rw [← h.report, Machine.report, Machine.report, hr, hs]
    rfl
  · rename_i e script hr hs
    have hreport := h.report
    rw [Machine.report, hr, hs] at hreport
    dsimp only at hreport
    rw [pump_cons] at hreport
    have hdelivered := step_delivered table.topics maxAttempts subscribe m.progress e
    split
    · rename_i p _ hstep
      rw [hstep] at hreport hdelivered
      dsimp only at hdelivered
      refine ⟨hreport ▸ by rw [Machine.report, hr], ?_, ?_, h.system⟩
      · have hlast : e.message?.toList.reverse = e.message?.toList := by
          cases e.message? <;> rfl
        have htaken : m.taken ≤ m.progress.delivered.reverse.length := by
          rw [List.length_reverse]
          exact h.taken
        dsimp only
        rw [hdelivered, List.reverse_append, hlast, List.drop_append_of_le_length htaken, h.queued]
      · dsimp only
        rw [hdelivered, List.length_append]
        exact Nat.le_add_left_of_le h.taken
    · rename_i p err hstep
      rw [hstep] at hreport hdelivered
      rw [message?_of_step_error hstep] at hdelivered
      dsimp only at hdelivered
      refine ⟨hreport, ?_, ?_, h.system⟩
      · rw [hdelivered]
        exact h.queued
      · rw [hdelivered]
        exact h.taken

/-- The message that the worker takes is the next that has been delivered. -/
theorem Agrees.take (h : Agrees table maxAttempts subscribe clock out m) :
    Agrees table maxAttempts subscribe clock out
      (m.turn table maxAttempts subscribe clock .take) := by
  rw [Machine.turn]
  split
  · rename_i r msg queue hw hq
    have hqueued : msg :: queue = m.progress.delivered.reverse.drop m.taken := hq ▸ h.queued
    -- The queue is the beginning of what the report will say behind the messages taken so far.
    obtain ⟨rest, hrest⟩ := h.isPrefix
    have htaken : m.taken < m.progress.delivered.length := by
      have hlength := congrArg List.length hqueued
      simp only [List.length_cons, List.length_drop, List.length_reverse] at hlength
      omega
    have hout : out.1.delivered.drop m.taken = msg :: (queue ++ rest) := by
      rw [← hrest, List.drop_append_of_le_length (by simpa using h.taken), ← hqueued,
        List.cons_append]
    have hnext : out.1.delivered.drop (m.taken + 1) = queue ++ rest := by
      rw [← List.tail_drop, hout, List.tail_cons]
    refine ⟨h.report, ?_, htaken, ?_⟩
    · rw [← List.tail_drop, ← hqueued, List.tail_cons]
    · have hsystem := h.system
      rw [hw, hout] at hsystem
      cases r with
      | error e => cases e
      | ok _ => rwa [hnext]
  · exact h

/-- A step of the worker is one of those that are left to do. -/
theorem Agrees.work (h : Agrees table maxAttempts subscribe clock out m) :
    Agrees table maxAttempts subscribe clock out
      (m.turn table maxAttempts subscribe clock .work) := by
  rw [Machine.turn]
  split
  · exact h
  · rename_i act next hw
    have hsystem := h.system
    rw [hw] at hsystem
    exact ⟨h.report, h.queued, h.taken, hsystem⟩

/-- **A turn keeps the report and the state that the listener is on its way to.** -/
theorem Agrees.turn (h : Agrees table maxAttempts subscribe clock out m) :
    (t : Turn) → Agrees table maxAttempts subscribe clock out
      (m.turn table maxAttempts subscribe clock t)
  | .listen => h.listen
  | .take => h.take
  | .work => h.work

theorem Agrees.runAll (h : Agrees table maxAttempts subscribe clock out m)
    (schedule : List Turn) :
    Agrees table maxAttempts subscribe clock out
      (m.runAll table maxAttempts subscribe clock schedule) := by
  induction schedule generalizing m with
  | nil => exact h
  | cons t schedule ih => exact ih (h.turn t)

/-- **A listener that has finished has arrived.** -/
theorem Agrees.finished (h : Agrees table maxAttempts subscribe clock out m) (hf : m.Finished) :
    m.result.map m.progress.report = some out.1 ∧ m.system = out.2 := by
  obtain ⟨hr, hq, r, hw⟩ := hf
  obtain ⟨result, hresult⟩ := Option.isSome_iff_exists.1 hr
  have hreport : m.progress.report result = out.1 := by
    rw [← h.report, Machine.report, hresult]
  have hrest : out.1.delivered.drop m.taken = [] := by
    rw [← hreport, ← hq]
    exact h.queued.symm
  refine ⟨by rw [hresult, Option.map_some, hreport], ?_⟩
  have hsystem := h.system
  rw [hw, hrest] at hsystem
  cases r with
  | error e => cases e
  | ok _ => exact hsystem

/-! ### Every schedule can be completed -/

variable (table maxAttempts subscribe clock)

theorem runAll_append (m : Machine σ) (schedule more : List Turn) :
    m.runAll table maxAttempts subscribe clock (schedule ++ more) =
      (m.runAll table maxAttempts subscribe clock schedule).runAll table maxAttempts subscribe
        clock more :=
  List.foldl_append

/-- The pump comes to an end, since it takes one event after the other. -/
theorem exists_ended (m : Machine σ) :
    ∃ more, (m.runAll table maxAttempts subscribe clock more).result.isSome := by
  cases hr : m.result with
  | some r => exact ⟨[], by simp [Machine.runAll, hr]⟩
  | none =>
    induction hs : m.script generalizing m with
    | nil => exact ⟨[.listen], by simp [Machine.runAll, Machine.turn, hr, hs]⟩
    | cons e script ih =>
      rcases hstep : step table.topics maxAttempts subscribe m.progress e with ⟨p, err | _⟩
      · exact ⟨[.listen], by simp [Machine.runAll, Machine.turn, hr, hs, hstep]⟩
      · obtain ⟨more, hmore⟩ := ih (m.turn table maxAttempts subscribe clock .listen)
          (by simp [Machine.turn, hr, hs, hstep]) (by simp [Machine.turn, hr, hs, hstep])
        exact ⟨.listen :: more, hmore⟩

/-- The worker comes to the end of its message, since handling takes finitely many steps. -/
theorem exists_idle (m : Machine σ) :
    ∃ more s r, m.runAll table maxAttempts subscribe clock more =
      { m with system := s, worker := .done r } := by
  obtain ⟨system, progress, script, result, queue, taken, worker⟩ := m
  induction worker generalizing system with
  | done r => exact ⟨[], system, r, rfl⟩
  | step act next ih =>
    obtain ⟨more, s, r, hmore⟩ := ih system (act system)
    exact ⟨.work :: more, s, r, hmore⟩

/-- The worker empties the queue once the pump has ended. -/
theorem exists_finished_of_ended (hm : m.result.isSome) :
    ∃ more, (m.runAll table maxAttempts subscribe clock more).Finished := by
  induction hq : m.queue generalizing m with
  | nil =>
    obtain ⟨more, s, r, hmore⟩ := exists_idle table maxAttempts subscribe clock m
    exact ⟨more, by rw [hmore]; exact ⟨hm, hq, r, rfl⟩⟩
  | cons msg queue ih =>
    obtain ⟨more, s, r, hmore⟩ := exists_idle table maxAttempts subscribe clock m
    obtain ⟨more', hmore'⟩ := ih (m := { m with
      system := s, queue := queue, taken := m.taken + 1
      worker := table.route (clock m.taken) msg }) hm rfl
    refine ⟨more ++ .take :: more', ?_⟩
    rw [runAll_append, hmore]
    have hturn : Machine.turn table maxAttempts subscribe clock
        { m with system := s, worker := .done r } .take = { m with
          system := s, queue := queue, taken := m.taken + 1
          worker := table.route (clock m.taken) msg } := by
      simp [Machine.turn, hq]
    show (Machine.runAll table maxAttempts subscribe clock
      (Machine.turn table maxAttempts subscribe clock _ .take) more').Finished
    rw [hturn]
    exact hmore'

/-- **Every listener can finish.** -/
theorem exists_finished (m : Machine σ) :
    ∃ more, (m.runAll table maxAttempts subscribe clock more).Finished := by
  obtain ⟨more, hmore⟩ := exists_ended table maxAttempts subscribe clock m
  obtain ⟨more', hmore'⟩ := exists_finished_of_ended table maxAttempts subscribe clock hmore
  exact ⟨more ++ more', by rwa [runAll_append]⟩

end Listener
end Bus
end SoilWatch
