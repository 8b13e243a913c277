/-
# How far a script of events is followed

The pump keeps counters while it follows the events of the connection.  What it does can be said
without them, by looking back at the events so far: a lost connection stops the run if the
connection has been lost as often as is allowed since it was last made (`losses`), and a connection
that is made stops it if one of its subscriptions is refused (`refusal?`), where the calls of a run
are numbered by the connections before (`connections`).  `stop?` puts the two together, and `Ends`
says how far a script is followed and with what result.

The counters of the pump are those of the events so far (`Tracks`).  One event keeps this or stops
the run (`tracks_step`), so by induction the pump ends as `Ends` says, having delivered the messages
among the events it has taken (`pump_ends`).
-/

import SoilWatch.Bus.Listener

namespace SoilWatch
namespace Bus
namespace Listener

variable {topics : List String} {maxAttempts : Nat} {subscribe : Subscriptions}
variable {p p' : Progress} {past : List Event} {e : Event}

/-! ### Looking back at events -/

/-- The message that an event delivers. -/
def Event.message? : Event → Option Message
  | .message m => some m
  | _ => none

/-- Whether an event is a lost connection. -/
def Event.isLost : Event → Bool
  | .lost _ => true
  | _ => false

/-- The messages among events, in the order of their delivery. -/
def messages (events : List Event) : List Message :=
  events.filterMap Event.message?

/-- How often the connection was made. -/
def connections (past : List Event) : Nat :=
  past.count .connected

/-- How often the connection was lost since it was last made, or since the start. -/
def losses (past : List Event) : Nat :=
  (past.reverse.takeWhile (· ≠ .connected)).countP Event.isLost

/-- The first refusal when topics are subscribed, the calls being numbered from `n`. -/
def refusal? (subscribe : Subscriptions) (topics : List String) (n : Nat) : Option Error :=
  (topics.zipIdx n).findSome? fun (topic, i) => (subscribe i topic).map (.subscribe topic)

/-- **What stops a run at an event,** after other events: a lost connection if as many were lost as
is allowed, and a connection with a subscription that is refused. -/
def stop? (topics : List String) (maxAttempts : Nat) (subscribe : Subscriptions)
    (past : List Event) : Event → Option Error
  | .lost reason =>
    if losses past = maxAttempts then some (.exhausted maxAttempts reason) else none
  | .connected => refusal? subscribe topics (connections past * topics.length)
  | .message _ | .other => none

/-- Whether no event of a script stops the run. -/
def Quiet (topics : List String) (maxAttempts : Nat) (subscribe : Subscriptions)
    (events : List Event) : Prop :=
  ∀ past e, past ++ [e] <+: events → stop? topics maxAttempts subscribe past e = none

/-- **How far a script is followed, and with what result:** to its end, where the run is cancelled,
or to the first event that stops it. -/
inductive Ends (topics : List String) (maxAttempts : Nat) (subscribe : Subscriptions)
    (events : List Event) : List Event → Except Error Unit → Prop where
  | cancelled (hquiet : Quiet topics maxAttempts subscribe events) :
    Ends topics maxAttempts subscribe events events (.ok ())
  | stopped {past rest : List Event} {e : Event} {err : Error}
      (hevents : events = past ++ e :: rest)
      (hquiet : Quiet topics maxAttempts subscribe past)
      (hstop : stop? topics maxAttempts subscribe past e = some err) :
    Ends topics maxAttempts subscribe events (past ++ [e]) (.error err)

theorem quiet_nil : Quiet topics maxAttempts subscribe [] := by
  intro past e h
  simp at h

/-- One more event that does not stop the run. -/
theorem Quiet.append_singleton (hq : Quiet topics maxAttempts subscribe past)
    (he : stop? topics maxAttempts subscribe past e = none) :
    Quiet topics maxAttempts subscribe (past ++ [e]) := by
  intro before x h
  rcases List.prefix_concat_iff.1 h with h | h
  · obtain ⟨rfl, hx⟩ := List.append_inj' h rfl
    obtain rfl := List.singleton_inj.1 hx
    exact he
  · exact hq before x h

@[simp] theorem messages_append_singleton (past : List Event) (e : Event) :
    messages (past ++ [e]) = messages past ++ e.message?.toList := by
  cases e <;> simp [messages, Event.message?]

@[simp] theorem losses_connected (past : List Event) : losses (past ++ [.connected]) = 0 := by
  simp [losses]

@[simp] theorem losses_lost (past : List Event) (reason : String) :
    losses (past ++ [.lost reason]) = losses past + 1 := by
  simp [losses, List.countP_cons_of_pos (p := Event.isLost) (a := .lost reason) rfl]

@[simp] theorem losses_message (past : List Event) (m : Message) :
    losses (past ++ [.message m]) = losses past := by
  simp [losses, Event.isLost]

@[simp] theorem losses_other (past : List Event) : losses (past ++ [.other]) = losses past := by
  simp [losses, Event.isLost]

example : losses [.lost "a", .connected, .lost "b", .other, .lost "c"] = 2 := by decide

/-! ### One event -/

/-- What the pump does with one event: the progress behind it, and why the run ends, if it does. -/
def step (topics : List String) (maxAttempts : Nat) (subscribe : Subscriptions) (p : Progress) :
    Event → Progress × Except Error Unit
  | .connected => subscribeAll subscribe { p with attempts := 0 } topics
  | .message m => ({ p with delivered := m :: p.delivered }, .ok ())
  | .other => (p, .ok ())
  | .lost reason =>
    if maxAttempts ≤ p.attempts then (p, .error (.exhausted p.attempts reason))
    else ({ p with attempts := p.attempts + 1 }, .ok ())

/-- The pump goes on behind an event, or ends with it. -/
theorem pump_cons (events : List Event) :
    pump topics maxAttempts subscribe p (e :: events) =
      match step topics maxAttempts subscribe p e with
      | (p', .ok _) => pump topics maxAttempts subscribe p' events
      | (p', .error err) => p'.report (.error err) := by
  cases e with
  | connected | message | other => rfl
  | lost reason =>
    by_cases h : maxAttempts ≤ p.attempts
    · simp [pump, step, h]
    · simp [pump, step, h]

/-- Subscribing delivers nothing. -/
theorem subscribeAll_delivered (p : Progress) (topics : List String) :
    (subscribeAll subscribe p topics).1.delivered = p.delivered := by
  induction topics generalizing p with
  | nil => rfl
  | cons topic rest ih =>
    rw [subscribeAll]
    split
    · rfl
    · rw [ih]

/-- An event delivers its message, if it has one. -/
theorem step_delivered (topics : List String) (maxAttempts : Nat) (subscribe : Subscriptions)
    (p : Progress) (e : Event) :
    (step topics maxAttempts subscribe p e).1.delivered = e.message?.toList ++ p.delivered := by
  cases e with
  | connected => exact subscribeAll_delivered _ topics
  | message | other => rfl
  | lost reason =>
    rw [step]
    split <;> rfl

/-- An event that ends the run is no message. -/
theorem message?_of_step_error {err : Error}
    (h : step topics maxAttempts subscribe p e = (p', .error err)) : e.message? = none := by
  cases e with
  | message => cases h
  | connected | other | lost => rfl

theorem refusal?_cons (topic : String) (rest : List String) (n : Nat) :
    refusal? subscribe (topic :: rest) n =
      match subscribe n topic with
      | some reason => some (.subscribe topic reason)
      | none => refusal? subscribe rest (n + 1) := by
  rw [refusal?, List.zipIdx_cons, List.findSome?_cons]
  cases h : subscribe n topic <;> simp [h, refusal?]

/-- Subscriptions of which none is refused. -/
theorem subscribeAll_of_none (h : refusal? subscribe topics p.calls = none) :
    subscribeAll subscribe p topics = ({ p with
      calls := p.calls + topics.length
      subscribed := topics.reverse ++ p.subscribed }, .ok ()) := by
  induction topics generalizing p with
  | nil => rfl
  | cons topic rest ih =>
    rw [refusal?_cons] at h
    rw [subscribeAll]
    cases hs : subscribe p.calls topic with
    | some reason => simp [hs] at h
    | none =>
      rw [hs] at h
      dsimp only at h ⊢
      rw [ih h]
      simp [Nat.add_assoc, Nat.add_comm 1]

/-- Subscriptions up to the first that is refused. -/
theorem subscribeAll_of_some {err : Error} (h : refusal? subscribe topics p.calls = some err) :
    ∃ p', subscribeAll subscribe p topics = (p', .error err) := by
  induction topics generalizing p with
  | nil => cases h
  | cons topic rest ih =>
    rw [refusal?_cons] at h
    rw [subscribeAll]
    cases hs : subscribe p.calls topic with
    | some reason =>
      rw [hs] at h
      obtain rfl := Option.some.inj h
      exact ⟨_, rfl⟩
    | none =>
      rw [hs] at h
      exact ih (p := { p with calls := p.calls + 1, subscribed := topic :: p.subscribed }) h

/-- **The counters are those of the events so far.** -/
structure Tracks (topics : List String) (maxAttempts : Nat) (p : Progress) (past : List Event) :
    Prop where
  attempts : p.attempts = losses past
  bounded : losses past ≤ maxAttempts
  calls : p.calls = connections past * topics.length
  delivered : p.delivered.reverse = messages past

theorem tracks_start : Tracks topics maxAttempts .start [] :=
  ⟨rfl, Nat.zero_le _, (Nat.zero_mul _).symm, rfl⟩

/-- **An event that does not stop the run** keeps the counters those of the events so far. -/
theorem Tracks.step_of_none (hp : Tracks topics maxAttempts p past)
    (h : stop? topics maxAttempts subscribe past e = none) :
    ∃ p', step topics maxAttempts subscribe p e = (p', .ok ()) ∧
      Tracks topics maxAttempts p' (past ++ [e]) := by
  cases e with
  | connected =>
    rw [stop?, ← hp.calls] at h
    refine ⟨_, subscribeAll_of_none (p := { p with attempts := 0 }) h, ?_⟩
    refine ⟨by simp, by simp, ?_, by simp [hp.delivered, Event.message?]⟩
    simp [connections, hp.calls, Nat.add_mul]
  | message m =>
    refine ⟨_, rfl, by simp [hp.attempts], by simp [hp.bounded], ?_, ?_⟩
    · simp [connections, hp.calls]
    · simp [hp.delivered, Event.message?]
  | other =>
    refine ⟨_, rfl, by simp [hp.attempts], by simp [hp.bounded], ?_, ?_⟩
    · simp [connections, hp.calls]
    · simp [hp.delivered, Event.message?]
  | lost reason =>
    -- As many losses as are allowed would have stopped the run.
    have hne : losses past ≠ maxAttempts := by
      intro heq
      simp [stop?, heq] at h
    have hlt := Nat.lt_of_le_of_ne hp.bounded hne
    refine ⟨{ p with attempts := p.attempts + 1 }, ?_, by simp [hp.attempts], ?_, ?_,
      by simp [hp.delivered, Event.message?]⟩
    · rw [step, if_neg (by rw [hp.attempts]; omega)]
    · rw [losses_lost]
      omega
    · simp [connections, hp.calls]

/-- **An event that stops the run** stops it for that reason. -/
theorem Tracks.step_of_some {err : Error} (hp : Tracks topics maxAttempts p past)
    (h : stop? topics maxAttempts subscribe past e = some err) :
    ∃ p', step topics maxAttempts subscribe p e = (p', .error err) := by
  cases e with
  | connected =>
    rw [stop?, ← hp.calls] at h
    exact subscribeAll_of_some (p := { p with attempts := 0 }) h
  | message | other => cases h
  | lost reason =>
    rw [stop?] at h
    split at h
    · rename_i heq
      obtain rfl := Option.some.inj h
      exact ⟨p, by rw [step, hp.attempts, heq, if_pos (Nat.le_refl _)]⟩
    · cases h

/-! ### A whole script -/

/-- **The pump ends as the script says,** having delivered the messages that it has taken. -/
theorem pump_ends (hp : Tracks topics maxAttempts p past)
    (hq : Quiet topics maxAttempts subscribe past) (events : List Event) :
    ∃ consumed, Ends topics maxAttempts subscribe (past ++ events) consumed
        (pump topics maxAttempts subscribe p events).result ∧
      (pump topics maxAttempts subscribe p events).delivered = messages consumed := by
  induction events generalizing p past with
  | nil =>
    rw [List.append_nil]
    exact ⟨past, .cancelled hq, hp.delivered⟩
  | cons e events ih =>
    rw [pump_cons]
    cases h : stop? topics maxAttempts subscribe past e with
    | none =>
      obtain ⟨p', hstep, hp'⟩ := hp.step_of_none h
      rw [hstep, List.append_cons]
      exact ih hp' (hq.append_singleton h)
    | some err =>
      obtain ⟨p', hstep⟩ := hp.step_of_some h
      have hdelivered : p'.delivered = e.message?.toList ++ p.delivered := by
        rw [← step_delivered topics maxAttempts subscribe p e, hstep]
      rw [hstep]
      refine ⟨past ++ [e], .stopped rfl hq h, ?_⟩
      rw [messages_append_singleton, ← hp.delivered]
      simp [Progress.report, hdelivered, message?_of_step_error hstep]

/-- What was delivered before is delivered in the end. -/
theorem delivered_isPrefix (p : Progress) (events : List Event) :
    p.delivered.reverse <+: (pump topics maxAttempts subscribe p events).delivered := by
  induction events generalizing p with
  | nil => exact List.prefix_rfl
  | cons e events ih =>
    rw [pump_cons]
    have hdelivered : p.delivered.reverse <+:
        (step topics maxAttempts subscribe p e).1.delivered.reverse := by
      rw [step_delivered, List.reverse_append]
      exact List.prefix_append _ _
    split
    · rename_i p' _ hstep
      rw [hstep] at hdelivered
      exact hdelivered.trans (ih p')
    · rename_i p' err hstep
      rw [hstep] at hdelivered
      exact hdelivered

end Listener
end Bus
end SoilWatch
