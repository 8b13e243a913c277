/-
# Names and addresses do not overwrite each other

A device is renamed by two steps: its owner is looked up, and the name is set in a second
transaction.  It is completed by one transaction, which binds the address and consumes the contract.
A completion can come between the two steps of a renaming.  Nothing is lost by it: what a renaming
looks at and what it writes is not what a completion writes, and the other way round, so each goes as
it would have gone without the other (`inStep_rename`, `inStep_completeDevice`).

So under every schedule the names are those that the renamings alone make, and the addresses and
contracts those that the completions alone make, each in their order.
-/

import SoilWatch.Proofs.Service.Alone
import SoilWatch.Proofs.Store.Forgetting

namespace SoilWatch

namespace Store

/-- Whether a step of a run is a renaming, or no operation. -/
def Action.renames : Action → Bool
  | .call (.rename ..) => true
  | .call _ => false
  | _ => true

/-- Whether a step of a run is a completion, or no operation. -/
def Action.completes : Action → Bool
  | .call (.completeDevice ..) => true
  | .call _ => false
  | _ => true

/-- Whether an operation renames or completes a device. -/
def Operation.Provisions (op : Operation) : Prop :=
  (Action.call op).renames ∨ (Action.call op).completes

/-- What is seen of the store behind a run is due to the steps on which it depends. -/
theorem after_filter {ν : Type} {view : Store → ν} {kept : Action → Bool} {run : List Action}
    (hkept : ∀ a, kept a = true → ∀ s s', view s = view s' → view (a.act s) = view (a.act s'))
    (hleft : ∀ a ∈ run, kept a = false → ∀ s, view (a.act s) = view s) {s s' : Store}
    (hs : view s = view s') : view (s.after run) = view (s'.after (run.filter kept)) := by
  induction run generalizing s s' with
  | nil => exact hs
  | cons a run ih =>
    have hrest := @ih fun b hb => hleft b (List.mem_cons_of_mem _ hb)
    cases ha : kept a with
    | true =>
      rw [List.filter_cons_of_pos ha]
      exact hrest (hkept a ha s s' hs)
    | false =>
      rw [List.filter_cons_of_neg (by simp [ha])]
      exact hrest ((hleft a List.mem_cons_self ha s).trans hs)

/-- **The names behind a run of renamings and completions are those that the renamings make,** in
their order. -/
theorem unbound_after_renames {run : List Action} (hrun : ∀ op, .call op ∈ run → op.Provisions)
    (s : Store) : (s.after run).unbound = (s.after (run.filter Action.renames)).unbound := by
  refine after_filter (fun a ha s s' hs => ?_) (fun a hmem ha s => ?_) rfl
  · cases a with
    | call op =>
      cases op with
      | rename deviceId name => exact (alike_of_strip (rename_unbound deviceId name) hs).2
      | _ => cases ha
    | reopen => exact hs
    | refuse events => exact unbound_refuse hs events
  · cases a with
    | call op =>
      have hop := (hrun op hmem).resolve_left (by simp [ha])
      cases op with
      | completeDevice => exact unbound_completeDevice
      | _ => cases hop
    | reopen | refuse => cases ha

/-- **The addresses and contracts behind a run of renamings and completions are those that the
completions make,** in their order. -/
theorem unnamed_after_completes {run : List Action} (hrun : ∀ op, .call op ∈ run → op.Provisions)
    (s : Store) : (s.after run).unnamed = (s.after (run.filter Action.completes)).unnamed := by
  refine after_filter (fun a ha s s' hs => ?_) (fun a hmem ha s => ?_) rfl
  · cases a with
    | call op =>
      cases op with
      | completeDevice contract address =>
        exact (alike_of_strip (completeDevice_unnamed contract address) hs).2
      | _ => cases ha
    | reopen => exact hs
    | refuse events => exact unnamed_refuse hs events
  · cases a with
    | call op =>
      have hop := (hrun op hmem).resolve_right (by simp [ha])
      cases op with
      | rename => exact unnamed_rename
      | _ => cases hop
    | reopen | refuse => cases ha

end Store

namespace Service

open SoilWatch.Flow

/-- Whether a task renames a device. -/
def Task.renames : Task → Bool
  | .request (.rename ..) => true
  | _ => false

/-- Whether a task completes a device. -/
def Task.completes : Task → Bool
  | .request (.completeDevice ..) => true
  | _ => false

/-- The result of a task with another device in the place of that with which it ends. -/
def Task.strip (f : Device → Device) : (t : Task) → t.Result → t.Result
  | .request (.rename ..), r => r.map f
  | .request (.completeDevice ..), r => r.map f
  | _, r => r

/-- An operation that answers alike and leaves alike what is seen keeps calls in step. -/
theorem inStep_onStore {ν α γ : Type} {view : Store → ν} {g : α → γ} {operation : String}
    {t : Store → Except Store.Error α × Store}
    (ht : ∀ s s', view s = view s' →
      (t s).1.map g = (t s').1.map g ∧ view (t s).2 = view (t s').2) :
    InStep (fun s : System => view s.store) g (onStore operation t) (onStore operation t) := by
  have htry : InStep (fun s : System => view s.store) (Except.map g)
      (tryStore t : Call _) (tryStore t) :=
    .step (fun s s' hs => (ht _ _ hs).2) fun s s' hs => inStep_pure (ht _ _ hs).1
  refine htry.bind fun r r' hr => ?_
  rcases r with e | a <;> rcases r' with e' | a'
  · rw [Except.error.inj hr]
    exact inStep_fail _
  · cases hr
  · cases hr
  · exact inStep_pure (Except.ok.inj hr)

namespace Provisioning

theorem inStep_displayName {ν : Type} {view : System → ν} (name : String) :
    InStep view id (displayName name) (displayName name) := by
  unfold displayName
  dsimp only
  split
  · exact inStep_fail _
  · exact inStep_pure rfl

theorem inStep_device (who : Caller) (deviceId : Int) :
    InStep (fun s : System => s.store.unbound) Device.unbound (device who deviceId)
      (device who deviceId) := by
  have hwho : InStep (fun s : System => s.store.unbound) id (requireUser who) (requireUser who) := by
    cases who with
    | none => exact inStep_fail _
    | some userId => exact inStep_pure rfl
  have hlook : InStep (fun s : System => s.store.unbound) (Option.map Device.unbound)
      (lookStore (·.deviceById? deviceId)) (lookStore (·.deviceById? deviceId)) := by
    refine inStep_look fun s s' hs => ?_
    rw [← Store.deviceById?_unbound, ← Store.deviceById?_unbound, hs]
  refine hwho.bind fun userId userId' hu => hlook.bind fun d? d?' hd => ?_
  obtain rfl : userId = userId' := hu
  rcases d? with _ | d <;> rcases d?' with _ | d'
  · exact inStep_fail _
  · cases hd
  · cases hd
  · have hd : d.unbound = d'.unbound := Option.some.inj hd
    have howner : d.userId = d'.userId := (congrArg Device.userId hd :)
    by_cases hd' : d.userId = userId
    · simp only [Option.filter, howner ▸ hd', hd', decide_true, if_true]
      exact inStep_pure hd
    · simp only [Option.filter, howner ▸ hd', hd', decide_false]
      exact inStep_fail _

/-- **A renaming goes its way whatever becomes of addresses and contracts.** -/
theorem inStep_rename (who : Caller) (deviceId : Int) (name : String) :
    InStep (fun s : System => s.store.unbound) Device.unbound (rename who deviceId name)
      (rename who deviceId name) := by
  refine (inStep_displayName name).bind fun name name' hname =>
    (inStep_device who deviceId).bind fun d d' hd => ?_
  obtain rfl : name = name' := hname
  refine (inStep_onStore fun s s' hs =>
    Store.alike_of_strip (Store.rename_unbound deviceId name) hs).bind fun b b' hb => ?_
  obtain rfl : b = b' := hb
  split
  · exact inStep_pure (congrArg (fun d : Device => { d with displayName := name }) hd)
  · exact inStep_fail _

/-- **A completion goes its way whatever becomes of names.** -/
theorem inStep_completeDevice (address contract : String) :
    InStep (fun s : System => s.store.unnamed) Device.unnamed (completeDevice address contract)
      (completeDevice address contract) := by
  refine (inStep_onStore fun s s' hs =>
    Store.alike_of_strip (Store.completeDevice_unnamed contract address) hs).bind fun o o' ho => ?_
  cases o with
  | completed d =>
    cases o' with
    | completed d' => exact inStep_pure (Store.Outcome.completed.inj ho)
    | _ => cases ho
  | unknownContract =>
    cases o' with
    | unknownContract => exact inStep_fail _
    | _ => cases ho
  | addressInUse other =>
    cases o' with
    | addressInUse other' =>
      obtain rfl : other = other' := Store.Outcome.addressInUse.inj ho
      exact inStep_fail _
    | _ => cases ho

theorem endsWithin_onStore {α : Type} (operation : String)
    (t : Store → Except Store.Error α × Store) : (onStore operation t).EndsWithin 1 := by
  have htry : (tryStore t : Call _).EndsWithin 1 := endsWithin_atomically _
  refine htry.bind (n := 0) fun r => ?_
  cases r with
  | ok a => exact endsWithin_pure 0 a
  | error e => exact endsWithin_fail 0 _

theorem endsWithin_device (who : Caller) (deviceId : Int) :
    (device who deviceId).EndsWithin 1 := by
  cases who with
  | none => exact endsWithin_fail 1 _
  | some userId =>
    refine (endsWithin_look _).bind (n := 0) fun d? => ?_
    split
    · exact endsWithin_pure 0 _
    · exact endsWithin_fail 0 _

theorem endsWithin_rename (who : Caller) (deviceId : Int) (name : String) :
    (rename who deviceId name).EndsWithin 2 := by
  have hname : (displayName name).EndsWithin 0 := by
    unfold displayName
    dsimp only
    split
    · exact endsWithin_fail 0 _
    · exact endsWithin_pure 0 _
  refine hname.bind fun name => (endsWithin_device who deviceId).bind fun d =>
    (endsWithin_onStore "rename_device" _).bind (n := 0) fun renamed => ?_
  split
  · exact endsWithin_pure 0 _
  · exact endsWithin_fail 0 _

theorem endsWithin_completeDevice (address contract : String) :
    (completeDevice address contract).EndsWithin 1 := by
  refine (endsWithin_onStore "complete_device_provision" _).bind (n := 0) fun outcome => ?_
  split
  · exact endsWithin_pure 0 _
  · exact endsWithin_fail 0 _
  · exact endsWithin_fail 0 _

end Provisioning

/-! ### Renamings and completions as tasks -/

namespace Task

variable {t : Task} {setup : Setup}

theorem eq_of_renames (h : t.renames = true) :
    ∃ who deviceId name, t = .request (.rename who deviceId name) := by
  cases t with
  | message => cases h
  | request r =>
    cases r with
    | rename who deviceId name => exact ⟨who, deviceId, name, rfl⟩
    | _ => cases h

theorem eq_of_completes (h : t.completes = true) :
    ∃ address contract, t = .request (.completeDevice address contract) := by
  cases t with
  | message => cases h
  | request r =>
    cases r with
    | completeDevice address contract => exact ⟨address, contract, rfl⟩
    | _ => cases h

/-- Operations that leave what is seen of the store are steps that do. -/
theorem every_leaves {ν : Type} {view : Store → ν} (t : Task)
    (h : ∀ op, t.Uses op → ∀ s, view (op.run s).2 = view s) :
    (t.call setup).Every fun act => ∀ s, view (act s).store = view s.store := by
  refine (t.operates setup h).mono ?_
  rintro act (hact | ⟨op, hop, hact⟩) s
  · rw [hact]
  · rw [hact]
    exact hop s.store

/-- A renaming or a completion uses no other operation. -/
theorem Uses.provisions {op : Store.Operation} (h : t.Uses op)
    (ht : t.renames = true ∨ t.completes = true) : op.Provisions := by
  rcases ht with ht | ht
  · obtain ⟨who, deviceId, name, rfl⟩ := eq_of_renames ht
    cases h with
    | request h =>
      cases h
      exact .inl rfl
  · obtain ⟨address, contract, rfl⟩ := eq_of_completes ht
    cases h with
    | request h =>
      cases h
      exact .inr rfl

/-- Renamings go their way whatever completions do. -/
theorem fits_renames (ht : t.renames = true ∨ t.completes = true) :
    t.Fits setup Store.unbound renames (strip Device.unbound) where
  own h := by
    obtain ⟨who, deviceId, name, rfl⟩ := eq_of_renames h
    exact (Provisioning.inStep_rename who deviceId name).attempt
  other h := by
    obtain ⟨address, contract, rfl⟩ := eq_of_completes (ht.resolve_left (by simp [h]))
    refine every_leaves _ fun op hop s => ?_
    cases hop with
    | request hop =>
      cases hop
      exact Store.unbound_completeDevice

/-- Completions go their way whatever renamings do. -/
theorem fits_completes (ht : t.renames = true ∨ t.completes = true) :
    t.Fits setup Store.unnamed completes (strip Device.unnamed) where
  own h := by
    obtain ⟨address, contract, rfl⟩ := eq_of_completes h
    exact (Provisioning.inStep_completeDevice address contract).attempt
  other h := by
    obtain ⟨who, deviceId, name, rfl⟩ := eq_of_renames (ht.resolve_right (by simp [h]))
    refine every_leaves _ fun op hop s => ?_
    cases hop with
    | request hop =>
      cases hop
      exact Store.unnamed_rename

/-- A renaming or a completion takes two steps at most. -/
theorem endsWithin_two (ht : t.renames = true ∨ t.completes = true) :
    (t.call setup).EndsWithin 2 := by
  rcases ht with ht | ht
  · obtain ⟨who, deviceId, name, rfl⟩ := eq_of_renames ht
    exact (Provisioning.endsWithin_rename who deviceId name).attempt
  · obtain ⟨address, contract, rfl⟩ := eq_of_completes ht
    exact (Provisioning.endsWithin_completeDevice address contract).attempt.mono (by decide)

end Task

section Pools

variable {setup : Setup} {s : System} {schedule : List Move}
  (hstart : ∀ t, .start t ∈ schedule → t.renames ∨ t.completes)
include hstart

/-- **A pool shows what the renamings alone have done.** -/
theorem shows_renames : ((Pool.fresh s).run setup schedule).Shows Store.unbound Task.renames
    (Task.strip Device.unbound) ((Pool.fresh s).runOnly Task.renames setup schedule) :=
  (Pool.shows_fresh s).run (fun t ht => Task.fits_renames (hstart t ht))
    fun _ _ events h => Store.unbound_refuse h events

/-- **A pool shows what the completions alone have done.** -/
theorem shows_completes : ((Pool.fresh s).run setup schedule).Shows Store.unnamed Task.completes
    (Task.strip Device.unnamed) ((Pool.fresh s).runOnly Task.completes setup schedule) :=
  (Pool.shows_fresh s).run (fun t ht => Task.fits_completes (hstart t ht))
    fun _ _ events h => Store.unnamed_refuse h events

/-- The transactions of a schedule are renamings and completions. -/
theorem runs_provisions : ∃ run, Pool.Runs setup (Pool.fresh s) schedule run ∧
    ∀ op, .call op ∈ run → op.Provisions :=
  (Pool.keepsTo_fresh _ s).runs fun t ht =>
    t.operates setup fun _ hop => hop.provisions (hstart t ht)

end Pools

/-- **Names and addresses do not overwrite each other.**  Let only renamings and completions of
devices begin, from any state and under any schedule.  Then there is a run of the transactions that
were committed or failed, and behind it the store is, but for addresses and contracts, the one that
its renamings make of the first store in their order, and but for names, the one that its completions
make.  It is also the one that the schedule makes when only the renamings, or only the completions,
take their steps; and a renaming is answered as among renamings but for the address of its device, a
completion as among completions but for the name.  Step by step, no renaming changes an address or a
contract, and no completion a name.  A renaming or a completion that is advanced twice has ended. -/
theorem names_and_addresses_apart (setup : Setup) (s : System) (schedule : List Move)
    (hstart : ∀ t, .start t ∈ schedule → t.renames ∨ t.completes) :
    let start := Pool.fresh s
    let pool := start.run setup schedule
    let renamed := start.runOnly Task.renames setup schedule
    let completed := start.runOnly Task.completes setup schedule
    (∃ run, Pool.Runs setup start schedule run ∧ pool.system.store = s.store.after run ∧
      pool.system.store.unbound = (s.store.after (run.filter Store.Action.renames)).unbound ∧
      pool.system.store.unnamed = (s.store.after (run.filter Store.Action.completes)).unnamed) ∧
    pool.system.store.unbound = renamed.system.store.unbound ∧
    pool.system.store.unnamed = completed.system.store.unnamed ∧
    pool.SameAnswers Task.renames (Task.strip Device.unbound) renamed ∧
    pool.SameAnswers Task.completes (Task.strip Device.unnamed) completed ∧
    (∀ before i after t x, schedule = before ++ .advance i :: after →
      let here := start.run setup before
      let next := here.move setup (.advance i)
      here.calls[i]? = some ⟨t, x⟩ →
        (t.renames → next.system.store.unnamed = here.system.store.unnamed) ∧
        (t.completes → next.system.store.unbound = here.system.store.unbound)) ∧
    ∀ before after i t, schedule = before ++ after → (t.renames ∨ t.completes) →
      (start.run setup before).calls[i]? = some ⟨t, t.call setup⟩ →
      2 ≤ after.countP (Move.advances i) → ∃ r, pool.Ended i t r := by
  intro start pool renamed completed
  have hrenamed := @shows_renames setup s schedule hstart
  have hcompleted := @shows_completes setup s schedule hstart
  refine ⟨?_, hrenamed.seen, hcompleted.seen, hrenamed.sameAnswers, hcompleted.sameAnswers, ?_, ?_⟩
  · obtain ⟨run, hrun, hops⟩ := runs_provisions hstart
    have hstore : pool.system.store = s.store.after run := hrun.store
    refine ⟨run, hrun, hstore, ?_, ?_⟩
    · rw [hstore, Store.unbound_after_renames hops]
    · rw [hstore, Store.unnamed_after_completes hops]
  · rintro before i after t x rfl here next hi
    have hbefore : ∀ t, .start t ∈ before → t.renames ∨ t.completes :=
      fun t ht => hstart t (List.mem_append_left _ ht)
    constructor
    · intro ht
      obtain ⟨who, deviceId, name, rfl⟩ := Task.eq_of_renames ht
      exact (shows_completes hbefore).kept hi rfl
    · intro ht
      obtain ⟨address, contract, rfl⟩ := Task.eq_of_completes ht
      exact (shows_renames hbefore).kept hi rfl
  · rintro before after i t rfl ht hi hn
    exact Pool.ended_of_advanced_since (Task.endsWithin_two ht) hi hn

/-- Ann has created a device. -/
def fern : System :=
  ⟨Store.empty.after [.call (.createUser "ann@example.com" "hash" "Ann" .epoch),
    .call (.createDevice 1 "Fern" "c1")], .empty, []⟩

/-- Ann renames the device, and it is completed between the two steps of the renaming. -/
def completedAmidRenaming : List Move :=
  [.start (.request (.rename (some 1) 1 "Ivy")), .start (.request (.completeDevice "aa:bb" "c1")),
    .advance 0, .advance 1, .advance 0]

/-- The device has its new name and its address. -/
theorem renamed_and_completed :
    (∀ t, .start t ∈ completedAmidRenaming → t.renames ∨ t.completes) ∧
    let pool := (Pool.fresh fern).run .standard completedAmidRenaming
    pool.system.store.unbound =
      ((Pool.fresh fern).runOnly Task.renames .standard completedAmidRenaming).system.store.unbound ∧
    pool.system.store.unnamed =
      ((Pool.fresh fern).runOnly Task.completes .standard completedAmidRenaming).system.store.unnamed ∧
    pool.system.store.devices = [⟨1, 1, some "aa:bb", "Ivy"⟩] ∧ pool.system.store.staging = [] := by
  have hstart : ∀ t, .start t ∈ completedAmidRenaming → t.renames ∨ t.completes := by
    intro t ht
    simp only [completedAmidRenaming, List.mem_cons, Move.start.injEq, reduceCtorEq, or_false,
      List.not_mem_nil] at ht
    rcases ht with rfl | rfl
    · exact .inl rfl
    · exact .inr rfl
  obtain ⟨-, hnames, haddresses, -⟩ :=
    names_and_addresses_apart .standard fern completedAmidRenaming hstart
  exact ⟨hstart, hnames, haddresses, by decide, by decide⟩

end Service
end SoilWatch
