/-
# The life of a device

A device is created with a contract and without an address; completing it gives it an address and
takes the contract away.  The two tables that hold this are written by different statements, so what
joins them is an invariant: a device has exactly one contract as long as it has no address, none
afterwards, and no contract is out for a device that is not there (`Lifecycle`).

`DeviceStep` lists what a committed operation can do to the two tables.  Each of its four cases
keeps the invariant (`Lifecycle.step`), and under the invariant no case takes a device away, gives
it to another user or changes its address once it has one (`Lifecycle.kept`).  The contract of a
device is therefore consumed once: `Lifecycle.completed` says that a device is without an address
before it is completed and has one afterwards, so it is completed at most once in a run.

The last theorem puts this together for every run of the store, and for every interleaving of
requests and messages.
-/

import SoilWatch.Proofs.Service.Interleaving

namespace SoilWatch
namespace Store

variable {s s' s'' : Store}

/-- The contracts that are out for a device. -/
def contractsOf (s : Store) (id : Int) : List StagingRow :=
  s.staging.filter (·.deviceId = id)

/-- A device is in one of its two phases: without an address and with one contract, or with an
address and without a contract. -/
def InPhase (s : Store) (d : Device) : Prop :=
  (d.address = none ∧ (s.contractsOf d.id).length = 1) ∨
    (d.address ≠ none ∧ s.contractsOf d.id = [])

/-- What holds of devices and contracts at all times. -/
structure Lifecycle (s : Store) : Prop where
  nodup : (s.devices.map (·.id)).Nodup
  numbered : ∀ d ∈ s.devices, d.id ≤ s.counters.devices
  inPhase : ∀ d ∈ s.devices, s.InPhase d
  owned : ∀ r ∈ s.staging, ∃ d ∈ s.devices, d.id = r.deviceId

/-- Every device is still there later, belongs to the same user, and has the same address if it had
one. -/
def KeepsDevices (s s' : Store) : Prop :=
  ∀ d ∈ s.devices, ∃ d' ∈ s'.devices,
    d'.id = d.id ∧ d'.userId = d.userId ∧ ∀ a, d.address = some a → d'.address = some a

theorem KeepsDevices.refl (s : Store) : s.KeepsDevices s :=
  fun d hd => ⟨d, hd, rfl, rfl, fun _ h => h⟩

theorem KeepsDevices.trans (h : s.KeepsDevices s') (h' : s'.KeepsDevices s'') :
    s.KeepsDevices s'' := by
  intro d hd
  obtain ⟨d₁, hd₁, hid₁, hu₁, ha₁⟩ := h d hd
  obtain ⟨d₂, hd₂, hid₂, hu₂, ha₂⟩ := h' d₁ hd₁
  exact ⟨d₂, hd₂, hid₂.trans hid₁, hu₂.trans hu₁, fun a ha => ha₂ a (ha₁ a ha)⟩

/-! ### What a step can do -/

/-- The device that an operation completed. -/
def Record.completed? : Record → Option Int
  | ⟨.completeDevice .., .ok (.completed d)⟩ => some d.id
  | _ => none

/-- The devices that were completed, in order. -/
def completions (h : List Record) : List Int :=
  h.filterMap Record.completed?

/-- What an operation can do to devices and contracts, and which device it completes. -/
inductive DeviceStep (s s' : Store) : Option Int → Prop where
  | same (hd : SameTable s s' .devices) (hs : SameTable s s' .staging) : DeviceStep s s' none
  | created (userId : Int) (displayName contract : String)
      (h : s' = s.addDevice userId displayName contract) : DeviceStep s s' none
  | bound (staged : StagingRow) (address : String) (hs : staged ∈ s.staging)
      (h : s' = s.bindAddress staged.deviceId address) : DeviceStep s s' (some staged.deviceId)
  | renamed (id : Int) (displayName : String) (h : s' = s.setName id displayName) :
      DeviceStep s s' none

/-- **A committed operation takes one of the four steps.** -/
theorem Operation.deviceStep {op : Operation} {a : op.Answer} (h : op.run s = (.ok a, s')) :
    DeviceStep s s' (Record.completed? ⟨op, .ok a⟩) := by
  cases op with
  | createDevice userId displayName contract =>
    obtain ⟨-, -, -, -, -, rfl⟩ := createDevice_eq_ok.1 h
    exact .created _ _ _ rfl
  | completeDevice contract address =>
    rcases completeDevice_eq_ok.1 h with _ | _ | @⟨staged, d, hc, -, -, -, hf⟩
    · exact .same (.refl s _) (.refl s _)
    · exact .same (.refl s _) (.refl s _)
    · have hid : d.id = staged.deviceId := by simpa using List.find?_some hf
      show DeviceStep s _ (some d.id)
      rw [hid]
      exact .bound staged address (List.mem_of_find?_eq_some hc) rfl
  | rename id displayName =>
    obtain ⟨-, -, rfl⟩ := rename_eq_ok.1 h
    exact .renamed _ _ rfl
  | _ =>
    exact .same (run_same h (by simp [writes])) (run_same h (by simp [writes]))

/-! ### What a step keeps -/

theorem contractsOf_bindAddress (s : Store) (id id' : Int) (address : String) :
    (s.bindAddress id address).contractsOf id' = if id' = id then [] else s.contractsOf id' := by
  simp only [contractsOf, bindAddress, List.filter_filter]
  split
  · subst id'
    simp
  · refine List.filter_congr fun r _ => ?_
    by_cases hr : r.deviceId = id' <;> simp_all

theorem contractsOf_addDevice (s : Store) (userId : Int) (displayName contract : String)
    (id : Int) : (s.addDevice userId displayName contract).contractsOf id =
      s.contractsOf id ++ if id = s.counters.devices + 1 then [⟨id, contract⟩] else [] := by
  simp only [contractsOf, addDevice, List.filter_append]
  congr 1
  split
  · subst id
    simp
  · simp [Ne.symm ‹_›]

/-- A device with a contract has no address. -/
theorem Lifecycle.address_eq_none (hs : s.Lifecycle) {d : Device} {r : StagingRow}
    (hd : d ∈ s.devices) (hr : r ∈ s.staging) (h : r.deviceId = d.id) : d.address = none := by
  rcases hs.inPhase d hd with ⟨ha, -⟩ | ⟨-, hc⟩
  · exact ha
  · have hmem : r ∈ s.contractsOf d.id := List.mem_filter.2 ⟨hr, by simpa using h⟩
    rw [hc] at hmem
    cases hmem

/-- The number of a device tells it from all others. -/
theorem Lifecycle.eq_of_id_eq (hs : s.Lifecycle) {d d' : Device} (hd : d ∈ s.devices)
    (hd' : d' ∈ s.devices) (h : d.id = d'.id) : d = d' :=
  List.inj_on_of_nodup_map hs.nodup hd hd' h

theorem lifecycle_empty : Store.empty.Lifecycle :=
  ⟨List.nodup_nil, nofun, nofun, nofun⟩

/-- Changing rows without renumbering them keeps the invariant if every changed row is in a phase
and no contract is added. -/
theorem Lifecycle.mapped (hs : s.Lifecycle) {f : Device → Device} (hf : ∀ d, (f d).id = d.id)
    (hd : s'.devices = s.devices.map f) (hn : s'.counters.devices = s.counters.devices)
    (hc : s'.staging ⊆ s.staging) (hp : ∀ d ∈ s.devices, s'.InPhase (f d)) : s'.Lifecycle := by
  refine ⟨?_, ?_, ?_, ?_⟩
  · rw [hd, List.map_map, show (fun d : Device => d.id) ∘ f = (·.id) from funext hf]
    exact hs.nodup
  · rw [hd, hn, List.forall_mem_map]
    exact fun d h => hf d ▸ hs.numbered d h
  · rw [hd, List.forall_mem_map]
    exact hp
  · intro r hr
    obtain ⟨d, h, hid⟩ := hs.owned r (hc hr)
    exact ⟨f d, hd ▸ List.mem_map_of_mem h, (hf d).trans hid⟩

/-- A device that is created gets a number that no device and no contract had. -/
theorem Lifecycle.addDevice (hs : s.Lifecycle) (userId : Int) (displayName contract : String) :
    (s.addDevice userId displayName contract).Lifecycle := by
  have hfresh : ∀ d ∈ s.devices, d.id ≠ s.counters.devices + 1 := by
    intro d hd h
    have := hs.numbered d hd
    omega
  have hnone : s.contractsOf (s.counters.devices + 1) = [] := by
    refine List.filter_eq_nil_iff.2 fun r hr h => ?_
    obtain ⟨d, hd, hid⟩ := hs.owned r hr
    exact hfresh d hd (hid.trans (by simpa using h))
  refine ⟨?_, ?_, ?_, ?_⟩
  · show ((s.devices ++ [s.newDevice userId displayName]).map (·.id)).Nodup
    rw [List.map_append, List.nodup_append]
    refine ⟨hs.nodup, List.nodup_singleton _, ?_⟩
    simp only [List.mem_map, List.map_singleton, List.mem_singleton]
    rintro _ ⟨d, hd, rfl⟩ _ rfl
    exact hfresh d hd
  · intro d hd
    rcases List.mem_append.1 hd with h | h
    · have := hs.numbered d h
      show d.id ≤ s.counters.devices + 1
      omega
    · rw [List.mem_singleton.1 h]
      exact Int.le_refl _
  · intro d hd
    rw [InPhase, contractsOf_addDevice]
    rcases List.mem_append.1 hd with h | h
    · rw [if_neg (hfresh d h), List.append_nil]
      exact hs.inPhase d h
    · obtain rfl := List.mem_singleton.1 h
      left
      simp [newDevice, hnone]
  · intro r hr
    rcases List.mem_append.1 hr with h | h
    · obtain ⟨d, hd, hid⟩ := hs.owned r h
      exact ⟨d, List.mem_append_left _ hd, hid⟩
    · rw [List.mem_singleton.1 h]
      exact ⟨s.newDevice userId displayName,
        List.mem_append_right _ (List.mem_singleton_self _), rfl⟩

/-- **A step keeps the invariant.** -/
theorem Lifecycle.step (hs : s.Lifecycle) {c : Option Int} (h : DeviceStep s s' c) :
    s'.Lifecycle := by
  cases h with
  | same hd hc =>
    refine hs.mapped (f := id) (fun _ => rfl) (by rw [List.map_id]; exact hd.1) hd.2
      (fun r hr => by rwa [← show s'.staging = s.staging from hc]) fun d h => ?_
    rw [InPhase, contractsOf, show s'.staging = s.staging from hc]
    exact hs.inPhase d h
  | created userId displayName contract h =>
    subst h
    exact hs.addDevice userId displayName contract
  | bound staged address hr h =>
    subst h
    refine hs.mapped
      (f := fun d => if d.id = staged.deviceId then { d with address := some address } else d)
      (fun d => by split <;> rfl) rfl rfl (List.filter_subset_self _) fun d h => ?_
    rw [InPhase, contractsOf_bindAddress]
    by_cases hid : d.id = staged.deviceId
    · right
      simp [hid]
    · simp only [hid, if_false]
      exact hs.inPhase d h
  | renamed id displayName h =>
    subst h
    refine hs.mapped (f := fun d => if d.id = id then { d with displayName } else d)
      (fun d => by split <;> rfl) rfl rfl (List.Subset.refl _) fun d h => ?_
    rcases hs.inPhase d h with hp | hp
    · left
      by_cases hid : d.id = id <;> simpa [hid, contractsOf, setName] using hp
    · right
      by_cases hid : d.id = id <;> simpa [hid, contractsOf, setName] using hp

/-- **A step keeps every device,** its owner and an address that it has. -/
theorem Lifecycle.kept (hs : s.Lifecycle) {c : Option Int} (h : DeviceStep s s' c) :
    s.KeepsDevices s' := by
  intro d hd
  cases h with
  | same hsame _ => exact ⟨d, hsame.1 ▸ hd, rfl, rfl, fun _ h => h⟩
  | created userId displayName contract h =>
    subst h
    exact ⟨d, List.mem_append_left _ hd, rfl, rfl, fun _ h => h⟩
  | bound staged address hr h =>
    subst h
    refine ⟨_, List.mem_map_of_mem hd, ?_⟩
    by_cases hid : d.id = staged.deviceId
    · simp [hid, hs.address_eq_none hd hr hid.symm]
    · simp [hid]
  | renamed id displayName h =>
    subst h
    refine ⟨_, List.mem_map_of_mem hd, ?_⟩
    by_cases hid : d.id = id <;> simp [hid]

/-- **A device that a step completes** is without an address before it and has one behind it. -/
theorem Lifecycle.completed (hs : s.Lifecycle) {id : Int} (h : DeviceStep s s' (some id)) :
    (∃ d ∈ s.devices, d.id = id ∧ d.address = none) ∧
      ∃ d ∈ s'.devices, d.id = id ∧ d.address ≠ none := by
  cases h with
  | bound staged address hr h =>
    subst h
    obtain ⟨d, hd, hid⟩ := hs.owned staged hr
    refine ⟨⟨d, hd, hid, hs.address_eq_none hd hr hid.symm⟩, _, List.mem_map_of_mem hd, ?_⟩
    simp [hid]

/-! ### What a run keeps -/

/-- A run keeps the invariant and every device. -/
theorem Lifecycle.after (hs : s.Lifecycle) (run : List Action) :
    (s.after run).Lifecycle ∧ s.KeepsDevices (s.after run) := by
  refine after_induction (P := fun t => t.Lifecycle ∧ s.KeepsDevices t) ⟨hs, .refl s⟩ ?_ ?_ run
  · rintro t op a t' ⟨ht, hk⟩ h
    exact ⟨ht.step (op.deviceStep h), hk.trans (ht.kept (op.deviceStep h))⟩
  · rintro t events ⟨ht, hk⟩
    exact ⟨⟨ht.nodup, ht.numbered, ht.inPhase, ht.owned⟩, hk⟩

/-- **A device is completed at most once,** whatever contracts and addresses are presented.  What
carries the induction is that the devices that were completed so far have an address. -/
theorem Lifecycle.nodup_completions (hs : s.Lifecycle) (run : List Action) :
    (completions (s.history run)).Nodup := by
  refine (history_induction (P := fun h t => t.Lifecycle ∧ (completions h).Nodup ∧
    ∀ id ∈ completions h, ∃ d ∈ t.devices, d.id = id ∧ d.address ≠ none)
    ⟨hs, List.nodup_nil, nofun⟩ ?done ?failed ?refused run).2.1
  case done =>
    rintro h t op a t' ⟨ht, hn, hc⟩ hr
    have hstep := op.deviceStep hr
    have hkept : ∀ id ∈ completions h, ∃ d ∈ t'.devices, d.id = id ∧ d.address ≠ none := by
      intro id hid
      obtain ⟨d, hd, rfl, ha⟩ := hc id hid
      obtain ⟨a, ha⟩ := Option.ne_none_iff_exists'.1 ha
      obtain ⟨d', hd', hid', -, ha'⟩ := ht.kept hstep d hd
      exact ⟨d', hd', hid', by simp [ha' a ha]⟩
    refine ⟨ht.step hstep, ?_⟩
    rw [completions, List.filterMap_append, ← completions]
    cases hcomp : Record.completed? ⟨op, .ok a⟩ with
    | none =>
      simp only [List.filterMap_cons, hcomp, List.filterMap_nil, List.append_nil]
      exact ⟨hn, hkept⟩
    | some id =>
      rw [hcomp] at hstep
      obtain ⟨⟨d, hd, hid, ha⟩, hafter⟩ := ht.completed hstep
      simp only [List.filterMap_cons, hcomp, List.filterMap_nil]
      refine ⟨List.nodup_append.2 ⟨hn, List.nodup_singleton id, ?_⟩, ?_⟩
      · intro id' hid' id'' hid'' heq
        obtain rfl := List.mem_singleton.1 hid''
        obtain ⟨d', hd', hid₁, ha'⟩ := hc id' hid'
        obtain rfl := ht.eq_of_id_eq hd hd' (by rw [hid, hid₁, heq])
        exact ha' ha
      · intro id' hid'
        rcases List.mem_append.1 hid' with h | h
        · exact hkept id' h
        · rw [List.mem_singleton.1 h]
          exact hafter
  case failed =>
    rintro h t op e ⟨ht, hn, hc⟩
    have : completions (h ++ [⟨op, .error e⟩]) = completions h := by
      rw [completions, List.filterMap_append, ← completions]
      cases op <;> exact List.append_nil _
    rw [this]
    exact ⟨ht, hn, hc⟩
  case refused =>
    rintro h t events ⟨ht, hn, hc⟩
    exact ⟨⟨ht.nodup, ht.numbered, ht.inPhase, ht.owned⟩, hn, hc⟩

/-- **The life of a device.**  After every run from the empty store a device is without an address
and has exactly one contract, or has an address and no contract, and every contract belongs to a
device; a later state has all devices of an earlier one, with their owners and the addresses that
were set; and a run completes a device at most once.  The same holds of the states passed through
under every interleaving of requests and messages, and of the run that they go through. -/
theorem device_lifecycle :
    (∀ past future : List Action,
      (Store.empty.after past).Lifecycle ∧
      (Store.empty.after past).KeepsDevices (Store.empty.after (past ++ future)) ∧
      (completions (Store.empty.history (past ++ future))).Nodup) ∧
    ∀ (setup : Setup) (past future : List Service.Move),
      (Service.Pool.empty.run setup past).system.store.Lifecycle ∧
      (Service.Pool.empty.run setup past).system.store.KeepsDevices
        (Service.Pool.empty.run setup (past ++ future)).system.store ∧
      ∃ run, Service.Pool.Runs setup .empty (past ++ future) run ∧
        (completions (Store.empty.history run)).Nodup := by
  refine ⟨fun past future => ?_, fun setup past future => ?_⟩
  · have hpast := (lifecycle_empty.after past).1
    rw [after_append]
    exact ⟨hpast, (hpast.after future).2, lifecycle_empty.nodup_completions _⟩
  · obtain ⟨run, hrun⟩ := Service.Pool.stepwise_empty.runs setup past
    obtain ⟨run', hrun'⟩ := (Service.Pool.stepwise_empty.run setup past).runs setup future
    obtain ⟨whole, hwhole⟩ := Service.Pool.stepwise_empty.runs setup (past ++ future)
    have hpast : (Service.Pool.empty.run setup past).system.store.Lifecycle := by
      rw [hrun.store]
      exact (lifecycle_empty.after run).1
    rw [Service.Pool.run_append, hrun'.store]
    exact ⟨hpast, (hpast.after run').2, whole, hwhole, lifecycle_empty.nodup_completions whole⟩

end Store
end SoilWatch
