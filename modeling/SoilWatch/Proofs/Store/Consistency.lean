/-
# The tables agree

What the five tables hold together at all times (`Consistent`).  Emails, session tokens, reset
tokens, contracts and hardware addresses tell rows apart; sessions, reset tokens and devices belong
to a user who is there, and contracts to a device that is there; a user has at most one session and
at most one reset token; and every session ends after it began.

The first two come from the constraints of the tables.  That a user has one session is due to the
statements: a login deletes before it inserts, and so does a request for a new password.  There is
one lemma for each thing that a committed operation can make of a store, and each of them proves no
more than the columns that are written; `Consistent.step` puts them together.

A contract whose device is gone would let a completion fail in a way of its own
(`Fault.missingDevice`).  Since there is no such contract, no completion fails so
(`completeDevice_ne_missingDevice`).

A store at which a run can arrive is `Sound`: its devices are in one of their phases, its tables
agree, and its devices stand in the order of their numbers.
-/

import SoilWatch.Proofs.Lifecycle

namespace SoilWatch
namespace Store

open Time (Instant)

variable {α β γ : Type} {s s' : Store}

/-! ### Columns -/

/-- A column that tells the rows of a table apart. -/
def Unique (rows : List α) (column : α → β) : Prop :=
  (rows.map column).Nodup

/-- A column of which each value is the number of a row of another table. -/
def Refers (rows : List α) (column : α → Int) (parents : List β) (number : β → Int) : Prop :=
  rows.map column ⊆ parents.map number

section Columns

variable {rows rows' : List α} {row : α} {column : α → β} {f : α → α}

theorem Unique.sublist (h : Unique rows column) (hs : rows'.Sublist rows) : Unique rows' column :=
  List.Nodup.sublist (hs.map column) h

/-- A row with a value that no row has can be added. -/
theorem Unique.append (h : Unique rows column) (hfree : ∀ r ∈ rows, column r ≠ column row) :
    Unique (rows ++ [row]) column := by
  rw [Unique, List.map_append, List.nodup_append]
  refine ⟨h, List.nodup_singleton _, ?_⟩
  intro a ha b hb
  obtain ⟨r, hr, rfl⟩ := List.mem_map.1 ha
  rw [List.mem_singleton.1 hb]
  exact hfree r hr

/-- A value that is not found is the value of no row. -/
theorem ne_of_find?_eq_none [DecidableEq β] {value : β}
    (h : rows.find? (column · = value) = none) : ∀ r ∈ rows, column r ≠ value := by
  intro r hr
  simpa using List.find?_eq_none.1 h r hr

/-- A row is found by a value that tells it apart. -/
theorem Unique.find?_eq_some [DecidableEq β] (h : Unique rows column) (hr : row ∈ rows)
    {value : β} (hv : column row = value) : rows.find? (column · = value) = some row := by
  cases hf : rows.find? (column · = value) with
  | none => exact absurd hv (ne_of_find?_eq_none hf row hr)
  | some r =>
    have hr' : column r = value := by simpa using List.find?_some hf
    rw [List.inj_on_of_nodup_map h (List.mem_of_find?_eq_some hf) hr (hr'.trans hv.symm)]

/-- Changing rows elsewhere leaves a column as it is. -/
theorem map_column_eq (hf : ∀ r, column (f r) = column r) (rows : List α) :
    (rows.map f).map column = rows.map column := by
  rw [List.map_map]
  exact List.map_congr_left fun r _ => hf r

theorem Unique.mapped (h : Unique rows column) (hf : ∀ r, column (f r) = column r) :
    Unique (rows.map f) column := by
  rw [Unique, map_column_eq hf]
  exact h

end Columns

section References

variable {rows rows' : List α} {row : α} {column : α → Int} {f : α → α}
  {parents parents' : List β} {number : β → Int}

theorem Refers.sublist (h : Refers rows column parents number) (hs : rows'.Sublist rows) :
    Refers rows' column parents number :=
  List.Subset.trans (hs.map column).subset h

/-- A row can be added if the row that it refers to is there. -/
theorem Refers.append (h : Refers rows column parents number)
    (hrow : column row ∈ parents.map number) : Refers (rows ++ [row]) column parents number := by
  rw [Refers, List.map_append]
  exact List.append_subset.2 ⟨h, List.cons_subset.2 ⟨hrow, List.nil_subset _⟩⟩

/-- What is referred to may become more. -/
theorem Refers.grown (h : Refers rows column parents number)
    (hp : parents.map number ⊆ parents'.map number) : Refers rows column parents' number :=
  List.Subset.trans h hp

theorem Refers.mapped (h : Refers rows column parents number) (hf : ∀ r, column (f r) = column r) :
    Refers (rows.map f) column parents number := by
  rw [Refers, map_column_eq hf]
  exact h

/-- The row that a row refers to is found. -/
theorem Refers.find?_isSome (h : Refers rows column parents number) (hr : row ∈ rows) :
    (parents.find? (number · = column row)).isSome := by
  obtain ⟨p, hp, hn⟩ := List.mem_map.1 (h (List.mem_map_of_mem hr))
  exact List.find?_isSome.2 ⟨p, hp, by simpa using hn⟩

end References

/-! ### What holds of all tables -/

/-- **The tables agree.** -/
structure Consistent (s : Store) : Prop where
  emails : Unique s.users (·.email)
  sessionTokens : Unique s.sessions (·.token)
  resetTokens : Unique s.resets (·.token)
  contracts : Unique s.staging (·.contract)
  addresses : s.devices.Pairwise fun d d' => d.address = none ∨ d.address ≠ d'.address
  sessionUser : Refers s.sessions (·.userId) s.users (·.id)
  resetUser : Refers s.resets (·.userId) s.users (·.id)
  deviceUser : Refers s.devices (·.userId) s.users (·.id)
  stagedDevice : Refers s.staging (·.deviceId) s.devices (·.id)
  oneSession : Unique s.sessions (·.userId)
  oneReset : Unique s.resets (·.userId)
  lasting : ∀ r ∈ s.sessions, r.createdAt < r.expiresAt

theorem consistent_empty : Store.empty.Consistent := by
  constructor <;> simp [Unique, Refers, Store.empty]

/-- A user who is found has a number of the table. -/
theorem mem_numbers_of_isSome {id : Int} (h : (s.userById? id).isSome) :
    id ∈ s.users.map (·.id) := by
  obtain ⟨user, hu, hid⟩ := List.find?_isSome.1 h
  exact List.mem_map.2 ⟨user, hu, by simpa using hid⟩

/-- A number of the table is the number of some user. -/
theorem usersWithId_ne_zero {id : Int} (h : id ∈ s.users.map (·.id)) :
    (s.users.filter (·.id = id)).length ≠ 0 := by
  obtain ⟨user, hu, hid⟩ := List.mem_map.1 h
  exact Nat.ne_of_gt (List.length_pos_of_mem (List.mem_filter.2 ⟨hu, by simpa using hid⟩))

namespace Consistent

variable (hs : s.Consistent)
include hs

/-- A user who is added is referred to by nobody yet. -/
theorem addUser {row : UserRow} {n : Counters} (h : s.userByEmail? row.email = none) :
    Consistent { s with users := s.users ++ [row], counters := n } := by
  have hgrown : s.users.map (·.id) ⊆ (s.users ++ [row]).map (·.id) := by
    rw [List.map_append]
    exact List.subset_append_left _ _
  exact { hs with
    emails := hs.emails.append (ne_of_find?_eq_none h)
    sessionUser := hs.sessionUser.grown hgrown
    resetUser := hs.resetUser.grown hgrown
    deviceUser := hs.deviceUser.grown hgrown }

/-- Users may be changed in what neither names nor numbers them. -/
theorem mapUsers {f : UserRow → UserRow} (hemail : ∀ r, (f r).email = r.email)
    (hid : ∀ r, (f r).id = r.id) : Consistent { s with users := s.users.map f } := by
  have hgrown : s.users.map (·.id) ⊆ (s.users.map f).map (·.id) := by
    rw [map_column_eq hid]
    exact List.Subset.refl _
  exact { hs with
    emails := hs.emails.mapped hemail
    sessionUser := hs.sessionUser.grown hgrown
    resetUser := hs.resetUser.grown hgrown
    deviceUser := hs.deviceUser.grown hgrown }

theorem setPassword (id : Int) (passwordHash : String) : (s.setPassword id passwordHash).Consistent :=
  hs.mapUsers (fun r => by split <;> rfl) (fun r => by split <;> rfl)

theorem dropSessions (userId : Int) : (s.dropSessions userId).Consistent :=
  { hs with
    sessionTokens := hs.sessionTokens.sublist List.filter_sublist
    sessionUser := hs.sessionUser.sublist List.filter_sublist
    oneSession := hs.oneSession.sublist List.filter_sublist
    lasting := fun r hr => hs.lasting r (List.mem_of_mem_filter hr) }

/-- A session may be added for a user who has none. -/
theorem addSession {row : SessionRow} {n : Counters} (htoken : s.sessionByToken? row.token = none)
    (huser : (s.userById? row.userId).isSome) (hnone : ∀ r ∈ s.sessions, r.userId ≠ row.userId)
    (hlasting : row.createdAt < row.expiresAt) :
    Consistent { s with sessions := s.sessions ++ [row], counters := n } :=
  { hs with
    sessionTokens := hs.sessionTokens.append (ne_of_find?_eq_none htoken)
    sessionUser := hs.sessionUser.append (mem_numbers_of_isSome huser)
    oneSession := hs.oneSession.append hnone
    lasting := by
      intro r hr
      rcases List.mem_append.1 hr with h | h
      · exact hs.lasting r h
      · rw [List.mem_singleton.1 h]
        exact hlasting }

theorem openSession {userId : Int} {token : String} {createdAt expiresAt : Instant}
    (hlasting : createdAt < expiresAt)
    (htoken : (s.dropSessions userId).sessionByToken? token = none)
    (huser : (s.userById? userId).isSome) :
    (s.openSession userId token createdAt expiresAt).Consistent := by
  have hstamped := hs.mapUsers
    (f := fun r => if r.id = userId then { r with lastLogin := some createdAt } else r)
    (fun r => by split <;> rfl) (fun r => by split <;> rfl)
  refine (hstamped.dropSessions userId).addSession htoken ?_ (fun r hr => ?_) hlasting
  · show (userById? { s with users := s.users.map _ } userId).isSome
    rw [userById?, find?_map_eq (fun r => by split <;> rfl), Option.isSome_map]
    exact huser
  · exact of_decide_eq_true (List.mem_filter.1 hr).2

theorem dropResets (userId : Int) : (s.dropResets userId).Consistent :=
  { hs with
    resetTokens := hs.resetTokens.sublist List.filter_sublist
    resetUser := hs.resetUser.sublist List.filter_sublist
    oneReset := hs.oneReset.sublist List.filter_sublist }

theorem putReset {userId : Int} {token : String} (expiresAt : Instant)
    (htoken : (s.dropResets userId).resetByToken? token = none)
    (huser : (s.userById? userId).isSome) : (s.putReset userId token expiresAt).Consistent := by
  have hdropped := hs.dropResets userId
  exact { hs with
    resetTokens := hdropped.resetTokens.append (ne_of_find?_eq_none htoken)
    resetUser := hdropped.resetUser.append (mem_numbers_of_isSome huser)
    oneReset := hdropped.oneReset.append fun _ hr => of_decide_eq_true (List.mem_filter.1 hr).2 }

theorem addDevice {userId : Int} {contract : String} (displayName : String)
    (huser : (s.userById? userId).isSome) (hcontract : s.stagingByContract? contract = none) :
    (s.addDevice userId displayName contract).Consistent := by
  have hgrown : s.devices.map (·.id) ⊆
      (s.devices ++ [s.newDevice userId displayName]).map (·.id) := by
    rw [List.map_append]
    exact List.subset_append_left _ _
  exact { hs with
    contracts := hs.contracts.append (ne_of_find?_eq_none hcontract)
    addresses := by
      refine List.pairwise_append.2 ⟨hs.addresses, List.pairwise_singleton _ _, fun d _ d' hd' => ?_⟩
      rw [List.mem_singleton.1 hd']
      cases ha : d.address with
      | none => exact .inl rfl
      | some a => exact .inr nofun
    deviceUser := hs.deviceUser.append (mem_numbers_of_isSome huser)
    stagedDevice := (hs.stagedDevice.grown hgrown).append (by
      rw [List.map_append]
      exact List.mem_append_right _ (List.mem_singleton_self _)) }

/-- Devices may be changed in what neither numbers them nor says whose they are. -/
theorem mapDevices {f : Device → Device} {staging : List StagingRow}
    (hid : ∀ d, (f d).id = d.id) (huser : ∀ d, (f d).userId = d.userId)
    (haddresses : (s.devices.map f).Pairwise fun d d' => d.address = none ∨ d.address ≠ d'.address)
    (hstaging : staging.Sublist s.staging) :
    Consistent { s with devices := s.devices.map f, staging } :=
  { hs with
    contracts := hs.contracts.sublist hstaging
    addresses := haddresses
    deviceUser := hs.deviceUser.mapped huser
    stagedDevice := (hs.stagedDevice.sublist hstaging).grown (by
      rw [map_column_eq hid]
      exact List.Subset.refl _) }

theorem setName (id : Int) (displayName : String) : (s.setName id displayName).Consistent := by
  refine hs.mapDevices (fun d => by split <;> rfl) (fun d => by split <;> rfl) ?_
    (List.Sublist.refl _)
  rw [List.pairwise_map]
  exact hs.addresses.imp fun {d d'} h => by split_ifs <;> exact h

/-- An address may be given to a device if no other has it; that the number of the device tells it
apart from all others is needed here, else two devices would get the address. -/
theorem bindAddress (hn : (s.devices.map (·.id)).Nodup) {id : Int} {address : String}
    (hfree : ∀ d ∈ s.devices, d.id ≠ id → d.address ≠ some address) :
    (s.bindAddress id address).Consistent := by
  refine hs.mapDevices (fun d => by split <;> rfl) (fun d => by split <;> rfl) ?_
    List.filter_sublist
  rw [List.pairwise_map]
  refine (hs.addresses.and (List.pairwise_map.1 hn)).imp_of_mem fun {d d'} hd hd' h => ?_
  by_cases hid : d.id = id
  · have hid' : d'.id ≠ id := fun h' => h.2 (hid.trans h'.symm)
    rw [if_pos hid, if_neg hid']
    exact .inr (hfree d' hd' hid').symm
  · rw [if_neg hid]
    by_cases hid' : d'.id = id
    · rw [if_pos hid']
      exact .inr (hfree d hd hid)
    · rw [if_neg hid']
      exact h.1

/-- **A committed operation keeps the tables in agreement.** -/
theorem step (hl : s.Lifecycle) {op : Operation} {a : op.Answer} (h : op.run s = (.ok a, s')) :
    s'.Consistent := by
  cases op with
  | userById | userByEmail | sessionByToken | resetByToken | deviceById | deviceByAddress
  | devicesOf =>
    obtain rfl := ((Prod.mk.injEq ..).mp h).2
    exact hs
  | createUser =>
    obtain ⟨-, hfree, rfl, rfl⟩ := createUser_eq_ok.1 h
    exact hs.addUser hfree
  | changePassword id passwordHash =>
    obtain ⟨-, -, rfl⟩ := changePassword_eq_ok.1 h
    exact hs.setPassword id passwordHash
  | startSession =>
    obtain ⟨hlasting, -, -, -, htoken, huser, -, rfl⟩ := startSession_eq_ok.1 h
    exact hs.openSession hlasting htoken huser
  | deleteUserSessions userId =>
    obtain ⟨-, -, rfl⟩ := deleteUserSessions_eq_ok.1 h
    exact hs.dropSessions userId
  | replaceReset userId token expiresAt =>
    obtain ⟨-, -, htoken, huser, -, rfl⟩ := replaceReset_eq_ok.1 h
    exact hs.putReset expiresAt htoken huser
  | deleteUserResets userId =>
    obtain ⟨-, -, rfl⟩ := deleteUserResets_eq_ok.1 h
    exact hs.dropResets userId
  | createDevice userId displayName contract =>
    obtain ⟨-, -, huser, hcontract, -, rfl⟩ := createDevice_eq_ok.1 h
    exact hs.addDevice displayName huser hcontract
  | completeDevice =>
    rcases completeDevice_eq_ok.1 h with _ | _ | ⟨-, hfree, -, -, -⟩
    · exact hs
    · exact hs
    · exact hs.bindAddress hl.nodup hfree
  | rename id displayName =>
    obtain ⟨-, -, rfl⟩ := rename_eq_ok.1 h
    exact hs.setName id displayName

end Consistent

/-! ### What holds of a store at all times -/

/-- Devices stand in the order of their numbers. -/
def Ordered (s : Store) : Prop :=
  s.devices.Pairwise (·.id < ·.id)

/-- Changing devices without renumbering them keeps their order. -/
theorem Ordered.mapped (hs : s.Ordered) {f : Device → Device} (hf : ∀ d, (f d).id = d.id)
    (hd : s'.devices = s.devices.map f) : s'.Ordered := by
  rw [Ordered, hd, List.pairwise_map]
  exact hs.imp fun {a b} h => by rw [hf, hf]; exact h

/-- **A step keeps devices in order,** because the number of a new device is above all others. -/
theorem Ordered.step (hs : s.Ordered) (hl : s.Lifecycle) {c : Option Int} (h : DeviceStep s s' c) :
    s'.Ordered := by
  cases h with
  | same hd _ =>
    rw [Ordered, hd.1]
    exact hs
  | created userId displayName contract h =>
    subst h
    refine List.pairwise_append.2 ⟨hs, List.pairwise_singleton _ _, fun d hd d' hd' => ?_⟩
    have hle := hl.numbered d hd
    rw [List.mem_singleton.1 hd']
    show d.id < s.counters.devices + 1
    omega
  | bound staged address _ h =>
    subst h
    exact hs.mapped (fun d => by split <;> rfl) rfl
  | renamed id displayName h =>
    subst h
    exact hs.mapped (fun d => by split <;> rfl) rfl

/-- What holds of a store at all times. -/
structure Sound (s : Store) : Prop where
  lifecycle : s.Lifecycle
  consistent : s.Consistent
  ordered : s.Ordered

theorem sound_empty : Store.empty.Sound :=
  ⟨lifecycle_empty, consistent_empty, .nil⟩

/-- A committed operation keeps a store sound. -/
theorem Sound.step (hs : s.Sound) {op : Operation} {a : op.Answer} (h : op.run s = (.ok a, s')) :
    s'.Sound :=
  ⟨hs.lifecycle.step (op.deviceStep h), hs.consistent.step hs.lifecycle h,
    hs.ordered.step hs.lifecycle (op.deviceStep h)⟩

/-- An operation keeps a store sound, also when it fails. -/
theorem Sound.run (hs : s.Sound) (op : Operation) : (op.run s).2.Sound := by
  rcases hr : op.run s with ⟨e | a, t⟩
  · obtain rfl := Operation.run_eq_error hr
    exact hs
  · exact hs.step hr

/-- Refusing other events keeps a store sound. -/
theorem Sound.refused (hs : s.Sound) (events : List (Table × Event)) :
    Sound { s with forbidden := events } :=
  ⟨⟨hs.lifecycle.nodup, hs.lifecycle.numbered, hs.lifecycle.inPhase, hs.lifecycle.owned⟩,
    { hs.consistent with }, hs.ordered⟩

/-- **A store is sound after every run.** -/
theorem sound_after (run : List Action) : (Store.empty.after run).Sound :=
  after_induction sound_empty (fun _ _ _ _ hs h => hs.step h) (fun _ events hs => hs.refused events)
    run

/-- **Users stay:** a committed operation keeps their numbers. -/
theorem Operation.users_kept {op : Operation} {a : op.Answer} (h : op.run s = (.ok a, s')) :
    s.users.map (·.id) ⊆ s'.users.map (·.id) := by
  cases op with
  | createUser =>
    obtain ⟨-, -, -, rfl⟩ := createUser_eq_ok.1 h
    rw [List.map_append]
    exact List.subset_append_left _ _
  | changePassword id passwordHash =>
    obtain ⟨-, -, rfl⟩ := changePassword_eq_ok.1 h
    rw [setPassword, map_column_eq (fun r => by split <;> rfl)]
    exact List.Subset.refl _
  | startSession =>
    obtain ⟨-, -, -, -, -, -, -, rfl⟩ := startSession_eq_ok.1 h
    rw [openSession, map_column_eq (fun r => by split <;> rfl)]
    exact List.Subset.refl _
  | _ =>
    rw [(Operation.run_same (t := .users) h (by simp [Operation.writes])).1]
    exact List.Subset.refl _

/-! ### Contracts without a device -/

open Transaction

/-- Two statements in a row fail in the first, or in the second behind the first. -/
theorem bind_eq_error {x : Transaction α} {f : α → Transaction β} {e : Fault} :
    (x >>= f) s = .error e ↔ x s = .error e ∨ ∃ a t, x s = .ok (a, t) ∧ f a t = .error e := by
  show ((x s) >>= fun p => f p.1 p.2) = _ ↔ _
  cases x s with
  | error e' => simp [bind, Except.bind]
  | ok p =>
    simp only [reduceCtorEq, false_or, Except.ok.injEq]
    constructor
    · exact fun h => ⟨p.1, p.2, rfl, h⟩
    · rintro ⟨a, t, rfl, h⟩
      exact h

/-- Binding the device of a contract never finds it missing. -/
theorem Consistent.bindStaged_ne_missingDevice (hs : s.Consistent) {staged : StagingRow}
    (hstaged : staged ∈ s.staging) (address : String) (id : Int) :
    bindStaged staged.deviceId address s ≠ .error (.missingDevice id) := by
  intro h
  rw [bindStaged, bind_eq_error] at h
  rcases h with h | ⟨n, t, hbind, h⟩
  · unfold bindDevice at h
    split_ifs at h
    · cases h
    · cases h
  obtain ⟨-, -, -, rfl⟩ := bindDevice_eq_ok.1 hbind
  rcases bind_eq_error.1 h with h | ⟨n', t', hdelete, h⟩
  · unfold deleteStaging changeRows at h
    split_ifs at h
    cases h
  obtain ⟨-, -, rfl⟩ := deleteStaging_eq_ok.1 hdelete
  have hfound := hs.stagedDevice.find?_isSome hstaged
  unfold findStaged at h
  split at h
  · cases h
  · rename_i hnone
    rw [deviceById?, find?_map_eq (fun d => by split <;> rfl), Option.map_eq_none_iff] at hnone
    rw [hnone] at hfound
    cases hfound

/-- **No completion fails because its device is missing.** -/
theorem Consistent.completeDevice_ne_missingDevice (hs : s.Consistent) (contract address : String)
    (transaction : String) (id : Int) : (completeDevice contract address s).1 ≠
      .error (.aborted transaction (.missingDevice id)) := by
  intro h
  unfold completeDevice transact at h
  split at h
  · cases h
  · rename_i f hf
    obtain ⟨-, rfl⟩ := Error.aborted.inj (Except.error.inj h)
    rw [completion, get_bind] at hf
    cases hstaged : s.stagingByContract? contract with
    | none =>
      rw [hstaged] at hf
      cases hf
    | some staged =>
      rw [hstaged] at hf
      dsimp only at hf
      cases hother : (s.deviceByAddress? address).filter (·.id ≠ staged.deviceId) with
      | some other =>
        rw [hother] at hf
        cases hf
      | none =>
        rw [hother] at hf
        rcases bind_eq_error.1 hf with hf | ⟨d, t, -, hf⟩
        · exact hs.bindStaged_ne_missingDevice (List.mem_of_find?_eq_some hstaged) address id hf
        · cases hf

end Store
end SoilWatch
