import IamAuth.AccountTxns

/-!
# What the recorded events say about the account

The events of a user, replayed in the order of the commits, against the row of the
user. The event of a deletion or a restoration is inserted whether or not its update
has matched a row, and an update that matches nothing takes no lock.
-/

set_option autoImplicit false

namespace IamAuth

open Interleave Relational

inductive Account where
  | absent
  | active
  | deleted
  deriving DecidableEq, Repr

/-- Whether the row of the user exists, and whether its `deleted_at` is set. -/
def account (u : Uuid) (db : Db) : Account :=
  match Repo.getUserById u db with
  | none => .absent
  | some row => if row.deletedAt.isSome then .deleted else .active

def replay : EventPayload → Account → Account
  | .userRegistered .., _ => .active
  | .userDeleted _ _, .absent => .absent
  | .userDeleted _ true, _ => .absent
  | .userDeleted _ false, _ => .deleted
  | .userRestored _, .absent => .absent
  | .userRestored _, _ => .active

/-- The account as outbox rows of the user tell it. -/
def replayed (u : Uuid) (outbox : List OutboxRecord) : Account :=
  (outbox.filter fun o => o.aggregateId == u).foldl (fun a o => replay o.payload a) .absent

theorem replayed_snoc (u : Uuid) (outbox : List OutboxRecord) (o : OutboxRecord) :
    replayed u (outbox ++ [o]) =
      if o.aggregateId = u then replay o.payload (replayed u outbox) else replayed u outbox := by
  unfold replayed
  by_cases h : o.aggregateId = u
  · simp [List.filter_append, h]
  · simp [List.filter_append, h]

/-- The outbox rows of the transactions that have committed, in the order of the commits. -/
def AccountStore.recorded (s : AccountStore) : List OutboxRecord :=
  s.commits.map fun x => x.1.event x.2

/-- The write is one of the row of the user. -/
def AccountWrite.changesUser : AccountWrite → Bool
  | .insertUser _ => true
  | .deleteUser _ => true
  | .softDeleteUser .. => true
  | .restoreUser _ => true
  | _ => false

/-- A transaction that commits has changed the row of its user, or its event says
nothing new about it. -/
def EventFits (s : AccountStore) : AccountLabel → Bool
  | .commit i =>
    match s.txns[i]? with
    | some t => t.writes.any AccountWrite.changesUser ||
      decide (replay t.call.payload (account t.call.id s.state) = account t.call.id s.state)
    | none => true
  | _ => true

section Writes

variable {db : Db} {u id : Uuid}

theorem account_insertUser {row : UserRow} (hnew : ∀ v ∈ db.users, v.id ≠ row.id)
    (hactive : row.deletedAt = none) : account u { db with users := db.users ++ [row] } =
      if u = row.id then .active else account u db := by
  by_cases h : u = row.id
  · subst h
    have hnone : db.users.find? (fun v => v.id == row.id) = none := by
      apply List.find?_eq_none.mpr
      intro v hv
      simpa using hnew v hv
    simp [account, Repo.getUserById, List.find?_append, hnone, hactive]
  · have hne : ¬row.id = u := fun h' => h h'.symm
    simp [account, Repo.getUserById, List.find?_append, h, hne]

theorem account_deleteUser : account u (Repo.deleteUserRows id db) =
    if u = id then .absent else account u db := by
  by_cases h : u = id
  · subst h
    have hnone : (deleteWhere (fun v => v.id == u) db.users).find? (fun v => v.id == u) = none := by
      apply List.find?_eq_none.mpr
      intro v hv
      simpa using (mem_deleteWhere.1 hv).2
    simp [account, Repo.getUserById, Repo.deleteUserRows, hnone]
  · have hsame : (deleteWhere (fun v => v.id == id) db.users).find? (fun v => v.id == u) =
        db.users.find? fun v => v.id == u := by
      rw [deleteWhere, List.find?_filter]
      congr 1
      funext v
      by_cases hv : v.id = u
      · simp [hv, h]
      · simp [hv]
    simp only [account, Repo.getUserById, Repo.deleteUserRows, hsame, if_neg h]

/-- An update of `deleted_at` on a row that exists. -/
theorem account_updateUser {d : Option DateTime} (hrow : ∃ v ∈ db.users, v.id = id) :
    account u (Repo.updateUser id (fun v => { v with deletedAt := d }) db) =
      if u = id then (if d.isSome then .deleted else .active) else account u db := by
  have hfind : Repo.getUserById u (Repo.updateUser id (fun v => { v with deletedAt := d }) db) =
      (Repo.getUserById u db).map fun v => if v.id == id then { v with deletedAt := d } else v := by
    apply find?_updateWhere
    intro v hv
    rfl
  cases hrow' : Repo.getUserById u db with
  | none =>
    have hne : ¬u = id := by
      intro h
      obtain ⟨v, hv, hid⟩ := hrow
      have := List.find?_eq_none.mp hrow' v hv
      simp [hid, h] at this
    simp [account, hfind, hrow', hne]
  | some v =>
    have hid : v.id = u := by simpa using List.find?_some hrow'
    by_cases h : u = id
    · subst h
      simp [account, hfind, hrow', hid]
    · simp [account, hfind, hrow', hid, h]

theorem account_of_row (hrow : ∃ v ∈ db.users, v.id = id) : account id db ≠ .absent := by
  obtain ⟨v, hv, hid⟩ := hrow
  unfold account
  split
  · next hnone =>
    have := List.find?_eq_none.mp hnone v hv
    simp [hid] at this
  · split <;> simp

variable {conn : DbRole} {c : Choice} {t : AccountTxn} {ws : List AccountWrite}

/-- A transaction that commits does to the account of its user what its event says, and
nothing to the others. -/
theorem account_commit (hchanges : t.Changes c ws) (hfits : ∀ w ∈ ws, w.Fits db)
    (hcond : ws.any AccountWrite.changesUser = true ∨
      replay t.payload (account t.id db) = account t.id db) (row : OutboxRecord) :
    account u ((accountEngine conn).view (ws ++ [.insertOutbox row]) db) =
      if u = t.id then replay t.payload (account t.id db) else account u db := by
  have hnothing : ws.any AccountWrite.changesUser = false →
      account u ((accountEngine conn).view (ws ++ [.insertOutbox row]) db) = account u db →
      account u ((accountEngine conn).view (ws ++ [.insertOutbox row]) db) =
        if u = t.id then replay t.payload (account t.id db) else account u db := by
    intro hnone hsame
    rw [hsame]
    rcases hcond with hany | hevent
    · rw [hnone] at hany
      cases hany
    · split
      · next h => rw [h, hevent]
      · rfl
  cases t with
  | register id userId email hash display =>
    obtain ⟨rows, rfl⟩ := hchanges
    have hnew := hfits (.insertUser (newUser id email hash)) (by simp)
    have hinsert : account u { db with users := db.users ++ [newUser id email hash] } =
        if u = id then .active else account u db :=
      account_insertUser (fun v hv => (hnew v hv).1) rfl
    exact hinsert
  | deleteUser id userId hard =>
    cases hard with
    | true =>
      rcases hchanges with rfl | rfl
      · exact hnothing rfl rfl
      · have hreplay : replay (.userDeleted userId true) (account id db) = .absent := by
          cases account id db <;> rfl
        simp only [AccountTxn.payload, AccountTxn.id, hreplay]
        exact account_deleteUser
    | false =>
      obtain ⟨hashes, rfl | rfl⟩ := hchanges
      · exact hnothing rfl rfl
      · obtain ⟨v, hv, hid, -⟩ := hfits (.softDeleteUser id c.now) (by simp)
        have hrow := account_of_row ⟨v, hv, hid⟩
        have hreplay : replay (.userDeleted userId false) (account id db) = .deleted := by
          cases ha : account id db with
          | absent => exact absurd ha hrow
          | active => rfl
          | deleted => rfl
        simp only [AccountTxn.payload, AccountTxn.id, hreplay]
        exact account_updateUser (d := some c.now) ⟨v, hv, hid⟩
  | restoreUser id userId =>
    rcases hchanges with rfl | rfl
    · exact hnothing rfl rfl
    · have hexists := hfits (.restoreUser id) (by simp)
      have hrow := account_of_row hexists
      have hreplay : replay (.userRestored userId) (account id db) = .active := by
        cases ha : account id db with
        | absent => exact absurd ha hrow
        | active => rfl
        | deleted => rfl
      simp only [AccountTxn.payload, AccountTxn.id, hreplay]
      exact account_updateUser (d := none) hexists

end Writes

/-! ## Runs -/

section Runs

variable {conn : DbRole} {db : Db} {u : Uuid} {s : AccountStore}

/-- The outbox is what was recorded, and it tells the account of `u`. -/
structure Told (conn : DbRole) (db : Db) (u : Uuid) (s : AccountStore) : Prop where
  sound : Store.Sound (accountEngine conn) AccountTxn.body AccountKeys Guarded s
  outbox : s.state.outbox = db.outbox ++ s.recorded
  account : account u s.state = replayed u s.state.outbox

theorem told_next {l : AccountLabel} (hfits : EventFits s l = true) (h : Told conn db u s) :
    Told conn db u (AccountStore.next conn s l) := by
  have hsound := Store.sound_next (guard_account conn) l h.sound
  rcases Store.state_next (accountEngine conn) AccountTxn.body s l with
    ⟨hstate, hcommits⟩ | ⟨i, t, rfl, ht, hrest, hstate, hcommits⟩
  · refine ⟨hsound, ?_, ?_⟩
    · rw [AccountStore.recorded, hstate, hcommits]
      exact h.outbox
    · rw [hstate]
      exact h.account
  · obtain ⟨ws, hchanges, hwrites⟩ := ran_body (h.sound.ran ht hrest)
    have hguard : ∀ w ∈ ws, w.Fits s.state := by
      intro w hw
      exact (h.sound.guard i t ht w (by simp [hwrites, hw])).2
    have hcond : ws.any AccountWrite.changesUser = true ∨
        replay t.call.payload (IamAuth.account t.call.id s.state) =
          IamAuth.account t.call.id s.state := by
      simp only [EventFits, ht.1, hwrites, List.any_append, Bool.or_eq_true,
        decide_eq_true_eq] at hfits
      rcases hfits with (hany | hlast) | hevent
      · exact .inl hany
      · cases hlast
      · exact .inr hevent
    have houtbox : (AccountStore.next conn s (.commit i)).state.outbox =
        s.state.outbox ++ [t.call.event t.draw] := by
      rw [hstate]
      exact ran_outbox (h.sound.ran ht hrest) s.state
    have hrecorded : (AccountStore.next conn s (.commit i)).recorded =
        s.recorded ++ [t.call.event t.draw] := by
      rw [AccountStore.recorded, hcommits]
      simp [AccountStore.recorded]
    refine ⟨hsound, ?_, ?_⟩
    · rw [houtbox, h.outbox, hrecorded, List.append_assoc]
    · rw [houtbox, replayed_snoc, ← h.account, hstate, hwrites,
        account_commit hchanges hguard hcond]
      simp only [AccountTxn.event, eq_comm]
      split
      · next hu => rw [hu]
      · rfl

/-- As long as a transaction that has changed no row only commits when its event says
nothing new, the events recorded for `u` give its account. -/
theorem account_replayed (conn : DbRole) {db : Db} (hkeys : AccountKeys db) {u : Uuid}
    (hu : account u db = replayed u db.outbox) {ls : List AccountLabel}
    (hls : Steps.Each (AccountStore.next conn) (fun s l => EventFits s l = true) (Store.init db) ls)
    {s : AccountStore} (hs : s = Steps.run (AccountStore.next conn) (Store.init db) ls) :
    s.state.outbox = db.outbox ++ s.recorded ∧
      account u s.state = replayed u (db.outbox ++ s.recorded) := by
  subst hs
  have htold : Told conn db u (Steps.run (AccountStore.next conn) (Store.init db) ls) := by
    apply hls.run_inv (I := Told conn db u) fun s l => told_next
    exact ⟨Store.sound_init hkeys, by simp [Store.init, AccountStore.recorded], hu⟩
  exact ⟨htold.outbox, htold.outbox ▸ htold.account⟩

end Runs

namespace Sample

/-- User 10 registers and is soft-deleted. -/
def deletion : List AccountLabel :=
  wholeTxn 0 signUp (choice 0 100 "") ++
    wholeTxn 1 removal (choice 1 101 "")

theorem account_replayed_restored : ∃ s : AccountStore,
    s = Steps.run (AccountStore.next .superuser) (Store.init migrated)
      (deletion ++ wholeTxn 2 restoration (choice 2 102 "")) ∧
    s.state.outbox = migrated.outbox ++ s.recorded ∧
      account 10 s.state = replayed 10 (migrated.outbox ++ s.recorded) :=
  ⟨_, rfl, account_replayed .superuser accountKeys (by decide) (by decide) rfl⟩

/-- A second deletion matches nothing, and commits only after a restoration. -/
def lateEvent : AccountStore :=
  Steps.run (AccountStore.next .superuser) (Store.init migrated)
    (deletion ++ [.start removal (choice 2 102 ""), .stmt 2] ++
      wholeTxn 3 restoration (choice 3 103 "") ++ [.stmt 2, .stmt 2, .commit 2])

theorem lateEvent_diverges : (∀ t ∈ lateEvent.txns, t.status ≠ .running) ∧
    account 10 lateEvent.state = .active ∧ replayed 10 lateEvent.recorded = .deleted := by
  decide

end Sample

end IamAuth
