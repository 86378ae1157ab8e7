import IamAuth.Grpc.Account
import IamAuth.Interleave.ReadCommitted

/-!
# The transactions that write the outbox, statement by statement

Everywhere else a function of repo.rs is one step. Here the three that insert an
outbox row run their SQL statements one at a time, with the row locks that Postgres
takes under READ COMMITTED. The `set_config` of register only picks the session.
-/

set_option autoImplicit false

namespace IamAuth

open Interleave Relational

/-- The transactions of register, delete_user and restore_user; `userId` is the
spelling of the id in the payload. -/
inductive AccountTxn where
  | register (id : Uuid) (userId email passwordHash display : String)
  | deleteUser (id : Uuid) (userId : String) (hard : Bool)
  | restoreUser (id : Uuid) (userId : String)
  deriving DecidableEq, Repr

def AccountTxn.id : AccountTxn → Uuid
  | .register id .. => id
  | .deleteUser id .. => id
  | .restoreUser id _ => id

def AccountTxn.eventType : AccountTxn → String
  | .register .. => typeUserRegistered
  | .deleteUser .. => typeUserDeleted
  | .restoreUser .. => typeUserRestored

def AccountTxn.payload : AccountTxn → EventPayload
  | .register _ userId email _ display => .userRegistered userId email display
  | .deleteUser _ userId hard => .userDeleted userId hard
  | .restoreUser _ userId => .userRestored userId

/-- The same transaction as one step. -/
def AccountTxn.sql (t : AccountTxn) : Sql :=
  match t with
  | .register id _ email hash _ =>
    .createUserWithRoleEvent id email hash defaultRole t.eventType t.payload
  | .deleteUser id _ hard => .deleteUserEventSoft id hard t.eventType t.payload
  | .restoreUser id _ => .restoreUserEvent id t.eventType t.payload

inductive AccountStmt where
  | insertUser (id : Uuid) (email passwordHash : String)
  | insertUserRoles (userId : Uuid) (role : String)
  | deleteUser (id : Uuid)
  | softDeleteUser (id : Uuid)
  | revokeRefreshTokens (userId : Uuid)
  | restoreUser (id : Uuid)
  | insertOutbox (aggregateId : Uuid) (eventType : String) (payload : EventPayload)
  deriving DecidableEq, Repr

def AccountTxn.body (t : AccountTxn) : List AccountStmt :=
  match t with
  | .register id _ email hash _ =>
    [.insertUser id email hash, .insertUserRoles id defaultRole,
      .insertOutbox id t.eventType t.payload]
  | .deleteUser id _ true => [.deleteUser id, .insertOutbox id t.eventType t.payload]
  | .deleteUser id _ false =>
    [.softDeleteUser id, .revokeRefreshTokens id, .insertOutbox id t.eventType t.payload]
  | .restoreUser id _ => [.restoreUser id, .insertOutbox id t.eventType t.payload]

/-- The new versions of the rows that a statement matched. -/
inductive AccountWrite where
  | insertUser (row : UserRow)
  | insertUserRoles (rows : List UserRole)
  | deleteUser (id : Uuid)
  | softDeleteUser (id : Uuid) (now : DateTime)
  | revokeRefreshTokens (userId : Uuid) (hashes : List String) (now : DateTime)
  | restoreUser (id : Uuid)
  | insertOutbox (row : OutboxRecord)
  deriving DecidableEq, Repr

/-- A row, or the entry of a unique index that an insert takes. -/
inductive LockedRow where
  | user (id : Uuid)
  | email (email : String)
  | token (hash : String)
  | event (id : Uuid)
  deriving DecidableEq, Repr

def AccountWrite.apply : AccountWrite → Db → Db
  | .insertUser row, db => { db with users := db.users ++ [row] }
  | .insertUserRoles rows, db => { db with userRoles := db.userRoles ++ rows }
  | .deleteUser id, db => Repo.deleteUserRows id db
  | .softDeleteUser id now, db =>
    Repo.updateUser id (fun u => { u with deletedAt := some now }) db
  | .revokeRefreshTokens _ hashes now, db =>
    { db with
      refreshTokens := updateWhere (fun t => decide (t.tokenHash ∈ hashes))
        (fun t => { t with revokedAt := some now }) db.refreshTokens }
  | .restoreUser id, db => Repo.updateUser id (fun u => { u with deletedAt := none }) db
  | .insertOutbox row, db => { db with outbox := db.outbox ++ [row] }

def newUser (id : Uuid) (email passwordHash : String) : UserRow :=
  ⟨id, email, passwordHash, "active", false, 0, none, none, false, none⟩

/-- The outbox row of a transaction. -/
def AccountTxn.event (t : AccountTxn) (c : Choice) : OutboxRecord :=
  ⟨c.uuid, t.id, t.eventType, t.payload, c.now, none⟩

/-- The refresh tokens that the second statement of a soft delete matches. -/
def liveTokens (userId : Uuid) (db : Db) : List String :=
  (db.refreshTokens.filter fun t => t.userId == userId && t.revokedAt.isNone).map (·.tokenHash)

def AccountStmt.exec (conn : DbRole) : AccountStmt → Choice → Db → Except DbError (List AccountWrite)
  | .insertUser id email hash, _, db =>
    if db.users.any fun u => u.id == id || u.email == email then .error .uniqueViolation
    else .ok [.insertUser (newUser id email hash)]
  | .insertUserRoles userId role, _, db =>
    let s := tenantGucTx conn defaultTenantId
    match Repo.insertUserRoles s userId defaultTenantId none (Repo.rolesNamed s role db) db with
    | .ok db' => .ok [.insertUserRoles (db'.userRoles.drop db.userRoles.length)]
    | .error e => .error e
  | .deleteUser id, _, db =>
    .ok (if db.users.any fun u => u.id == id then [.deleteUser id] else [])
  | .softDeleteUser id, c, db =>
    .ok (if db.users.any fun u => u.id == id && u.deletedAt.isNone then [.softDeleteUser id c.now]
      else [])
  | .revokeRefreshTokens userId, c, db => .ok [.revokeRefreshTokens userId (liveTokens userId db) c.now]
  | .restoreUser id, _, db =>
    .ok (if db.users.any fun u => u.id == id then [.restoreUser id] else [])
  | .insertOutbox aggregateId eventType payload, c, db =>
    if db.outbox.any fun o => o.id == c.uuid then .error .uniqueViolation
    else .ok [.insertOutbox ⟨c.uuid, aggregateId, eventType, payload, c.now, none⟩]

/-- The rows that a statement locks: those it matches in what is committed, and the index
entries of those it inserts. A row that does not match is passed over without a lock. -/
def AccountStmt.rows : AccountStmt → Choice → Db → List LockedRow
  | .insertUser id email _, _, _ => [.user id, .email email]
  | .insertUserRoles .., _, _ => []
  | .deleteUser id, _, db =>
    ((db.users.filter fun u => u.id == id).flatMap fun u => [.user u.id, .email u.email]) ++
      (db.refreshTokens.filter fun t => t.userId == id).map fun t => .token t.tokenHash
  | .softDeleteUser id, _, db =>
    (db.users.filter fun u => u.id == id && u.deletedAt.isNone).map fun u => .user u.id
  | .revokeRefreshTokens userId, _, db => (liveTokens userId db).map .token
  | .restoreUser id, _, db => (db.users.filter fun u => u.id == id).map fun u => .user u.id
  | .insertOutbox .., c, _ => [.event c.uuid]

def accountEngine (conn : DbRole) :
    Engine AccountStmt AccountWrite LockedRow Db Choice DbError where
  exec := AccountStmt.exec conn
  rows := AccountStmt.rows
  conflicts r r' := decide (r = r')
  apply := AccountWrite.apply

abbrev AccountStore := Store AccountTxn AccountStmt AccountWrite LockedRow Db Choice

abbrev AccountLabel := TxnLabel AccountTxn Choice

abbrev AccountStore.next (conn : DbRole) (s : AccountStore) (l : AccountLabel) : AccountStore :=
  Store.next (accountEngine conn) AccountTxn.body s l

/-! ## What open transactions rely on -/

/-- The keys that Postgres keeps unique, as far as these transactions need them. -/
structure AccountKeys (db : Db) : Prop where
  users : (db.users.map (·.id)).Nodup
  tokens : (db.refreshTokens.map (·.tokenHash)).Nodup
  events : (db.outbox.map (·.id)).Nodup

def AccountWrite.locks : AccountWrite → List LockedRow
  | .insertUser row => [.user row.id, .email row.email]
  | .insertUserRoles _ => []
  | .deleteUser id => [.user id]
  | .softDeleteUser id _ => [.user id]
  | .revokeRefreshTokens _ hashes _ => hashes.map .token
  | .restoreUser id => [.user id]
  | .insertOutbox row => [.event row.id]

/-- The write finds in the committed state what its statement found. -/
def AccountWrite.Fits (db : Db) : AccountWrite → Prop
  | .insertUser row => ∀ u ∈ db.users, u.id ≠ row.id ∧ u.email ≠ row.email
  | .insertUserRoles _ => True
  | .deleteUser id => ∃ u ∈ db.users, u.id = id
  | .softDeleteUser id _ => ∃ u ∈ db.users, u.id = id ∧ u.deletedAt = none
  | .revokeRefreshTokens userId hashes _ =>
    ∀ t ∈ db.refreshTokens, t.tokenHash ∈ hashes ↔ t.userId = userId ∧ t.revokedAt = none
  | .restoreUser id => ∃ u ∈ db.users, u.id = id
  | .insertOutbox row => ∀ o ∈ db.outbox, o.id ≠ row.id

section Writes

variable {conn : DbRole} {c : Choice} {db db' : Db} {w w' : AccountWrite} {ws : List AccountWrite}

/-- A row of users after a write is one from before, or the inserted one. -/
theorem users_apply {u' : UserRow} (hu' : u' ∈ (w'.apply db).users) :
    (∃ u ∈ db.users, u.id = u'.id ∧ u.email = u'.email) ∨ w' = .insertUser u' := by
  cases w' with
  | insertUser row =>
    rcases List.mem_append.mp hu' with hold | hnew
    · exact .inl ⟨u', hold, rfl, rfl⟩
    · obtain rfl := List.mem_singleton.mp hnew
      exact .inr rfl
  | insertUserRoles rows => exact .inl ⟨u', hu', rfl, rfl⟩
  | deleteUser id => exact .inl ⟨u', (mem_deleteWhere.1 hu').1, rfl, rfl⟩
  | softDeleteUser id now =>
    obtain ⟨u, hu, rfl⟩ := mem_updateWhere.1 hu'
    exact .inl ⟨u, hu, by split <;> exact ⟨rfl, rfl⟩⟩
  | revokeRefreshTokens userId hashes now => exact .inl ⟨u', hu', rfl, rfl⟩
  | restoreUser id =>
    obtain ⟨u, hu, rfl⟩ := mem_updateWhere.1 hu'
    exact .inl ⟨u, hu, by split <;> exact ⟨rfl, rfl⟩⟩
  | insertOutbox row => exact .inl ⟨u', hu', rfl, rfl⟩

/-- A row of users that a write does not lock stays. -/
theorem mem_users_apply {u : UserRow} (hu : u ∈ db.users) (hlock : .user u.id ∉ w'.locks) :
    u ∈ (w'.apply db).users := by
  cases w' with
  | insertUser row => exact List.mem_append_left _ hu
  | insertUserRoles rows => exact hu
  | deleteUser id =>
    have hne : u.id ≠ id := by simpa [AccountWrite.locks] using hlock
    exact mem_deleteWhere.2 ⟨hu, by simpa using hne⟩
  | softDeleteUser id now =>
    have hne : u.id ≠ id := by simpa [AccountWrite.locks] using hlock
    exact mem_updateWhere.2 ⟨u, hu, by simp [hne]⟩
  | revokeRefreshTokens userId hashes now => exact hu
  | restoreUser id =>
    have hne : u.id ≠ id := by simpa [AccountWrite.locks] using hlock
    exact mem_updateWhere.2 ⟨u, hu, by simp [hne]⟩
  | insertOutbox row => exact hu

/-- A refresh token after a write is one from before, or one that the write has locked
and revoked. -/
theorem tokens_apply {t' : RefreshToken} (ht' : t' ∈ (w'.apply db).refreshTokens) :
    t' ∈ db.refreshTokens ∨ .token t'.tokenHash ∈ w'.locks ∧ t'.revokedAt ≠ none := by
  cases w' with
  | insertUser row => exact .inl ht'
  | insertUserRoles rows => exact .inl ht'
  | deleteUser id => exact .inl (mem_deleteWhere.1 ht').1
  | softDeleteUser id now => exact .inl ht'
  | revokeRefreshTokens userId hashes now =>
    obtain ⟨t, ht, rfl⟩ := mem_updateWhere.1 ht'
    by_cases hmem : t.tokenHash ∈ hashes
    · exact .inr (by simp [hmem, AccountWrite.locks])
    · exact .inl (by simpa [hmem] using ht)
  | restoreUser id => exact .inl ht'
  | insertOutbox row => exact .inl ht'

theorem outbox_apply {o : OutboxRecord} (ho : o ∈ (w'.apply db).outbox) :
    o ∈ db.outbox ∨ w' = .insertOutbox o := by
  cases w' with
  | insertOutbox row =>
    rcases List.mem_append.mp ho with hold | hnew
    · exact .inl hold
    · obtain rfl := List.mem_singleton.mp hnew
      exact .inr rfl
  | _ => exact .inl ho

/-- A write that touches no row of another one lets it fit. -/
theorem AccountWrite.Fits.apply (h : w.Fits db) (hlocks : ∀ r ∈ w.locks, r ∉ w'.locks) :
    w.Fits (w'.apply db) := by
  cases w with
  | insertUser row =>
    intro u' hu'
    rcases users_apply hu' with ⟨u, hu, hid, hemail⟩ | rfl
    · rw [← hid, ← hemail]
      exact h u hu
    · have hid : row.id ≠ u'.id := by simpa [AccountWrite.locks] using hlocks (.user row.id)
      have hemail : row.email ≠ u'.email := by
        simpa [AccountWrite.locks] using hlocks (.email row.email)
      exact ⟨hid.symm, hemail.symm⟩
  | insertUserRoles rows => trivial
  | deleteUser id =>
    obtain ⟨u, hu, rfl⟩ := h
    exact ⟨u, mem_users_apply hu (hlocks _ (by simp [AccountWrite.locks])), rfl⟩
  | softDeleteUser id now =>
    obtain ⟨u, hu, rfl, hactive⟩ := h
    exact ⟨u, mem_users_apply hu (hlocks _ (by simp [AccountWrite.locks])), rfl, hactive⟩
  | revokeRefreshTokens userId hashes now =>
    intro t' ht'
    rcases tokens_apply ht' with hold | ⟨hlock, hrevoked⟩
    · exact h t' hold
    · have hout : t'.tokenHash ∉ hashes := by
        intro hmem
        exact hlocks _ (List.mem_map_of_mem hmem) hlock
      simp [hout, hrevoked]
  | restoreUser id =>
    obtain ⟨u, hu, rfl⟩ := h
    exact ⟨u, mem_users_apply hu (hlocks _ (by simp [AccountWrite.locks])), rfl⟩
  | insertOutbox row =>
    intro o ho
    rcases outbox_apply ho with hold | rfl
    · exact h o hold
    · have hne : row.id ≠ o.id := by simpa [AccountWrite.locks] using hlocks (.event row.id)
      exact hne.symm

theorem AccountWrite.Fits.view (h : w.Fits db) (hlocks : ∀ w' ∈ ws, ∀ r ∈ w.locks, r ∉ w'.locks) :
    w.Fits ((accountEngine conn).view ws db) := by
  induction ws generalizing db with
  | nil => exact h
  | cons w' ws ih =>
    apply ih
    · exact h.apply (hlocks w' (by simp))
    · intro w'' hw''
      exact hlocks w'' (by simp [hw''])

/-! ## What statements write -/

variable {st : AccountStmt} {sts : List AccountStmt}

/-- A statement locks the rows it writes. -/
theorem locks_exec (h : st.exec conn c db = .ok ws) (hw : w ∈ ws) :
    ∀ r ∈ w.locks, r ∈ st.rows c db := by
  cases st with
  | insertUser id email hash =>
    simp only [AccountStmt.exec] at h
    split at h
    · cases h
    · cases h
      obtain rfl := List.mem_singleton.mp hw
      simp [AccountWrite.locks, AccountStmt.rows, newUser]
  | insertUserRoles userId role =>
    simp only [AccountStmt.exec] at h
    split at h
    · cases h
      obtain rfl := List.mem_singleton.mp hw
      simp [AccountWrite.locks]
    · cases h
  | deleteUser id =>
    cases h
    split at hw
    · next hany =>
      obtain rfl := List.mem_singleton.mp hw
      obtain ⟨u, hu, hid⟩ := List.any_eq_true.mp hany
      obtain rfl := beq_iff_eq.mp hid
      intro r hr
      obtain rfl := List.mem_singleton.mp hr
      apply List.mem_append_left
      exact List.mem_flatMap.mpr ⟨u, by simp [hu], by simp⟩
    · cases hw
  | softDeleteUser id =>
    cases h
    split at hw
    · next hany =>
      obtain rfl := List.mem_singleton.mp hw
      obtain ⟨u, hu, hmatch⟩ := List.any_eq_true.mp hany
      intro r hr
      obtain rfl := List.mem_singleton.mp hr
      have hid : u.id = id := by
        simp only [Bool.and_eq_true, beq_iff_eq] at hmatch
        exact hmatch.1
      exact List.mem_map.mpr ⟨u, by simpa [hu] using hmatch, by rw [hid]⟩
    · cases hw
  | revokeRefreshTokens userId =>
    cases h
    obtain rfl := List.mem_singleton.mp hw
    exact fun r hr => hr
  | restoreUser id =>
    cases h
    split at hw
    · next hany =>
      obtain rfl := List.mem_singleton.mp hw
      obtain ⟨u, hu, hid⟩ := List.any_eq_true.mp hany
      obtain rfl := beq_iff_eq.mp hid
      intro r hr
      obtain rfl := List.mem_singleton.mp hr
      exact List.mem_map.mpr ⟨u, by simp [hu], rfl⟩
    · cases hw
  | insertOutbox aggregateId eventType payload =>
    simp only [AccountStmt.exec] at h
    split at h
    · cases h
    · cases h
      obtain rfl := List.mem_singleton.mp hw
      simp [AccountWrite.locks, AccountStmt.rows]

/-- What a statement writes fits the state it sees. -/
theorem fits_exec (hkeys : (db.refreshTokens.map (·.tokenHash)).Nodup)
    (h : st.exec conn c db = .ok ws) (hw : w ∈ ws) : w.Fits db := by
  cases st with
  | insertUser id email hash =>
    simp only [AccountStmt.exec] at h
    split at h
    · cases h
    · next hfresh =>
      cases h
      obtain rfl := List.mem_singleton.mp hw
      intro u hu
      have hnone := fun hmatch => hfresh (List.any_eq_true.mpr ⟨u, hu, hmatch⟩)
      simp only [Bool.or_eq_true, beq_iff_eq] at hnone
      exact ⟨fun hid => hnone (.inl hid), fun hemail => hnone (.inr hemail)⟩
  | insertUserRoles userId role =>
    simp only [AccountStmt.exec] at h
    split at h
    · cases h
      obtain rfl := List.mem_singleton.mp hw
      trivial
    · cases h
  | deleteUser id =>
    cases h
    split at hw
    · next hany =>
      obtain rfl := List.mem_singleton.mp hw
      obtain ⟨u, hu, hid⟩ := List.any_eq_true.mp hany
      exact ⟨u, hu, beq_iff_eq.mp hid⟩
    · cases hw
  | softDeleteUser id =>
    cases h
    split at hw
    · next hany =>
      obtain rfl := List.mem_singleton.mp hw
      obtain ⟨u, hu, hmatch⟩ := List.any_eq_true.mp hany
      simp only [Bool.and_eq_true, beq_iff_eq, Option.isNone_iff_eq_none] at hmatch
      exact ⟨u, hu, hmatch⟩
    · cases hw
  | revokeRefreshTokens userId =>
    cases h
    obtain rfl := List.mem_singleton.mp hw
    intro t ht
    constructor
    · intro hmem
      obtain ⟨t', ht', hhash⟩ := List.mem_map.mp hmem
      obtain ⟨hin, hlive⟩ := List.mem_filter.mp ht'
      obtain rfl : t' = t := List.inj_on_of_nodup_map hkeys hin ht hhash
      simpa using hlive
    · intro hlive
      exact List.mem_map.mpr ⟨t, List.mem_filter.mpr ⟨ht, by simpa using hlive⟩, rfl⟩
  | restoreUser id =>
    cases h
    split at hw
    · next hany =>
      obtain rfl := List.mem_singleton.mp hw
      obtain ⟨u, hu, hid⟩ := List.any_eq_true.mp hany
      exact ⟨u, hu, beq_iff_eq.mp hid⟩
    · cases hw
  | insertOutbox aggregateId eventType payload =>
    simp only [AccountStmt.exec] at h
    split at h
    · cases h
    · next hfresh =>
      cases h
      obtain rfl := List.mem_singleton.mp hw
      intro o ho hid
      exact hfresh (List.any_eq_true.mpr ⟨o, ho, beq_iff_eq.mpr hid⟩)

/-! ## The keys -/

theorem tokenKeys_apply (w : AccountWrite) (h : (db.refreshTokens.map (·.tokenHash)).Nodup) :
    ((w.apply db).refreshTokens.map (·.tokenHash)).Nodup := by
  cases w with
  | deleteUser id => exact h.sublist (List.Sublist.map _ List.filter_sublist)
  | revokeRefreshTokens userId hashes now =>
    have hsame := map_updateWhere (p := fun t : RefreshToken => decide (t.tokenHash ∈ hashes))
      (f := fun t => { t with revokedAt := some now }) (·.tokenHash) (fun _ _ => rfl) db.refreshTokens
    exact hsame.symm ▸ h
  | _ => exact h

theorem tokenKeys_view (h : (db.refreshTokens.map (·.tokenHash)).Nodup) (ws : List AccountWrite) :
    (((accountEngine conn).view ws db).refreshTokens.map (·.tokenHash)).Nodup := by
  induction ws generalizing db with
  | nil => exact h
  | cons w ws ih => exact ih (tokenKeys_apply w h)

theorem keys_apply (h : AccountKeys db) (hfits : w.Fits db) : AccountKeys (w.apply db) := by
  refine ⟨?_, tokenKeys_apply w h.tokens, ?_⟩
  · have hupdate : ∀ (p : UserRow → Bool) (f : UserRow → UserRow), (∀ u, (f u).id = u.id) →
        ((updateWhere p f db.users).map (·.id)).Nodup := by
      intro p f hf
      rw [map_updateWhere _ fun u _ => hf u]
      exact h.users
    cases w with
    | insertUser row =>
      have hnew : row.id ∉ db.users.map (·.id) := by
        intro hmem
        obtain ⟨u, hu, hid⟩ := List.mem_map.mp hmem
        exact (hfits u hu).1 hid
      have hnodup := List.nodup_append.mpr ⟨h.users, List.nodup_singleton row.id, fun a ha b hb hab =>
        hnew (List.mem_singleton.mp hb ▸ hab ▸ ha)⟩
      simpa [AccountWrite.apply] using hnodup
    | deleteUser id => exact h.users.sublist (List.Sublist.map _ List.filter_sublist)
    | softDeleteUser id now => exact hupdate _ _ fun _ => rfl
    | restoreUser id => exact hupdate _ _ fun _ => rfl
    | _ => exact h.users
  · cases w with
    | insertOutbox row =>
      have hnew : row.id ∉ db.outbox.map (·.id) := by
        intro hmem
        obtain ⟨o, ho, hid⟩ := List.mem_map.mp hmem
        exact hfits o ho hid
      have hnodup := List.nodup_append.mpr ⟨h.events, List.nodup_singleton row.id,
        fun a ha b hb hab => hnew (List.mem_singleton.mp hb ▸ hab ▸ ha)⟩
      simpa [AccountWrite.apply] using hnodup
    | _ => exact h.events

/-- Writes that fit and lock different rows keep the keys. -/
theorem keys_view (h : AccountKeys db) (hfits : ∀ w ∈ ws, w.Fits db)
    (hlocks : ws.Pairwise fun w w' => ∀ r ∈ w'.locks, r ∉ w.locks) :
    AccountKeys ((accountEngine conn).view ws db) := by
  induction ws generalizing db with
  | nil => exact h
  | cons w ws ih =>
    obtain ⟨hw, hws⟩ := List.pairwise_cons.mp hlocks
    apply ih (keys_apply h (hfits w (by simp)))
    · intro w' hw'
      exact (hfits w' (by simp [hw'])).apply (hw w' hw')
    · exact hws

/-! ## Transactions that have run -/

/-- What a transaction may write before its event. -/
def AccountTxn.Changes (c : Choice) : AccountTxn → List AccountWrite → Prop
  | .register id _ email hash _, ws =>
    ∃ rows, ws = [.insertUser (newUser id email hash), .insertUserRoles rows]
  | .deleteUser id _ true, ws => ws = [] ∨ ws = [.deleteUser id]
  | .deleteUser id _ false, ws => ∃ hashes, ws = [.revokeRefreshTokens id hashes c.now] ∨
    ws = [.softDeleteUser id c.now, .revokeRefreshTokens id hashes c.now]
  | .restoreUser id _, ws => ws = [] ∨ ws = [.restoreUser id]

theorem ran_insertOutbox {a : Uuid} {e : String} {p : EventPayload}
    (h : (accountEngine conn).Ran c [.insertOutbox a e p] ws) :
    ws = [.insertOutbox ⟨c.uuid, a, e, p, c.now, none⟩] := by
  obtain ⟨s, new, ws', rfl, hx, rfl⟩ := h
  simp only [accountEngine, AccountStmt.exec] at hx
  split at hx
  · cases hx
  · cases hx
    rfl

/-- What a transaction has written when it comes to its commit. -/
theorem ran_body {t : AccountTxn} (h : (accountEngine conn).Ran c t.body ws) :
    ∃ ws₀, t.Changes c ws₀ ∧ ws = ws₀ ++ [.insertOutbox (t.event c)] := by
  cases t with
  | register id userId email hash display =>
    obtain ⟨s, new, ws', rfl, hx, s', new', ws'', rfl, hx', hrest⟩ := h
    obtain rfl := ran_insertOutbox hrest
    simp only [accountEngine, AccountStmt.exec] at hx hx'
    split at hx
    · cases hx
    · cases hx
      split at hx'
      · cases hx'
        exact ⟨_, ⟨_, rfl⟩, rfl⟩
      · cases hx'
  | deleteUser id userId hard =>
    cases hard with
    | true =>
      obtain ⟨s, new, ws', rfl, hx, hrest⟩ := h
      obtain rfl := ran_insertOutbox hrest
      cases hx
      refine ⟨_, ?_, rfl⟩
      split
      · exact .inr rfl
      · exact .inl rfl
    | false =>
      obtain ⟨s, new, ws', rfl, hx, s', new', ws'', rfl, hx', hrest⟩ := h
      obtain rfl := ran_insertOutbox hrest
      cases hx
      cases hx'
      refine ⟨_, ?_, (List.append_assoc _ _ _).symm⟩
      split
      · exact ⟨_, .inr rfl⟩
      · exact ⟨_, .inl rfl⟩
  | restoreUser id userId =>
    obtain ⟨s, new, ws', rfl, hx, hrest⟩ := h
    obtain rfl := ran_insertOutbox hrest
    cases hx
    refine ⟨_, ?_, rfl⟩
    split
    · exact .inr rfl
    · exact .inl rfl

/-- A transaction that commits adds its event to the outbox. -/
theorem ran_outbox {t : AccountTxn} (h : (accountEngine conn).Ran c t.body ws) (db : Db) :
    ((accountEngine conn).view ws db).outbox = db.outbox ++ [t.event c] := by
  obtain ⟨ws₀, hchanges, rfl⟩ := ran_body h
  rw [Engine.view_append]
  change ((accountEngine conn).view ws₀ db).outbox ++ [t.event c] = _
  congr 1
  cases t with
  | register id userId email hash display =>
    obtain ⟨rows, rfl⟩ := hchanges
    rfl
  | deleteUser id userId hard =>
    cases hard with
    | true => rcases hchanges with rfl | rfl <;> rfl
    | false => obtain ⟨hashes, rfl | rfl⟩ := hchanges <;> rfl
  | restoreUser id userId => rcases hchanges with rfl | rfl <;> rfl

/-- The writes of one transaction lock different rows. -/
theorem ran_pairwise {t : AccountTxn} (h : (accountEngine conn).Ran c t.body ws) :
    ws.Pairwise fun w w' => ∀ r ∈ w'.locks, r ∉ w.locks := by
  obtain ⟨ws₀, hchanges, rfl⟩ := ran_body h
  cases t with
  | register id userId email hash display =>
    obtain ⟨rows, rfl⟩ := hchanges
    simp [AccountWrite.locks]
  | deleteUser id userId hard =>
    cases hard with
    | true =>
      rcases hchanges with rfl | rfl
      · simp
      · simp [AccountWrite.locks]
    | false =>
      obtain ⟨hashes, rfl | rfl⟩ := hchanges
      · simp [AccountWrite.locks]
      · simp [AccountWrite.locks]
  | restoreUser id userId =>
    rcases hchanges with rfl | rfl
    · simp
    · simp [AccountWrite.locks]

/-! ## The guard of an open transaction -/

/-- The statements that come before one of a transaction. -/
theorem body_split {t : AccountTxn} {before : List AccountStmt}
    (h : t.body = before ++ st :: sts) :
    before = [] ∨ (∃ id role, st = .insertUserRoles id role) ∨
    (∃ id, st = .revokeRefreshTokens id ∧ before = [.softDeleteUser id]) ∨
    (∃ a e p, st = .insertOutbox a e p ∧ ∀ x ∈ before, ∀ a e p, x ≠ .insertOutbox a e p) := by
  have hbody : t.body.length ≤ 3 := by
    cases t with
    | deleteUser id userId hard => cases hard <;> simp [AccountTxn.body]
    | _ => simp [AccountTxn.body]
  match before, h with
  | [], _ => exact .inl rfl
  | [x], h =>
    right
    cases t with
    | register id userId email hash display =>
      cases h
      exact .inl ⟨_, _, rfl⟩
    | deleteUser id userId hard =>
      cases hard with
      | true =>
        cases h
        exact .inr (.inr ⟨_, _, _, rfl, by simp⟩)
      | false =>
        cases h
        exact .inr (.inl ⟨_, rfl, rfl⟩)
    | restoreUser id userId =>
      cases h
      exact .inr (.inr ⟨_, _, _, rfl, by simp⟩)
  | [x, y], h =>
    right
    cases t with
    | register id userId email hash display =>
      cases h
      exact .inr (.inr ⟨_, _, _, rfl, by simp⟩)
    | deleteUser id userId hard =>
      cases hard with
      | true => cases h
      | false =>
        cases h
        exact .inr (.inr ⟨_, _, _, rfl, by simp⟩)
    | restoreUser id userId => cases h
  | x :: y :: z :: before, h =>
    rw [h] at hbody
    simp only [List.cons_append, List.length_cons, List.length_append] at hbody
    omega

theorem outbox_view_of_ran (h : (accountEngine conn).Ran c sts ws)
    (hsts : ∀ x ∈ sts, ∀ a e p, x ≠ .insertOutbox a e p) (db : Db) :
    ((accountEngine conn).view ws db).outbox = db.outbox := by
  induction sts generalizing ws db with
  | nil =>
    obtain rfl : ws = [] := h
    rfl
  | cons st sts ih =>
    obtain ⟨s, new, ws', rfl, hx, hrest⟩ := h
    rw [Engine.view_append, ih hrest fun x hx => hsts x (by simp [hx])]
    have hst := hsts st (by simp)
    cases st with
    | insertUser id email hash =>
      simp only [accountEngine, AccountStmt.exec] at hx
      split at hx
      · cases hx
      · cases hx
        rfl
    | insertUserRoles userId role =>
      simp only [accountEngine, AccountStmt.exec] at hx
      split at hx
      · cases hx
        rfl
      · cases hx
    | insertOutbox a e p => exact absurd rfl (hst a e p)
    | revokeRefreshTokens userId =>
      cases hx
      rfl
    | _ =>
      cases hx
      split <;> rfl

/-- What a statement writes fits the committed state as well: its transaction has
written nothing yet to the table it looks at. -/
theorem fits_committed {t : AccountTxn} {before : List AccountStmt} {new : List AccountWrite}
    (hkeys : AccountKeys db) (hbody : t.body = before ++ st :: sts)
    (hran : (accountEngine conn).Ran c before ws)
    (hx : (accountEngine conn).exec st c ((accountEngine conn).view ws db) = .ok new)
    (hw : w ∈ new) : w.Fits db := by
  have hview := fits_exec (tokenKeys_view hkeys.tokens ws) hx hw
  rcases body_split hbody with rfl | ⟨id, role, rfl⟩ | ⟨id, rfl, rfl⟩ | ⟨a, e, p, rfl, hbefore⟩
  · have hnone : ws = [] := hran
    rw [hnone] at hview
    exact hview
  · simp only [accountEngine, AccountStmt.exec] at hx
    split at hx
    · cases hx
      obtain rfl := List.mem_singleton.mp hw
      trivial
    · cases hx
  · have htokens : ((accountEngine conn).view ws db).refreshTokens = db.refreshTokens := by
      obtain ⟨s, new', ws', rfl, hx', rfl⟩ := hran
      cases hx'
      split <;> rfl
    cases hx
    obtain rfl := List.mem_singleton.mp hw
    simp only [AccountWrite.Fits, htokens] at hview
    exact hview
  · have houtbox := outbox_view_of_ran hran hbefore db
    simp only [accountEngine, AccountStmt.exec] at hx
    split at hx
    · cases hx
    · cases hx
      obtain rfl := List.mem_singleton.mp hw
      simp only [AccountWrite.Fits, houtbox] at hview
      exact hview

/-- The writes of an open transaction are locked, and still fit. -/
def Guarded (t : Txn AccountTxn AccountStmt AccountWrite LockedRow Choice) (db : Db) : Prop :=
  ∀ w ∈ t.writes, (∀ r ∈ w.locks, r ∈ t.held) ∧ w.Fits db

theorem guard_account (conn : DbRole) :
    Store.Guard (accountEngine conn) AccountTxn.body AccountKeys Guarded where
  start k c s _ w hw := by cases hw
  stmt t before st rest new s hrest hbody hran hkeys hG hx w hw := by
    rcases List.mem_append.mp hw with hold | hnew
    · obtain ⟨hlocks, hfits⟩ := hG w hold
      exact ⟨fun r hr => List.mem_append_left _ (hlocks r hr), hfits⟩
    · exact ⟨fun r hr => List.mem_append_right _ (locks_exec hx hnew r hr),
        fits_committed hkeys hbody hran hx hnew⟩
  commit t t' s _ hG hG' hdisjoint _ w hw := by
    obtain ⟨hlocks, hfits⟩ := hG w hw
    refine ⟨hlocks, hfits.view ?_⟩
    intro w' hw' r hr hr'
    exact hdisjoint r (hlocks r hr) r ((hG' w' hw').1 r hr') ⟨decide_eq_true rfl, decide_eq_true rfl⟩
  keep t s hkeys hG hran := keys_view hkeys (fun w hw => (hG w hw).2) (ran_pairwise hran)

end Writes

namespace Sample

/-- The transaction begins, runs its statements and commits, with no other in between. -/
def wholeTxn (i : Nat) (k : AccountTxn) (c : Choice) : List AccountLabel :=
  .start k c :: k.body.map (fun _ => .stmt i) ++ [.commit i]

def signUp : AccountTxn := .register 10 (formatUuid 10) "u@iam.local" "password" "u"

def removal : AccountTxn := .deleteUser 10 (formatUuid 10) false

def restoration : AccountTxn := .restoreUser 10 (formatUuid 10)

theorem accountKeys : AccountKeys migrated where
  users := List.nodup_nil
  tokens := List.nodup_nil
  events := List.nodup_nil

end Sample

end IamAuth
