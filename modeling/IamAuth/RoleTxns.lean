import IamAuth.Acknowledged
import IamAuth.Interleave.ReadCommitted

/-!
# The transactions that administer roles, statement by statement

Each call runs the checks of its handler, one statement each, and then the one write
that repo.rs puts between `tenant_tx` and its commit. An inserted row locks the role it
refers to FOR KEY SHARE; a row that is there already is passed over without a lock.
Nothing here deletes users, tenants, projects or permissions, so the locks on those rows
are left out. A statement that has waited reads again when it goes on; where Postgres
refuses it instead, because the role it had selected is gone, it is rolled back.
-/

set_option autoImplicit false

namespace IamAuth

open Interleave Relational

/-- The calls of the role administration, with what their requests resolve to. The checks
of assign_role_bulk are made once for all its users; `assignEntry` is one of them. -/
inductive RoleCall where
  | createRole (name description : String) (tenantId : Uuid)
  | updateRole (name description : String) (tenantId : Uuid)
  | deleteRole (name : String) (tenantId : Uuid)
  | assignRole (a : Scope) (roleName : String)
  | assignEntry (a : Scope) (roleName : String)
  | revokeRole (a : Scope) (roleName : String)
  | grantPermission (roleName permName : String) (tenantId : Uuid)
  | revokePermission (roleName permName : String) (tenantId : Uuid)
  deriving DecidableEq, Repr

/-- What a handler asks before it writes; it goes on if the answer is yes. -/
inductive RoleCheck where
  | roleExists (name : String)
  | roleInTenant (name : String) (tenantId : Uuid)
  | tenantRoleExists (name : String) (tenantId : Uuid)
  | isProjectInTenant (projectId tenantId : Uuid)
  deriving DecidableEq, Repr

inductive RoleStmt where
  | check (q : RoleCheck)
  | insertRole (name description : String) (tenantId : Uuid)
  | updateRole (name description : String) (tenantId : Uuid)
  | deleteRole (name : String) (tenantId : Uuid)
  | insertUserRole (a : Scope) (roleName : String)
  | deleteUserRole (a : Scope) (roleName : String)
  | insertRolePermission (roleName permName : String) (tenantId : Uuid)
  | deleteRolePermission (roleName permName : String) (tenantId : Uuid)
  deriving DecidableEq, Repr

/-- The write of a call as one step, its transaction and all. -/
def RoleCall.sql : RoleCall → Sql
  | .createRole name description tenantId => .createRole name description tenantId
  | .updateRole name description tenantId => .updateRole name description tenantId
  | .deleteRole name tenantId => .deleteRole name tenantId
  | .assignRole a roleName => .assignRole a.user roleName a.tenant a.project
  | .assignEntry a roleName => .assignRole a.user roleName a.tenant a.project
  | .revokeRole a roleName => .revokeRole a.user roleName a.tenant a.project
  | .grantPermission roleName permName tenantId => .grantPermission roleName permName tenantId
  | .revokePermission roleName permName tenantId => .revokePermission roleName permName tenantId

def RoleCall.checks : RoleCall → List RoleCheck
  | .deleteRole name tenantId => [.tenantRoleExists name tenantId]
  | .assignRole a roleName =>
    .roleInTenant roleName a.tenant ::
      (a.project.map fun p => .isProjectInTenant p a.tenant).toList
  | .revokeRole _ roleName => [.roleExists roleName]
  | .grantPermission roleName _ tenantId => [.tenantRoleExists roleName tenantId]
  | .revokePermission roleName _ tenantId => [.tenantRoleExists roleName tenantId]
  | _ => []

def RoleCall.stmt : RoleCall → RoleStmt
  | .createRole name description tenantId => .insertRole name description tenantId
  | .updateRole name description tenantId => .updateRole name description tenantId
  | .deleteRole name tenantId => .deleteRole name tenantId
  | .assignRole a roleName => .insertUserRole a roleName
  | .assignEntry a roleName => .insertUserRole a roleName
  | .revokeRole a roleName => .deleteUserRole a roleName
  | .grantPermission roleName permName tenantId => .insertRolePermission roleName permName tenantId
  | .revokePermission roleName permName tenantId => .deleteRolePermission roleName permName tenantId

def RoleCall.body (k : RoleCall) : List RoleStmt := k.checks.map .check ++ [k.stmt]

/-- Why a statement ends its call: the answer was no, or Postgres refused it. -/
inductive RoleError where
  | refused
  | db (e : DbError)
  deriving DecidableEq, Repr

inductive RoleWrite where
  | insertRole (row : RoleRecord)
  | updateRole (ids : List Nat) (description : String)
  | deleteRoles (ids : List Nat)
  | insertUserRoles (rows : List UserRole)
  | deleteUserRoles (rows : List UserRole)
  | insertRolePermissions (rows : List RolePermission)
  | deleteRolePermissions (rows : List RolePermission)
  deriving DecidableEq, Repr

/-- A row, or the entry of a unique index. -/
inductive RoleKey where
  | role (id : Nat)
  | roleName (tenantId : Uuid) (name : String)
  | assignment (key : Uuid × Nat × Uuid × Uuid)
  | pair (rp : RolePermission)
  deriving DecidableEq, Repr

/-- The locks on a row. An insert that finds its key taken only probes: it waits for
whoever is inserting or deleting the row, and holds nothing afterwards. -/
inductive LockMode where
  | probe
  | keyShare
  | noKeyUpdate
  | exclusive
  deriving DecidableEq, Repr

def LockMode.conflicts : LockMode → LockMode → Bool
  | _, .probe => false
  | .exclusive, _ => true
  | _, .exclusive => true
  | .noKeyUpdate, .noKeyUpdate => true
  | _, _ => false

structure RoleLock where
  row : RoleKey
  mode : LockMode
  deriving DecidableEq, Repr

def RoleLock.conflicts (l l' : RoleLock) : Bool :=
  l.row == l'.row && l.mode.conflicts l'.mode

def RoleCheck.holds (conn : DbRole) (db : Db) : RoleCheck → Bool
  | .roleExists name => Repo.roleExists conn name db
  | .roleInTenant name tenantId => Repo.roleInTenant conn name tenantId db
  | .tenantRoleExists name tenantId => Repo.tenantRoleExists conn name tenantId db
  | .isProjectInTenant projectId tenantId => Repo.isProjectInTenant conn projectId tenantId db

def RoleWrite.apply : RoleWrite → Db → Db
  | .insertRole row, db =>
    { db with roles := db.roles ++ [row], rolesIdSeq := max db.rolesIdSeq row.id }
  | .updateRole ids description, db =>
    { db with
      roles := updateWhere (fun r => decide (r.id ∈ ids))
        (fun r => { r with description := description }) db.roles }
  | .deleteRoles ids, db => Repo.deleteRoleRows (fun r => decide (r.id ∈ ids)) db
  | .insertUserRoles rows, db => { db with userRoles := db.userRoles ++ rows }
  | .deleteUserRoles rows, db =>
    { db with userRoles := deleteWhere (fun ur => decide (ur ∈ rows)) db.userRoles }
  | .insertRolePermissions rows, db => { db with rolePermissions := db.rolePermissions ++ rows }
  | .deleteRolePermissions rows, db =>
    { db with rolePermissions := deleteWhere (fun rp => decide (rp ∈ rows)) db.rolePermissions }

/-- `nextId` is what `roles_id_seq` gives, which no rollback takes back. -/
def RoleStmt.exec (conn : DbRole) : RoleStmt → Nat → Db → Except RoleError (List RoleWrite)
  | .check q, _, db => if q.holds conn db then .ok [] else .error .refused
  | .insertRole name description tenantId, nextId, db =>
    if !(tenantTx tenantId).sees (some tenantId) then .error (.db .rowSecurity)
    else if db.roles.any (Repo.ownRole name tenantId) then .error (.db .uniqueViolation)
    else if db.roles.any fun r => r.id == nextId then .error (.db .uniqueViolation)
    else if !db.tenants.any fun t => t.id == tenantId then .error (.db .foreignKeyViolation)
    else .ok [.insertRole ⟨⟨nextId, name, description⟩, some tenantId⟩]
  | .updateRole name description tenantId, _, db =>
    .ok [.updateRole (Repo.ownRoleIds name tenantId db) description]
  | .deleteRole name tenantId, _, db => .ok [.deleteRoles (Repo.ownRoleIds name tenantId db)]
  | .insertUserRole a roleName, _, db =>
    match Repo.assignRole a.user roleName a.tenant a.project db with
    | .ok (_, db') => .ok [.insertUserRoles (db'.userRoles.drop db.userRoles.length)]
    | .error e => .error (.db e)
  | .deleteUserRole a roleName, _, db =>
    match Repo.revokeRole a.user roleName a.tenant a.project db with
    | .ok (_, db') => .ok [.deleteUserRoles (db.userRoles.filter fun ur => ur ∉ db'.userRoles)]
    | .error e => .error (.db e)
  | .insertRolePermission roleName permName tenantId, _, db =>
    let db' := Repo.grantPermission roleName permName tenantId db
    .ok [.insertRolePermissions (db'.rolePermissions.drop db.rolePermissions.length)]
  | .deleteRolePermission roleName permName tenantId, _, db =>
    match Repo.revokePermission roleName permName tenantId db with
    | .ok (_, db') =>
      .ok [.deleteRolePermissions (db.rolePermissions.filter fun rp => rp ∉ db'.rolePermissions)]
    | .error e => .error (.db e)

/-- The locks of an `INSERT ... ON CONFLICT DO NOTHING` for one row. -/
def insertLocks (key : RoleKey) (roleId : Nat) (taken : Bool) : List RoleLock :=
  if taken then [⟨key, .probe⟩] else [⟨key, .exclusive⟩, ⟨.role roleId, .keyShare⟩]

/-- The pairs that grant_permission selects. -/
def grantedPairs (roleName permName : String) (tenantId : Uuid) (db : Db) : List RolePermission :=
  (Repo.ownRoleIds roleName tenantId db).flatMap fun r =>
    (Repo.permissionIds permName db).map fun p => ⟨r, p⟩

def RoleStmt.rows (st : RoleStmt) (nextId : Nat) (db : Db) : List RoleLock :=
  match st with
  | .check _ => []
  | .insertRole name _ tenantId => [⟨.role nextId, .exclusive⟩, ⟨.roleName tenantId name, .exclusive⟩]
  | .updateRole name _ tenantId =>
    (Repo.ownRoleIds name tenantId db).map fun id => ⟨.role id, .noKeyUpdate⟩
  | .deleteRole name tenantId =>
    (Repo.ownRoleIds name tenantId db).flatMap fun id =>
      [⟨.role id, .exclusive⟩, ⟨.roleName tenantId name, .exclusive⟩] ++
        ((db.rolePermissions.filter fun rp => rp.roleId == id).map fun rp =>
          ⟨.pair rp, .exclusive⟩) ++
        (db.userRoles.filter fun ur => ur.roleId == id).map fun ur =>
          ⟨.assignment (Repo.assignmentKey ur), .exclusive⟩
  | .insertUserRole a roleName =>
    (Repo.resolveRole roleName a.tenant db).flatMap fun id =>
      let key := Repo.assignmentKey ⟨a.user, id, a.tenant, a.project⟩
      insertLocks (.assignment key) id (db.userRoles.any fun x => Repo.assignmentKey x == key)
  | .insertRolePermission roleName permName tenantId =>
    (grantedPairs roleName permName tenantId db).flatMap fun rp =>
      insertLocks (.pair rp) rp.roleId (decide (rp ∈ db.rolePermissions))
  | .deleteUserRole a roleName =>
    match Repo.revokeRole a.user roleName a.tenant a.project db with
    | .ok (_, db') => (db.userRoles.filter fun ur => ur ∉ db'.userRoles).map fun ur =>
      ⟨.assignment (Repo.assignmentKey ur), .exclusive⟩
    | .error _ => []
  | .deleteRolePermission roleName permName tenantId =>
    match Repo.revokePermission roleName permName tenantId db with
    | .ok (_, db') => (db.rolePermissions.filter fun rp => rp ∉ db'.rolePermissions).map fun rp =>
      ⟨.pair rp, .exclusive⟩
    | .error _ => []

def roleEngine (conn : DbRole) : Engine RoleStmt RoleWrite RoleLock Db Nat RoleError where
  exec := RoleStmt.exec conn
  rows := RoleStmt.rows
  conflicts := RoleLock.conflicts
  apply := RoleWrite.apply

abbrev RoleTxn := Txn RoleCall RoleStmt RoleWrite RoleLock Nat

abbrev RoleStore := Store RoleCall RoleStmt RoleWrite RoleLock Db Nat

abbrev RoleLabel := TxnLabel RoleCall Nat

abbrev RoleStore.next (conn : DbRole) (s : RoleStore) (l : RoleLabel) : RoleStore :=
  Store.next (roleEngine conn) RoleCall.body s l

/-! ## What the writes do to the rows -/

/-- The keys of the pairs and assignments that a write inserts. -/
def RoleWrite.inserts : RoleWrite → List RoleKey
  | .insertUserRoles rows => rows.map fun ur => .assignment (Repo.assignmentKey ur)
  | .insertRolePermissions rows => rows.map .pair
  | _ => []

/-- The write deletes the row, on its own or by a cascade. -/
def RoleWrite.removes : RoleWrite → RoleKey → Bool
  | .deleteRoles ids, .role id => decide (id ∈ ids)
  | .deleteRoles ids, .assignment key => decide (key.2.1 ∈ ids)
  | .deleteRoles ids, .pair rp => decide (rp.roleId ∈ ids)
  | .deleteUserRoles rows, .assignment key => decide (key ∈ rows.map Repo.assignmentKey)
  | .deleteRolePermissions rows, .pair rp => decide (rp ∈ rows)
  | _, _ => false

/-- The pair or assignment is there. -/
def RoleKey.In (db : Db) : RoleKey → Prop
  | .assignment key => ∃ ur ∈ db.userRoles, Repo.assignmentKey ur = key
  | .pair rp => rp ∈ db.rolePermissions
  | _ => False

/-- The pair or assignment with this key, of the role `id`, is one that the call is to
insert. -/
def RoleCall.Asks (k : RoleCall) (db : Db) (id : Nat) (key : RoleKey) : Prop :=
  match k with
  | .grantPermission roleName permName tenantId =>
    (∃ r ∈ db.roles, r.name = roleName ∧ r.tenantId = some tenantId ∧ r.id = id) ∧
      ∃ p ∈ db.permissions, p.name = permName ∧ key = .pair ⟨id, p.id⟩
  | .assignRole a roleName | .assignEntry a roleName =>
    (∃ r ∈ db.roles, r.name = roleName ∧ visibleIn a.tenant r ∧ r.id = id) ∧
      key = .assignment (Repo.assignmentKey ⟨a.user, id, a.tenant, a.project⟩)
  | _ => False

section Writes

variable {conn : DbRole} {k : RoleCall} {db : Db} {w : RoleWrite} {ws : List RoleWrite} {id n : Nat}
  {key : RoleKey}

@[simp] theorem permissions_apply (w : RoleWrite) (db : Db) :
    (w.apply db).permissions = db.permissions := by
  cases w <;> rfl

@[simp] theorem projects_apply (w : RoleWrite) (db : Db) : (w.apply db).projects = db.projects := by
  cases w <;> rfl

/-- A role that a write does not delete keeps its name and its tenant. -/
theorem roles_apply {r : RoleRecord} (hr : r ∈ db.roles) (hkeep : w.removes (.role r.id) = false) :
    ∃ r' ∈ (w.apply db).roles, r'.id = r.id ∧ r'.name = r.name ∧ r'.tenantId = r.tenantId := by
  cases w with
  | insertRole row => exact ⟨r, List.mem_append_left _ hr, rfl, rfl, rfl⟩
  | updateRole ids description =>
    refine ⟨_, mem_updateWhere.2 ⟨r, hr, rfl⟩, ?_⟩
    split <;> exact ⟨rfl, rfl, rfl⟩
  | deleteRoles ids =>
    simp only [RoleWrite.removes] at hkeep
    exact ⟨r, mem_deleteWhere.2 ⟨hr, hkeep⟩, rfl, rfl, rfl⟩
  | _ => exact ⟨r, hr, rfl, rfl, rfl⟩

theorem RoleCall.Asks.apply (h : k.Asks db id key) (hkeep : w.removes (.role id) = false) :
    k.Asks (w.apply db) id key := by
  cases k with
  | grantPermission roleName permName tenantId =>
    obtain ⟨⟨r, hr, hname, htenant, rfl⟩, hperm⟩ := h
    obtain ⟨r', hr', hid, hname', htenant'⟩ := roles_apply hr hkeep
    refine ⟨⟨r', hr', hname'.trans hname, htenant'.trans htenant, hid⟩, ?_⟩
    rw [permissions_apply]
    exact hperm
  | assignRole a roleName =>
    obtain ⟨⟨r, hr, hname, hvis, rfl⟩, hkey⟩ := h
    obtain ⟨r', hr', hid, hname', htenant'⟩ := roles_apply hr hkeep
    refine ⟨⟨r', hr', hname'.trans hname, ?_, hid⟩, hkey⟩
    rw [visibleIn, htenant']
    exact hvis
  | assignEntry a roleName =>
    obtain ⟨⟨r, hr, hname, hvis, rfl⟩, hkey⟩ := h
    obtain ⟨r', hr', hid, hname', htenant'⟩ := roles_apply hr hkeep
    refine ⟨⟨r', hr', hname'.trans hname, ?_, hid⟩, hkey⟩
    rw [visibleIn, htenant']
    exact hvis
  | _ => exact h.elim

theorem RoleCall.Asks.view (h : k.Asks db id key) (hkeep : ∀ w ∈ ws, w.removes (.role id) = false) :
    k.Asks ((roleEngine conn).view ws db) id key := by
  induction ws generalizing db with
  | nil => exact h
  | cons w ws ih => exact ih (h.apply (hkeep w (by simp))) fun w' hw' => hkeep w' (by simp [hw'])

/-- What a call has found stays as long as nobody deletes it. -/
theorem RoleKey.In.apply (h : key.In db) (hkeep : w.removes key = false) : key.In (w.apply db) := by
  cases key with
  | role id => exact h.elim
  | roleName tenantId name => exact h.elim
  | assignment key =>
    obtain ⟨ur, hur, rfl⟩ := h
    refine ⟨ur, ?_, rfl⟩
    cases w with
    | deleteRoles ids =>
      have hkept : ∀ r ∈ db.roles, r.id ∈ ids → r.id ≠ ur.roleId := by
        intro r _ hr hid
        rw [hid] at hr
        simp [RoleWrite.removes, Repo.assignmentKey, hr] at hkeep
      refine mem_deleteWhere.2 ⟨hur, ?_⟩
      simpa using hkept
    | insertUserRoles rows => exact List.mem_append_left _ hur
    | deleteUserRoles rows =>
      refine mem_deleteWhere.2 ⟨hur, decide_eq_false fun hin => ?_⟩
      have := List.mem_map_of_mem (f := Repo.assignmentKey) hin
      simp [RoleWrite.removes, this] at hkeep
    | _ => exact hur
  | pair rp =>
    cases w with
    | deleteRoles ids =>
      have hkept : ∀ r ∈ db.roles, r.id ∈ ids → r.id ≠ rp.roleId := by
        intro r _ hr hid
        rw [hid] at hr
        simp [RoleWrite.removes, hr] at hkeep
      refine mem_deleteWhere.2 ⟨h, ?_⟩
      simpa using hkept
    | insertRolePermissions rows => exact List.mem_append_left _ h
    | deleteRolePermissions rows => exact mem_deleteWhere.2 ⟨h, hkeep⟩
    | _ => exact h

theorem RoleKey.In.view (h : key.In db) (hkeep : ∀ w ∈ ws, w.removes key = false) :
    key.In ((roleEngine conn).view ws db) := by
  induction ws generalizing db with
  | nil => exact h
  | cons w ws ih => exact ih (h.apply (hkeep w (by simp))) fun w' hw' => hkeep w' (by simp [hw'])

/-- The cascade from a role takes the rows of that role. -/
theorem RoleCall.Asks.removes (h : k.Asks db id key) (hkeep : w.removes key = false) :
    w.removes (.role id) = false := by
  cases w with
  | deleteRoles ids =>
    cases k with
    | grantPermission roleName permName tenantId =>
      obtain ⟨-, p, -, -, rfl⟩ := h
      exact hkeep
    | assignRole a roleName =>
      obtain ⟨-, rfl⟩ := h
      exact hkeep
    | assignEntry a roleName =>
      obtain ⟨-, rfl⟩ := h
      exact hkeep
    | _ => exact h.elim
  | _ => rfl

theorem in_of_inserts (h : key ∈ w.inserts) : key.In (w.apply db) := by
  cases w with
  | insertUserRoles rows =>
    obtain ⟨ur, hur, rfl⟩ := List.mem_map.mp h
    exact ⟨ur, List.mem_append_right _ hur, rfl⟩
  | insertRolePermissions rows =>
    obtain ⟨rp, hrp, rfl⟩ := List.mem_map.mp h
    exact List.mem_append_right _ hrp
  | _ => cases h

/-! ## What the statements do -/

theorem mem_grantedPairs {roleName permName : String} {tenantId : Uuid} {rp : RolePermission} :
    rp ∈ grantedPairs roleName permName tenantId db ↔ Granted db roleName permName tenantId rp := by
  simp only [grantedPairs, List.mem_flatMap, List.mem_map, mem_ownRoleIds, mem_permissionIds]
  constructor
  · rintro ⟨r, hr, p, hp, rfl⟩
    exact ⟨hr, hp⟩
  · rintro ⟨hr, hp⟩
    exact ⟨rp.roleId, hr, rp.permissionId, hp, rfl⟩

/-- The new rows of an `INSERT ... ON CONFLICT DO NOTHING` of pairs. -/
theorem insertRolePermissions_rows (table new : List RolePermission) :
    ∃ added, Repo.insertRolePermissions table new = table ++ added ∧
      ∀ rp, rp ∈ added ↔ rp ∈ new ∧ rp ∉ table := by
  induction new generalizing table with
  | nil => exact ⟨[], by simp [Repo.insertRolePermissions]⟩
  | cons x new ih =>
    by_cases hx : x ∈ table
    · obtain ⟨added, hadded, hall⟩ := ih table
      refine ⟨added, by simp [Repo.insertRolePermissions, hx, hadded], fun rp => ?_⟩
      rw [hall rp, List.mem_cons]
      constructor
      · intro h
        exact ⟨.inr h.1, h.2⟩
      · rintro ⟨rfl | h, hout⟩
        · exact absurd hx hout
        · exact ⟨h, hout⟩
    · obtain ⟨added, hadded, hall⟩ := ih (table ++ [x])
      refine ⟨x :: added, by simp [Repo.insertRolePermissions, hx, hadded], fun rp => ?_⟩
      rw [List.mem_cons, List.mem_cons, hall rp, List.mem_append, List.mem_singleton]
      constructor
      · rintro (rfl | ⟨h, hout⟩)
        · exact ⟨.inl rfl, hx⟩
        · exact ⟨.inr h, fun hin => hout (.inl hin)⟩
      · rintro ⟨rfl | h, hout⟩
        · exact .inl rfl
        · by_cases hrp : rp = x
          · exact .inl hrp
          · exact .inr ⟨h, by simp [hout, hrp]⟩

/-- The pairs that a grant inserts: those it selects and does not find. -/
theorem exec_insertRolePermission {roleName permName : String} {tenantId : Uuid}
    (h : (RoleStmt.insertRolePermission roleName permName tenantId).exec conn n db = .ok ws) :
    ∃ rows, ws = [.insertRolePermissions rows] ∧
      ∀ rp, rp ∈ rows ↔ Granted db roleName permName tenantId rp ∧ rp ∉ db.rolePermissions := by
  obtain ⟨added, hadded, hall⟩ := insertRolePermissions_rows db.rolePermissions
    (grantedPairs roleName permName tenantId db)
  have hdrop : (Repo.grantPermission roleName permName tenantId db).rolePermissions.drop
      db.rolePermissions.length = added := by
    change (Repo.insertRolePermissions db.rolePermissions
      (grantedPairs roleName permName tenantId db)).drop _ = added
    rw [hadded, List.drop_left]
  refine ⟨added, ?_, fun rp => ?_⟩
  · cases h
    rw [hdrop]
  · rw [hall rp, mem_grantedPairs]

theorem insertUserRoles_fresh {s : Session} {u tenant : Uuid} {p : Option Uuid} {rs : List Nat} {db' : Db}
    (h : Repo.insertUserRoles s u tenant p rs db = .ok db') :
    ∃ new, db'.userRoles = db.userRoles ++ new ∧
      ∀ ur ∈ new, ∀ x ∈ db.userRoles, Repo.assignmentKey x ≠ Repo.assignmentKey ur := by
  induction rs generalizing db with
  | nil =>
    cases h
    exact ⟨[], by simp⟩
  | cons r rs ih =>
    simp only [Repo.insertUserRoles] at h
    split at h
    · next db₁ h₁ =>
      obtain ⟨new, hnew, hfresh⟩ := ih h
      unfold Repo.insertUserRole at h₁
      split at h₁
      · cases h₁
      · split at h₁
        · cases h₁
          exact ⟨new, hnew, hfresh⟩
        · next hnone =>
          split at h₁
          · cases h₁
          · cases h₁
            refine ⟨⟨u, r, tenant, p⟩ :: new, by simp [hnew], fun ur hur x hx => ?_⟩
            rcases List.mem_cons.mp hur with rfl | hur
            · intro hkey
              exact hnone (List.any_eq_true.mpr ⟨x, hx, beq_iff_eq.mpr hkey⟩)
            · exact hfresh ur hur x (List.mem_append_left _ hx)
    · cases h

/-- The assignments that an insert adds: those it selects and does not find. -/
theorem exec_insertUserRole {a : Scope} {roleName : String}
    (h : (RoleStmt.insertUserRole a roleName).exec conn n db = .ok ws) :
    ∃ rows, ws = [.insertUserRoles rows] ∧ (∀ ur ∈ rows, Repo.userRoleReferences ur db = true) ∧
      ∀ ur, ur ∈ rows ↔ (∃ id ∈ Repo.resolveRole roleName a.tenant db,
        ur = ⟨a.user, id, a.tenant, a.project⟩) ∧
        ∀ x ∈ db.userRoles, Repo.assignmentKey x ≠ Repo.assignmentKey ur := by
  simp only [RoleStmt.exec] at h
  split at h
  · next u db' hassign =>
    cases h
    obtain ⟨new, hnew, hall⟩ := insertUserRoles_rows (assignRole_ok hassign)
    obtain ⟨new', hnew', hfresh⟩ := insertUserRoles_fresh (assignRole_ok hassign)
    obtain rfl : new = new' := List.append_cancel_left (hnew.symm.trans hnew')
    rw [hnew, List.drop_left]
    refine ⟨new, rfl, fun ur hur => (hall ur hur).2, fun ur => ⟨fun hur => ?_, ?_⟩⟩
    · exact ⟨(hall ur hur).1, hfresh ur hur⟩
    · rintro ⟨⟨id, hid, rfl⟩, hnone⟩
      obtain ⟨x, hx, hkey⟩ := assigned_insertUserRoles (assignRole_ok hassign) hid
      rw [hnew] at hx
      rcases List.mem_append.mp hx with hold | hin
      · exact absurd hkey (hnone x hold)
      · obtain ⟨⟨id', -, rfl⟩, -⟩ := hall x hin
        simp only [Repo.assignmentKey, Prod.mk.injEq, true_and, and_true] at hkey
        exact hkey ▸ hin
  · cases h

/-- What a call writes, by what it reads. -/
def RoleCall.Writes (k : RoleCall) (db : Db) (w : RoleWrite) : Prop :=
  match k with
  | .createRole .. => ∃ row, w = .insertRole row
  | .updateRole .. => ∃ ids description, w = .updateRole ids description
  | .deleteRole name tenantId => w = .deleteRoles (Repo.ownRoleIds name tenantId db)
  | .assignRole a roleName | .assignEntry a roleName => ∃ rows, w = .insertUserRoles rows ∧
      (∀ ur ∈ rows, Repo.userRoleReferences ur db = true) ∧
      ∀ ur, ur ∈ rows ↔ (∃ id ∈ Repo.resolveRole roleName a.tenant db,
        ur = ⟨a.user, id, a.tenant, a.project⟩) ∧
        ∀ x ∈ db.userRoles, Repo.assignmentKey x ≠ Repo.assignmentKey ur
  | .revokeRole .. => ∃ rows, w = .deleteUserRoles rows
  | .grantPermission roleName permName tenantId => ∃ rows, w = .insertRolePermissions rows ∧
      ∀ rp, rp ∈ rows ↔ Granted db roleName permName tenantId rp ∧ rp ∉ db.rolePermissions
  | .revokePermission .. => ∃ rows, w = .deleteRolePermissions rows

theorem writes_exec (h : k.stmt.exec conn n db = .ok ws) : ∃ w, ws = [w] ∧ k.Writes db w := by
  have hassign : ∀ (a : Scope) (roleName : String),
      (RoleStmt.insertUserRole a roleName).exec conn n db = .ok ws →
      ∃ w, ws = [w] ∧ (RoleCall.assignEntry a roleName).Writes db w := by
    intro a roleName h
    obtain ⟨rows, hws, hrows⟩ := exec_insertUserRole h
    exact ⟨_, hws, rows, rfl, hrows⟩
  cases k with
  | createRole name description tenantId =>
    simp only [RoleCall.stmt, RoleStmt.exec] at h
    repeat' split at h
    all_goals cases h
    exact ⟨_, rfl, _, rfl⟩
  | updateRole name description tenantId =>
    cases h
    exact ⟨_, rfl, _, _, rfl⟩
  | deleteRole name tenantId =>
    cases h
    exact ⟨_, rfl, rfl⟩
  | assignRole a roleName => exact hassign a roleName h
  | assignEntry a roleName => exact hassign a roleName h
  | revokeRole a roleName =>
    simp only [RoleCall.stmt, RoleStmt.exec] at h
    split at h
    all_goals cases h
    exact ⟨_, rfl, _, rfl⟩
  | grantPermission roleName permName tenantId =>
    obtain ⟨rows, hws, hrows⟩ := exec_insertRolePermission h
    exact ⟨_, hws, rows, rfl, hrows⟩
  | revokePermission roleName permName tenantId =>
    simp only [RoleCall.stmt, RoleStmt.exec] at h
    split at h
    all_goals cases h
    exact ⟨_, rfl, _, rfl⟩

/-- What a call inserts is what it asks for, and its role is locked. -/
theorem inserts_exec (h : k.stmt.exec conn n db = .ok ws) (hw : w ∈ ws) (hkey : key ∈ w.inserts) :
    ∃ id, k.Asks db id key ∧ ⟨.role id, .keyShare⟩ ∈ k.stmt.rows n db := by
  have hassign : ∀ (a : Scope) (roleName : String), (RoleCall.assignEntry a roleName).Writes db w →
      ∃ id, (RoleCall.assignEntry a roleName).Asks db id key ∧
        ⟨.role id, .keyShare⟩ ∈ (RoleStmt.insertUserRole a roleName).rows n db := by
    intro a roleName hwrites
    obtain ⟨rows, rfl, -, hrows⟩ := hwrites
    obtain ⟨ur, hur, rfl⟩ := List.mem_map.mp hkey
    obtain ⟨⟨id, hid, rfl⟩, hnone⟩ := (hrows ur).1 hur
    obtain ⟨r, hr, rfl, hvis, hname⟩ := mem_resolveRole hid
    refine ⟨r.id, ⟨⟨r, hr, hname, hvis, rfl⟩, rfl⟩, List.mem_flatMap.mpr ⟨r.id, hid, ?_⟩⟩
    have hfree : (db.userRoles.any fun x => Repo.assignmentKey x ==
        Repo.assignmentKey ⟨a.user, r.id, a.tenant, a.project⟩) = false := by
      apply List.any_eq_false.mpr
      intro x hx hkey
      exact hnone x hx (beq_iff_eq.mp hkey)
    simp [insertLocks, hfree]
  obtain ⟨w', rfl, hwrites⟩ := writes_exec h
  obtain rfl := List.mem_singleton.mp hw
  cases k with
  | grantPermission roleName permName tenantId =>
    obtain ⟨rows, rfl, hrows⟩ := hwrites
    obtain ⟨rp, hrp, rfl⟩ := List.mem_map.mp hkey
    obtain ⟨hgranted, hout⟩ := (hrows rp).1 hrp
    refine ⟨rp.roleId, ⟨hgranted.1, ?_⟩, ?_⟩
    · obtain ⟨p, hp, hname, hid⟩ := hgranted.2
      exact ⟨p, hp, hname, by rw [hid]⟩
    · exact List.mem_flatMap.mpr ⟨rp, mem_grantedPairs.2 hgranted, by simp [insertLocks, hout]⟩
  | assignRole a roleName => exact hassign a roleName hwrites
  | assignEntry a roleName => exact hassign a roleName hwrites
  | deleteRole name tenantId =>
    obtain rfl := hwrites
    cases hkey
  | updateRole name description tenantId =>
    obtain ⟨ids, description, rfl⟩ := hwrites
    cases hkey
  | _ =>
    obtain ⟨rows, rfl⟩ := hwrites
    cases hkey

/-- The roles that a call deletes are locked. -/
theorem removes_exec (h : k.stmt.exec conn n db = .ok ws) (hw : w ∈ ws)
    (hrole : w.removes (.role id) = true) : ⟨.role id, .exclusive⟩ ∈ k.stmt.rows n db := by
  obtain ⟨w', rfl, hwrites⟩ := writes_exec h
  obtain rfl := List.mem_singleton.mp hw
  cases k with
  | deleteRole name tenantId =>
    obtain rfl := hwrites
    exact List.mem_flatMap.mpr ⟨id, of_decide_eq_true hrole, by simp⟩
  | updateRole name description tenantId =>
    obtain ⟨ids, description, rfl⟩ := hwrites
    cases hrole
  | assignRole a roleName =>
    obtain ⟨rows, rfl, -⟩ := hwrites
    cases hrole
  | assignEntry a roleName =>
    obtain ⟨rows, rfl, -⟩ := hwrites
    cases hrole
  | grantPermission roleName permName tenantId =>
    obtain ⟨rows, rfl, -⟩ := hwrites
    cases hrole
  | _ =>
    obtain ⟨rows, rfl⟩ := hwrites
    cases hrole

end Writes

/-! ## The write of a call as one step -/

section OneStep

variable {conn : DbRole} {k : RoleCall} {db : Db} {ws : List RoleWrite}

/-- With the ids unique, the roles that a call has selected are the tenant's own. -/
theorem decide_ownRoleIds (hids : (db.roles.map (·.id)).Nodup) (name : String) (tenantId : Uuid)
    {r : RoleRecord} (hr : r ∈ db.roles) : decide (r.id ∈ Repo.ownRoleIds name tenantId db) =
      ((tenantTx tenantId).sees r.tenantId && Repo.ownRole name tenantId r) := by
  rw [Bool.eq_iff_iff, decide_eq_true_iff, mem_ownRoleIds]
  constructor
  · rintro ⟨r', hr', hname, htenant, hid⟩
    obtain rfl : r' = r := List.inj_on_of_nodup_map hids hr' hr hid
    simp [Repo.ownRole, hname, htenant]
  · intro hown
    simp only [Repo.ownRole, Bool.and_eq_true, beq_iff_eq] at hown
    exact ⟨r, hr, hown.2.1, hown.2.2, rfl⟩

theorem delete_filtered {α : Type} [DecidableEq α] (p : α → Bool) (xs : List α) :
    deleteWhere (fun x => decide (x ∈ xs.filter fun x => x ∉ deleteWhere p xs)) xs = deleteWhere p xs := by
  apply List.filter_congr
  intro x hx
  by_cases hp : p x = true
  · simp [hx, hp, deleteWhere]
  · simp [hx, hp, deleteWhere]

theorem deleteRoleRows_congr {p q : RoleRecord → Bool} (h : ∀ r ∈ db.roles, p r = q r) :
    Repo.deleteRoleRows p db = Repo.deleteRoleRows q db := by
  have hgone : ∀ id, (db.roles.any fun r => p r && r.id == id) =
      db.roles.any fun r => q r && r.id == id := by
    intro id
    rw [Bool.eq_iff_iff, List.any_eq_true, List.any_eq_true]
    refine exists_congr fun r => and_congr_right fun hr => ?_
    rw [h r hr]
  have hroles : deleteWhere p db.roles = deleteWhere q db.roles := by
    apply List.filter_congr
    intro r hr
    rw [h r hr]
  simp only [Repo.deleteRoleRows, hgone, hroles]

theorem insertUserRoles_only {s : Session} {u tenant : Uuid} {p : Option Uuid} {rs : List Nat} {db' : Db}
    (h : Repo.insertUserRoles s u tenant p rs db = .ok db') :
    db' = { db with userRoles := db'.userRoles } := by
  induction rs generalizing db with
  | nil =>
    cases h
    rfl
  | cons r rs ih =>
    simp only [Repo.insertUserRoles] at h
    split at h
    · next db₁ h₁ =>
      obtain ⟨-, ⟨rfl, -⟩ | ⟨-, rfl⟩⟩ := insertUserRole_cases h₁
      · exact ih h
      · have hrest := ih h
        exact hrest
    · cases h

theorem revokePermission_ok {roleName permName : String} {tenantId : Uuid} {u : Unit} {db' : Db}
    (h : Repo.revokePermission roleName permName tenantId db = .ok (u, db')) :
    ∃ p : RolePermission → Bool, db' = { db with rolePermissions := deleteWhere p db.rolePermissions } := by
  obtain ⟨role, -, h⟩ := bind_ok h
  obtain ⟨perm, -, h⟩ := bind_ok h
  cases h
  exact ⟨_, rfl⟩

theorem exec_assignRole_of_stmt {a : Scope} {roleName : String} {n : Nat} (c : Choice)
    (h : (RoleStmt.insertUserRole a roleName).exec conn n db = .ok ws) :
    ∃ r, (Sql.assignRole a.user roleName a.tenant a.project).exec conn c db =
      .ok (r, (roleEngine conn).view ws db) := by
  simp only [RoleStmt.exec] at h
  split at h
  · next u db' hassign =>
    cases h
    obtain ⟨new, hnew, -⟩ := insertUserRoles_rows (assignRole_ok hassign)
    refine ⟨u, ?_⟩
    rw [Sql.exec, hassign, insertUserRoles_only (assignRole_ok hassign)]
    simp only [Engine.view, roleEngine, RoleWrite.apply, List.foldl_cons, List.foldl_nil, hnew,
      List.drop_left]
  · cases h

theorem exec_grantPermission_of_stmt {roleName permName : String} {tenantId : Uuid} {n : Nat} (c : Choice)
    (h : (RoleStmt.insertRolePermission roleName permName tenantId).exec conn n db = .ok ws) :
    (Sql.grantPermission roleName permName tenantId).exec conn c db =
      .ok ((), (roleEngine conn).view ws db) := by
  cases h
  obtain ⟨added, hadded, -⟩ := insertRolePermissions_rows db.rolePermissions
    (grantedPairs roleName permName tenantId db)
  have hgrant : Repo.grantPermission roleName permName tenantId db = { db with
      rolePermissions := Repo.insertRolePermissions db.rolePermissions
        (grantedPairs roleName permName tenantId db) } := rfl
  simp only [Sql.exec, Engine.view, roleEngine, RoleWrite.apply, List.foldl_cons, List.foldl_nil,
    hgrant, hadded, List.drop_left]

/-- Run alone, a write does what its transaction does as one step. -/
theorem exec_sql_of_stmt (hids : (db.roles.map (·.id)).Nodup) (c : Choice)
    (h : k.stmt.exec conn (db.rolesIdSeq + 1) db = .ok ws) :
    ∃ r, k.sql.exec conn c db = .ok (r, (roleEngine conn).view ws db) := by
  cases k with
  | createRole name description tenantId =>
    simp only [RoleCall.stmt, RoleStmt.exec] at h
    simp only [RoleCall.sql, Sql.exec, Repo.createRole]
    repeat' split at h
    all_goals cases h
    next hsees hname hid htenant =>
      refine ⟨⟨db.rolesIdSeq + 1, name, description⟩, ?_⟩
      simp only [hsees, hname, hid, htenant, if_neg, Bool.false_eq_true, not_false_eq_true]
      simp [Engine.view, roleEngine, RoleWrite.apply]
  | updateRole name description tenantId =>
    cases h
    refine ⟨_, congrArg Except.ok (Prod.ext rfl ?_)⟩
    simp only [Engine.view, roleEngine, RoleWrite.apply, List.foldl_cons, List.foldl_nil, Repo.updateRole]
    congr 1
    apply List.map_congr_left
    intro r hr
    simp only [decide_ownRoleIds hids name tenantId hr]
  | deleteRole name tenantId =>
    cases h
    refine ⟨_, congrArg Except.ok (Prod.ext rfl ?_)⟩
    apply Eq.symm
    apply deleteRoleRows_congr
    intro r hr
    exact decide_ownRoleIds hids name tenantId hr
  | assignRole a roleName => exact exec_assignRole_of_stmt c h
  | assignEntry a roleName => exact exec_assignRole_of_stmt c h
  | revokeRole a roleName =>
    simp only [RoleCall.stmt, RoleStmt.exec] at h
    split at h
    · next u db' hrevoke =>
      cases h
      obtain ⟨p, rfl, -⟩ := revokeRole_ok hrevoke
      refine ⟨u, ?_⟩
      simp only [RoleCall.sql, Sql.exec, hrevoke, Engine.view, roleEngine, RoleWrite.apply,
        List.foldl_cons, List.foldl_nil, delete_filtered]
    · cases h
  | grantPermission roleName permName tenantId => exact ⟨(), exec_grantPermission_of_stmt c h⟩
  | revokePermission roleName permName tenantId =>
    simp only [RoleCall.stmt, RoleStmt.exec] at h
    split at h
    · next u db' hrevoke =>
      cases h
      obtain ⟨p, rfl⟩ := revokePermission_ok hrevoke
      refine ⟨u, ?_⟩
      simp only [RoleCall.sql, Sql.exec, hrevoke, Engine.view, roleEngine, RoleWrite.apply,
        List.foldl_cons, List.foldl_nil, delete_filtered]
    · cases h

theorem assignRole_refused {a : Scope} {roleName : String} {n : Nat} {e : DbError} (c : Choice)
    (h : (RoleStmt.insertUserRole a roleName).exec conn n db = .error (.db e)) :
    (Sql.assignRole a.user roleName a.tenant a.project).exec conn c db = .error e := by
  simp only [RoleStmt.exec] at h
  split at h
  · cases h
  · next hassign =>
    cases h
    exact hassign

/-- And it is refused for the same reason. -/
theorem exec_sql_of_error (c : Choice) {e : DbError}
    (h : k.stmt.exec conn (db.rolesIdSeq + 1) db = .error (.db e)) :
    k.sql.exec conn c db = .error e := by
  cases k with
  | createRole name description tenantId =>
    simp only [RoleCall.stmt, RoleStmt.exec] at h
    simp only [RoleCall.sql, Sql.exec, Repo.createRole]
    repeat' split at h
    all_goals cases h
    all_goals simp only [*, if_true, Bool.false_eq_true, if_false]
  | assignRole a roleName => exact assignRole_refused c h
  | assignEntry a roleName => exact assignRole_refused c h
  | revokeRole a roleName =>
    simp only [RoleCall.stmt, RoleStmt.exec] at h
    split at h
    · cases h
    · next hrevoke =>
      cases h
      exact hrevoke
  | revokePermission roleName permName tenantId =>
    simp only [RoleCall.stmt, RoleStmt.exec] at h
    split at h
    · cases h
    · next hrevoke =>
      cases h
      exact hrevoke
  | _ => cases h

end OneStep

/-! ## The guard of an open transaction -/

section Guard

variable {conn : DbRole} {k : RoleCall} {db : Db} {n : Nat} {ws : List RoleWrite}

/-- A statement of a body is a check, or the write at its end. -/
theorem roleBody_split {before rest : List RoleStmt} {st : RoleStmt}
    (h : k.body = before ++ st :: rest) :
    (∃ q, st = .check q) ∧ rest ≠ [] ∨ st = k.stmt ∧ rest = [] ∧ before = k.checks.map .check := by
  rcases List.eq_nil_or_concat rest with rfl | ⟨rest, x, rfl⟩
  · obtain ⟨hbefore, hst⟩ := List.append_inj' h rfl
    exact .inr ⟨(List.cons.inj hst).1.symm, rfl, hbefore.symm⟩
  · left
    refine ⟨?_, by simp⟩
    have hsplit : k.checks.map .check ++ [k.stmt] = (before ++ st :: rest) ++ [x] := by
      rw [← RoleCall.body, h]
      simp
    obtain ⟨hchecks, -⟩ := List.append_inj' hsplit rfl
    have hst : st ∈ k.checks.map .check := by
      rw [hchecks]
      simp
    obtain ⟨q, -, rfl⟩ := List.mem_map.mp hst
    exact ⟨q, rfl⟩

theorem exec_check {q : RoleCheck} (h : (roleEngine conn).exec (.check q) n db = .ok ws) :
    ws = [] ∧ q.holds conn db = true := by
  simp only [roleEngine, RoleStmt.exec] at h
  split at h
  · next hq =>
    cases h
    exact ⟨rfl, hq⟩
  · cases h

theorem ran_checks {sts : List RoleStmt} (hsts : ∀ st ∈ sts, ∃ q, st = .check q)
    (h : (roleEngine conn).Ran n sts ws) : ws = [] := by
  induction sts generalizing ws with
  | nil => exact h
  | cons st sts ih =>
    obtain ⟨s, new, ws', rfl, hx, hrest⟩ := h
    obtain ⟨q, rfl⟩ := hsts st (by simp)
    obtain ⟨rfl, -⟩ := exec_check hx
    exact ih (fun st hst => hsts st (by simp [hst])) hrest

/-- Before its last statement a call has written nothing. -/
theorem ran_before {before rest : List RoleStmt} {st : RoleStmt}
    (hbody : k.body = before ++ st :: rest) (h : (roleEngine conn).Ran n before ws) : ws = [] := by
  apply ran_checks ?_ h
  intro x hx
  have hx' : x ∈ k.body.dropLast := by
    rw [hbody, List.dropLast_append_of_ne_nil (by simp)]
    exact List.mem_append_left _ hx
  rw [RoleCall.body, List.dropLast_concat] at hx'
  obtain ⟨q, -, rfl⟩ := List.mem_map.mp hx'
  exact ⟨q, rfl⟩

/-- What a call has written when it comes to its commit. -/
theorem ranRole_body (h : (roleEngine conn).Ran n k.body ws) : ∃ db, k.stmt.exec conn n db = .ok ws := by
  have hsplit : ∀ (sts : List RoleStmt) (ws : List RoleWrite), (∀ st ∈ sts, ∃ q, st = .check q) →
      (roleEngine conn).Ran n (sts ++ [k.stmt]) ws → ∃ db, k.stmt.exec conn n db = .ok ws := by
    intro sts
    induction sts with
    | nil =>
      intro ws _ h
      obtain ⟨s, new, ws', rfl, hx, rfl⟩ := h
      exact ⟨s, by rw [List.append_nil]; exact hx⟩
    | cons st sts ih =>
      intro ws hsts h
      obtain ⟨s, new, ws', rfl, hx, hrest⟩ := h
      obtain ⟨q, rfl⟩ := hsts st (by simp)
      obtain ⟨rfl, -⟩ := exec_check hx
      exact ih ws' (fun st hst => hsts st (by simp [hst])) hrest
  apply hsplit _ _ ?_ h
  intro st hst
  obtain ⟨q, -, rfl⟩ := List.mem_map.mp hst
  exact ⟨q, rfl⟩

theorem NoNilProject.apply (h : NoNilProject db) {w : RoleWrite}
    (hnew : ∀ rows, w = .insertUserRoles rows → ∀ ur ∈ rows, ur.projectId ≠ some 0) :
    NoNilProject (w.apply db) where
  projects := by
    rw [projects_apply]
    exact h.projects
  userRoles := by
    intro ur hur
    cases w with
    | insertUserRoles rows =>
      rcases List.mem_append.mp hur with hold | hin
      · exact h.userRoles ur hold
      · exact hnew rows rfl ur hin
    | deleteRoles ids => exact h.userRoles ur (mem_deleteWhere.1 hur).1
    | deleteUserRoles rows => exact h.userRoles ur (mem_deleteWhere.1 hur).1
    | _ => exact h.userRoles ur hur

/-- The foreign key finds no project with the nil id. -/
theorem scoped_exec (hdb : NoNilProject db) (h : k.stmt.exec conn n db = .ok ws)
    {rows : List UserRole} (hrows : .insertUserRoles rows ∈ ws) {ur : UserRole} (hur : ur ∈ rows) :
    ur.projectId ≠ some 0 := by
  have hassign : ∀ (a : Scope) (roleName : String),
      (RoleCall.assignEntry a roleName).Writes db (.insertUserRoles rows) → ur.projectId ≠ some 0 := by
    intro a roleName hwrites hnil
    obtain ⟨rows', hsame, hrefs, -⟩ := hwrites
    cases hsame
    have href := hrefs ur hur
    simp only [Repo.userRoleReferences, hnil, Bool.and_eq_true, List.any_eq_true, beq_iff_eq] at href
    obtain ⟨p, hp, hid⟩ := href.2
    exact hdb.projects p hp hid
  obtain ⟨w, rfl, hwrites⟩ := writes_exec h
  obtain rfl := List.mem_singleton.mp hrows
  cases k with
  | assignRole a roleName => exact hassign a roleName hwrites
  | assignEntry a roleName => exact hassign a roleName hwrites
  | deleteRole name tenantId => cases hwrites
  | updateRole name description tenantId =>
    obtain ⟨ids, description, hw⟩ := hwrites
    cases hw
  | grantPermission roleName permName tenantId =>
    obtain ⟨rows', hw, -⟩ := hwrites
    cases hw
  | _ =>
    obtain ⟨rows', hw⟩ := hwrites
    cases hw

/-- What an open transaction has written is what its call asks for, and the roles it
depends on are locked; a project it names has been seen, or is yet to be. -/
structure RoleGuarded (t : RoleTxn) (db : Db) : Prop where
  inserts : ∀ w ∈ t.writes, ∀ key ∈ w.inserts, ∃ id, t.call.Asks db id key ∧
    ⟨.role id, .keyShare⟩ ∈ t.held
  removes : ∀ w ∈ t.writes, ∀ id, w.removes (.role id) = true → ⟨.role id, .exclusive⟩ ∈ t.held
  projects : ∀ w ∈ t.writes, ∀ rows, w = .insertUserRoles rows → ∀ ur ∈ rows, ur.projectId ≠ some 0
  project : ∀ a roleName, t.call = .assignRole a roleName → a.project = some 0 →
    .check (.isProjectInTenant 0 a.tenant) ∈ t.rest

/-- Nobody deletes a role whose rows another open transaction has inserted. -/
theorem RoleGuarded.spares {t t' : RoleTxn} (h : RoleGuarded t' db) {id : Nat}
    (hshare : ⟨.role id, .keyShare⟩ ∈ t.held)
    (hlocks : ∀ r ∈ t.held, ∀ r' ∈ t'.held, ¬(roleEngine conn).Clash r r') :
    ∀ w ∈ t'.writes, w.removes (.role id) = false := by
  intro w hw
  apply Bool.eq_false_iff.mpr
  intro hremoves
  refine hlocks _ hshare _ (h.removes w hw id hremoves) ⟨?_, ?_⟩
  · simp [roleEngine, RoleLock.conflicts, LockMode.conflicts]
  · simp [roleEngine, RoleLock.conflicts, LockMode.conflicts]

theorem guard_role (conn : DbRole) :
    Store.Guard (roleEngine conn) RoleCall.body NoNilProject RoleGuarded where
  start k n s _ := by
    refine ⟨by simp, by simp, by simp, ?_⟩
    rintro a roleName rfl hproject
    simp [RoleCall.body, RoleCall.checks, hproject]
  stmt t before st rest new s hrest hbody hran hJ hG hx := by
    have hnone : t.writes = [] := ran_before hbody hran
    rw [hnone, Engine.view_nil] at hx
    rcases roleBody_split hbody with ⟨⟨q, rfl⟩, -⟩ | ⟨rfl, rfl, -⟩
    · obtain ⟨rfl, hq⟩ := exec_check hx
      refine ⟨by simp [hnone], by simp [hnone], by simp [hnone], ?_⟩
      intro a roleName hcall hproject
      have hcheck := hG.project a roleName hcall hproject
      rw [hrest] at hcheck
      rcases List.mem_cons.mp hcheck with hq' | hlater
      · -- The check has just said that the nil project exists.
        cases hq'
        obtain ⟨p, hp, hzero⟩ := List.any_eq_true.mp hq
        simp only [Bool.and_eq_true, beq_iff_eq] at hzero
        exact absurd hzero.1 (hJ.projects p (List.mem_of_mem_filter hp))
      · exact hlater
    · refine ⟨?_, ?_, ?_, ?_⟩
      · intro w hw key hkey
        simp only [hnone, List.nil_append] at hw
        obtain ⟨id, hasks, hshare⟩ := inserts_exec hx hw hkey
        exact ⟨id, hasks, List.mem_append_right _ (by rw [hnone]; exact hshare)⟩
      · intro w hw id hremoves
        simp only [hnone, List.nil_append] at hw
        have hlock := removes_exec hx hw hremoves
        exact List.mem_append_right _ (by rw [hnone]; exact hlock)
      · rintro w hw rows rfl ur hur
        simp only [hnone, List.nil_append] at hw
        exact scoped_exec hJ hx hw hur
      · intro a roleName hcall hproject
        have hcheck := hG.project a roleName hcall hproject
        rw [hrest, hcall] at hcheck
        simp [RoleCall.stmt] at hcheck
  commit t t' s _ hG hG' hlocks _ := by
    refine ⟨?_, hG.removes, hG.projects, hG.project⟩
    intro w hw key hkey
    obtain ⟨id, hasks, hshare⟩ := hG.inserts w hw key hkey
    exact ⟨id, hasks.view (hG'.spares hshare hlocks), hshare⟩
  keep t s hJ hG _ := by
    have hwrites : ∀ (ws : List RoleWrite) (db : Db), (∀ w ∈ ws, w ∈ t.writes) → NoNilProject db →
        NoNilProject ((roleEngine conn).view ws db) := by
      intro ws
      induction ws with
      | nil => exact fun db _ hdb => hdb
      | cons w ws ih =>
        intro db hws hdb
        apply ih _ fun w' hw' => hws w' (by simp [hw'])
        exact hdb.apply fun rows hrows => hG.projects w (hws w (by simp)) rows hrows
    exact hwrites t.writes s (fun w hw => hw) hJ

end Guard

end IamAuth
