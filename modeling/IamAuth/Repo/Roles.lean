import IamAuth.Repo.Tenancy

/-!
# repo.rs: roles, permissions and assignments

Writes run in `tenant_tx`, guard lookups and most lists on the plain pool, and
the reads of validate_token in `tenant_guc_tx`.
-/

set_option autoImplicit false

namespace IamAuth.Repo

open Relational

/-! ## Guard lookups -/

def roleExists (conn : DbRole) (name : String) (db : Db) : Bool :=
  ((pool conn).roles db).any fun r => r.name == name

def roleInTenant (conn : DbRole) (name : String) (tenantId : Uuid) (db : Db) : Bool :=
  ((pool conn).roles db).any fun r =>
    r.name == name && (r.tenantId == some tenantId || r.tenantId.isNone)

def tenantRoleExists (conn : DbRole) (name : String) (tenantId : Uuid) (db : Db) : Bool :=
  ((pool conn).roles db).any fun r => r.name == name && r.tenantId == some tenantId

/-! ## Assignments -/

/-- `ORDER BY r.tenant_id NULLS LAST LIMIT 1` among the tenant's own roles and
the templates. -/
def resolveRole (name : String) (tenantId : Uuid) (db : Db) : List Nat :=
  let named := ((tenantTx tenantId).roles db).filter fun r =>
    r.name == name && (r.tenantId == some tenantId || r.tenantId.isNone)
  let own := named.filter fun r => r.tenantId.isSome
  let templates := named.filter fun r => r.tenantId.isNone
  ((own ++ templates).take 1).map (·.id)

def assignRole (userId : Uuid) (roleName : String) (tenantId : Uuid) (projectId : Option Uuid)
    (db : Db) : Except DbError (Unit × Db) :=
  match insertUserRoles (tenantTx tenantId) userId tenantId projectId
      (resolveRole roleName tenantId db) db with
  | .ok db => .ok ((), db)
  | .error e => .error e

/-- A scalar subquery: more than one row is an error. -/
def scalarSubquery {α : Type} : List α → Except DbError (Option α)
  | [] => .ok none
  | [a] => .ok (some a)
  | _ => .error .cardinalityViolation

/-- The role is looked up by name alone among the rows `tenant_tx` sees. The
subquery does not depend on the row, so it is evaluated even if none matches. -/
def revokeRole (userId : Uuid) (roleName : String) (tenantId : Uuid) (projectId : Option Uuid)
    (db : Db) : Except DbError (Unit × Db) :=
  let s := tenantTx tenantId
  match scalarSubquery (rolesNamed s roleName db) with
  | .error e => .error e
  | .ok role => .ok ((), { db with
      userRoles := deleteWhere (fun ur => s.sees (some ur.tenantId) && ur.userId == userId &&
        some ur.roleId == role && ur.tenantId == tenantId && ur.projectId == projectId)
        db.userRoles })

/-- `ORDER BY r.name, p.slug NULLS FIRST`. -/
def assignmentLe (a b : RoleAssignmentRow) : Bool :=
  decide (a.role < b.role) || decide (a.role = b.role) &&
    match a.projectSlug, b.projectSlug with
    | none, _ => true
    | some _, none => false
    | some x, some y => decide (x ≤ y)

def getUserRoleAssignments (conn : DbRole) (userId tenantId : Uuid) (db : Db) :
    List RoleAssignmentRow :=
  let s := pool conn
  let mine := (s.userRoles db).filter fun ur => ur.userId == userId && ur.tenantId == tenantId
  let rows := mine.flatMap fun ur =>
    ((s.roles db).filter fun r => r.id == ur.roleId).flatMap fun r =>
      match (s.projects db).filter fun p => some p.id == ur.projectId with
      | [] => [(⟨r.name, ur.projectId, none⟩ : RoleAssignmentRow)]
      | ps => ps.map fun p => ⟨r.name, ur.projectId, some p.slug⟩
  rows.insertionSort fun a b => assignmentLe a b = true

/-! ## What validate_token reads -/

/-- `ur.project_id IS NULL OR ur.project_id = $3`. -/
def inProject (projectId : Option Uuid) (ur : UserRole) : Bool :=
  match ur.projectId with
  | none => true
  | some p => projectId == some p

def roleNames (s : Session) (urs : List UserRole) (db : Db) : List String :=
  orderBy id (urs.flatMap fun ur =>
    ((s.roles db).filter fun r => r.id == ur.roleId).map (·.name))

def permissionNames (urs : List UserRole) (db : Db) : List String :=
  distinctSorted (urs.flatMap fun ur =>
    (db.rolePermissions.filter fun rp => rp.roleId == ur.roleId).flatMap fun rp =>
      (db.permissions.filter fun p => p.id == rp.permissionId).map (·.name))

def getUserRoles (conn : DbRole) (userId : Uuid) (db : Db) : List String :=
  let s := pool conn
  roleNames s ((s.userRoles db).filter fun ur => ur.userId == userId) db

def getUserPermissions (conn : DbRole) (userId : Uuid) (db : Db) : List String :=
  permissionNames (((pool conn).userRoles db).filter fun ur => ur.userId == userId) db

def scopedUserRoles (s : Session) (userId tenantId : Uuid) (projectId : Option Uuid) (db : Db) :
    List UserRole :=
  (s.userRoles db).filter fun ur =>
    ur.userId == userId && ur.tenantId == tenantId && inProject projectId ur

def getUserRolesScoped (conn : DbRole) (userId tenantId : Uuid) (projectId : Option Uuid)
    (db : Db) : List String :=
  let s := tenantGucTx conn tenantId
  roleNames s (scopedUserRoles s userId tenantId projectId db) db

def getUserPermissionsScoped (conn : DbRole) (userId tenantId : Uuid) (projectId : Option Uuid)
    (db : Db) : List String :=
  permissionNames (scopedUserRoles (tenantGucTx conn tenantId) userId tenantId projectId db) db

/-! ## Role administration -/

/-- `r` is the row of the tenant's own role of that name. -/
def ownRole (name : String) (tenantId : Uuid) (r : RoleRecord) : Bool :=
  r.name == name && r.tenantId == some tenantId

def createRole (name description : String) (tenantId : Uuid) (db : Db) :
    Except DbError (RoleRow × Db) :=
  if !(tenantTx tenantId).sees (some tenantId) then .error .rowSecurity
  else if db.roles.any (ownRole name tenantId) then .error .uniqueViolation
  else if db.roles.any fun r => r.id == db.rolesIdSeq + 1 then .error .uniqueViolation
  else if !db.tenants.any fun t => t.id == tenantId then .error .foreignKeyViolation
  else
    let row : RoleRow := ⟨db.rolesIdSeq + 1, name, description⟩
    .ok (row, { db with
      roles := db.roles ++ [⟨row, some tenantId⟩]
      rolesIdSeq := db.rolesIdSeq + 1 })

def updateRole (name description : String) (tenantId : Uuid) (db : Db) : Option RoleRow × Db :=
  let s := tenantTx tenantId
  let hit := fun r : RoleRecord => s.sees r.tenantId && ownRole name tenantId r
  let set := fun r : RoleRecord => { r with description := description }
  ((db.roles.find? hit).map fun r => (set r).toRoleRow,
    { db with roles := updateWhere hit set db.roles })

/-- Deletes the role rows `hit` selects, and what references them by cascade.
Cascades run as the owner of the tables and are not subject to row security. -/
def deleteRoleRows (hit : RoleRecord → Bool) (db : Db) : Db :=
  let gone := fun id => db.roles.any fun r => hit r && r.id == id
  { db with
    roles := deleteWhere hit db.roles
    rolePermissions := deleteWhere (fun rp => gone rp.roleId) db.rolePermissions
    userRoles := deleteWhere (fun ur => gone ur.roleId) db.userRoles }

def deleteRole (name : String) (tenantId : Uuid) (db : Db) : Db :=
  let s := tenantTx tenantId
  deleteRoleRows (fun r => s.sees r.tenantId && ownRole name tenantId r) db

def listRolesWithPermissions (conn : DbRole) (tenantId : Uuid) (db : Db) :
    List RoleWithPermsRow :=
  let visible := ((pool conn).roles db).filter fun r =>
    r.tenantId == some tenantId || r.tenantId.isNone
  let rows := visible.map fun r =>
    (⟨r.toRoleRow, orderBy id ((db.rolePermissions.filter fun rp => rp.roleId == r.id).flatMap
      fun rp => (db.permissions.filter fun p => p.id == rp.permissionId).map (·.name))⟩ :
      RoleWithPermsRow)
  orderBy (·.name) rows

def listPermissions (db : Db) : List RoleRow := orderBy (·.name) db.permissions

/-- The tenant's own roles of that name, as `tenant_tx` sees them. -/
def ownRoleIds (name : String) (tenantId : Uuid) (db : Db) : List Nat :=
  (((tenantTx tenantId).roles db).filter (ownRole name tenantId)).map (·.id)

def permissionIds (name : String) (db : Db) : List Nat :=
  (db.permissions.filter fun p => p.name == name).map (·.id)

/-- `INSERT ... ON CONFLICT DO NOTHING` of every selected pair. -/
def insertRolePermissions : List RolePermission → List RolePermission → List RolePermission
  | table, [] => table
  | table, rp :: rps =>
    insertRolePermissions (if rp ∈ table then table else table ++ [rp]) rps

def grantPermission (roleName permName : String) (tenantId : Uuid) (db : Db) : Db :=
  let pairs := (ownRoleIds roleName tenantId db).flatMap fun r =>
    (permissionIds permName db).map fun p => (⟨r, p⟩ : RolePermission)
  { db with rolePermissions := insertRolePermissions db.rolePermissions pairs }

def revokePermission (roleName permName : String) (tenantId : Uuid) (db : Db) :
    Except DbError (Unit × Db) := do
  let role ← scalarSubquery (ownRoleIds roleName tenantId db)
  let perm ← scalarSubquery (permissionIds permName db)
  return ((), { db with
    rolePermissions := deleteWhere
      (fun rp => some rp.roleId == role && some rp.permissionId == perm) db.rolePermissions })

end IamAuth.Repo
