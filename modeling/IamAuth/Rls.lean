import IamAuth.Migrations

/-!
# Row-level security

Migrations 0013 and 0016 leave two policy classes. `roles`, `user_roles` and
`projects` are fail-closed: a row is visible, and may be written, if it has no
tenant or the tenant of `app.tenant_id` (the policy has only a `USING` clause,
which Postgres applies to new rows as well). Every other table is permissive. A
superuser bypasses both.
-/

set_option autoImplicit false

namespace IamAuth

/-- The database role a statement runs as: the superuser that owns the tables,
the least-privilege `iam_app`, or `iam_rls`. -/
inductive DbRole where
  | superuser
  | iamApp
  | iamRls
  deriving DecidableEq, Repr

structure Session where
  role : DbRole
  /-- `app.tenant_id`, if it is set and not empty. -/
  tenantGuc : Option Uuid
  deriving DecidableEq, Repr

/-- The `tenant_isolation` policy of the fail-closed tables. -/
def Session.sees (s : Session) (tenantId : Option Uuid) : Bool :=
  decide (s.role = .superuser) || tenantId.isNone || decide (tenantId = s.tenantGuc)

/-- A statement on the plain pool. -/
def pool (conn : DbRole) : Session := ⟨conn, none⟩

/-- `Repo::tenant_tx`: `SET LOCAL ROLE iam_rls` and `app.tenant_id`. -/
def tenantTx (tenantId : Uuid) : Session := ⟨.iamRls, some tenantId⟩

/-- `Repo::tenant_guc_tx`: `app.tenant_id` only. -/
def tenantGucTx (conn : DbRole) (tenantId : Uuid) : Session := ⟨conn, some tenantId⟩

@[simp] theorem sees_superuser (g t : Option Uuid) : Session.sees ⟨.superuser, g⟩ t = true := by
  simp [Session.sees]

@[simp] theorem sees_none (s : Session) : s.sees none = true := by
  simp [Session.sees]

@[simp] theorem sees_tenantTx (a b : Uuid) : (tenantTx a).sees (some b) = decide (b = a) := by
  simp [Session.sees, tenantTx]

@[simp] theorem sees_pool_iamApp (b : Uuid) : (pool .iamApp).sees (some b) = false := by
  simp [Session.sees, pool]

/-! ## The fail-closed tables as a session sees them -/

def Session.roles (s : Session) (db : Db) : List RoleRecord :=
  db.roles.filter fun r => s.sees r.tenantId

def Session.userRoles (s : Session) (db : Db) : List UserRole :=
  db.userRoles.filter fun ur => s.sees (some ur.tenantId)

def Session.projects (s : Session) (db : Db) : List ProjectRow :=
  db.projects.filter fun p => s.sees (some p.tenantId)

@[simp] theorem roles_superuser (g : Option Uuid) (db : Db) :
    Session.roles ⟨.superuser, g⟩ db = db.roles := by
  simp [Session.roles]

@[simp] theorem userRoles_superuser (g : Option Uuid) (db : Db) :
    Session.userRoles ⟨.superuser, g⟩ db = db.userRoles := by
  simp [Session.userRoles]

@[simp] theorem projects_superuser (g : Option Uuid) (db : Db) :
    Session.projects ⟨.superuser, g⟩ db = db.projects := by
  simp [Session.projects]

end IamAuth
