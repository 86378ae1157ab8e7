import IamAuth.Repo.Tokens

/-!
# repo.rs: tenants, memberships and projects

`memberships` and `tenants` are readable by every session; `projects` and
`user_roles` are not, so the functions on them take the session of the
connection they run on.
-/

set_option autoImplicit false

namespace IamAuth.Repo

open Relational

/-! ## Memberships -/

def membershipKey (m : MembershipRecord) : Uuid × Uuid := (m.userId, m.tenantId)

/-- `ON CONFLICT (user_id, tenant_id) DO NOTHING`. -/
def createMembership (userId tenantId : Uuid) (db : Db) : Except DbError (Unit × Db) :=
  if db.memberships.any fun m => membershipKey m == (userId, tenantId) then .ok ((), db)
  else if !(db.users.any (fun u => u.id == userId) && db.tenants.any fun t => t.id == tenantId) then
    .error .foreignKeyViolation
  else .ok ((), { db with memberships := db.memberships ++ [⟨userId, tenantId, "active"⟩] })

/-- The same statement inside `tenant_tx`; `memberships` is permissive. -/
def addMember (userId tenantId : Uuid) (db : Db) : Except DbError (Unit × Db) :=
  createMembership userId tenantId db

def removeMember (userId tenantId : Uuid) (db : Db) : Db :=
  { db with
    memberships := deleteWhere (fun m => membershipKey m == (userId, tenantId)) db.memberships }

def listMemberships (userId : Uuid) (db : Db) : List MembershipRow :=
  let rows := (db.memberships.filter fun m => m.userId == userId && m.status == "active").flatMap
    fun m => (db.tenants.filter fun t => t.id == m.tenantId && t.status == "active").map
      fun t => (⟨t.id, t.slug, t.name, m.status⟩ : MembershipRow)
  orderBy (·.tenantName) rows

def isActiveMember (userId tenantId : Uuid) (db : Db) : Bool :=
  db.memberships.any (fun m => membershipKey m == (userId, tenantId) && m.status == "active") &&
  db.tenants.any fun t => t.id == tenantId && t.status == "active"

def listMembersByTenant (tenantId : Uuid) (db : Db) : List MemberRow :=
  let rows := (db.memberships.filter fun m => m.tenantId == tenantId).flatMap fun m =>
    (db.users.filter fun u => u.id == m.userId).map fun u => (⟨u.id, u.email, m.status⟩ : MemberRow)
  orderBy (·.email) rows

/-! ## Tenants -/

def insertTenant (id : Uuid) (slug name : String) (db : Db) : Except DbError Db :=
  if db.tenants.any fun t => t.id == id || t.slug == slug then .error .uniqueViolation
  else .ok { db with tenants := db.tenants ++ [⟨id, slug, name, "active"⟩] }

/-- Runs on the plain pool, so `app.tenant_id` is not set for the assignment. -/
def createTenantWithAdmin (conn : DbRole) (c : Choice) (slug name : String) (creator : Uuid)
    (db : Db) : Except DbError (TenantRow × Db) := do
  let s := pool conn
  let db ← insertTenant c.uuid slug name db
  let (_, db) ← createMembership creator c.uuid db
  let admins := ((s.roles db).filter fun r => r.name == "admin" && r.tenantId.isNone).map (·.id)
  let db ← insertUserRoles s creator c.uuid none admins db
  return (⟨c.uuid, slug, name, "active"⟩, db)

def listTenants (db : Db) : List TenantRow := orderBy (·.name) db.tenants

/-! ## Projects -/

def createProject (c : Choice) (tenantId : Uuid) (slug name : String) (db : Db) :
    Except DbError (ProjectRow × Db) :=
  if !(tenantTx tenantId).sees (some tenantId) then .error .rowSecurity
  else if db.projects.any fun p => p.id == c.uuid || (p.tenantId == tenantId && p.slug == slug) then
    .error .uniqueViolation
  else if !db.tenants.any fun t => t.id == tenantId then .error .foreignKeyViolation
  else .ok (⟨c.uuid, tenantId, slug, name⟩,
    { db with projects := db.projects ++ [⟨c.uuid, tenantId, slug, name⟩] })

def listProjectsByTenant (tenantId : Uuid) (db : Db) : List ProjectRow :=
  orderBy (·.name) (((tenantTx tenantId).projects db).filter fun p => p.tenantId == tenantId)

/-- A guard lookup on the plain pool. -/
def isProjectInTenant (conn : DbRole) (projectId tenantId : Uuid) (db : Db) : Bool :=
  ((pool conn).projects db).any fun p => p.id == projectId && p.tenantId == tenantId

end IamAuth.Repo
