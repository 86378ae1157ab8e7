import IamAuth.Grpc.Oidc

/-!
# grpc.rs: tenant administration

Tenants, projects, members, roles, assignments, permissions and the audit log.
All but create_tenant, list_tenants and list_permissions act within the tenant
of the caller's token, `x-tenant-id`.
-/

set_option autoImplicit false

namespace IamAuth

open Interleave

/-! ## Requests and responses -/

structure CreateTenantRequest where
  slug : String
  name : String
  deriving DecidableEq, Repr

structure Tenant where
  id : String
  slug : String
  name : String
  status : String
  deriving DecidableEq, Repr

structure CreateProjectRequest where
  slug : String
  name : String
  deriving DecidableEq, Repr

structure Project where
  id : String
  tenantId : String
  slug : String
  name : String
  deriving DecidableEq, Repr

structure Member where
  userId : String
  email : String
  status : String
  deriving DecidableEq, Repr

structure UserIdRequest where
  userId : String
  deriving DecidableEq, Repr

structure RoleRequest where
  name : String
  description : String
  deriving DecidableEq, Repr

structure DeleteRoleRequest where
  name : String
  deriving DecidableEq, Repr

structure Role where
  id : Nat
  name : String
  description : String
  permissions : List String
  deriving DecidableEq, Repr

structure AssignRoleRequest where
  userId : String
  roleName : String
  projectId : String
  deriving DecidableEq, Repr

structure AssignRoleBulkRequest where
  userIds : List String
  roleName : String
  projectId : String
  deriving DecidableEq, Repr

/-- `assigned` is an `i32`, which no request overflows: an id takes two bytes or more of a
message, and tonic decodes messages of at most 4 MiB. -/
structure AssignRoleBulkResponse where
  assigned : Nat
  failed : List String
  deriving DecidableEq, Repr

structure RoleAssignment where
  role : String
  projectId : String
  projectSlug : String
  deriving DecidableEq, Repr

structure PermissionRequest where
  roleName : String
  permissionName : String
  deriving DecidableEq, Repr

structure ListAuditEventsRequest where
  limit : Int
  deriving DecidableEq, Repr

section

variable (cr : Crates) (svc : AuthSvc)

/-! ## Tenants and projects -/

def tenantMessage (t : TenantRow) : Tenant := ⟨cr.formatUuid t.id, t.slug, t.name, t.status⟩

def projectMessage (p : ProjectRow) : Project :=
  ⟨cr.formatUuid p.id, cr.formatUuid p.tenantId, p.slug, p.name⟩

def createTenant (md : MetadataMap) (req : CreateTenantRequest) : Handler Tenant := do
  requirePerm md "tenant:write"
  let caller ← callerUuid cr md
  Prog.failIf (req.slug.isEmpty || req.name.isEmpty)
    (invalidArgument "slug and name are required")
  let t ← query (.createTenantWithAdmin req.slug req.name caller)
    (alreadyExists "tenant slug already taken")
  auditAs svc (cr.formatUuid caller) "" "tenant.create" (cr.formatUuid t.id) req.slug none
  return tenantMessage cr t

def listTenants (md : MetadataMap) : Handler (List Tenant) := do
  requirePerm md "tenant:read"
  let rows ← query .listTenants (internal "failed to list tenants")
  return rows.map (tenantMessage cr)

def createProject (md : MetadataMap) (req : CreateProjectRequest) : Handler Project := do
  requirePerm md "project:write"
  let tenant ← activeTenant cr md
  Prog.failIf (req.slug.isEmpty || req.name.isEmpty)
    (invalidArgument "slug and name are required")
  let p ← query (.createProject tenant req.slug req.name)
    (alreadyExists "project slug already taken in this tenant")
  return projectMessage cr p

def listProjects (md : MetadataMap) : Handler (List Project) := do
  requirePerm md "project:read"
  let tenant ← activeTenant cr md
  let rows ← query (.listProjectsByTenant tenant) (internal "failed to list projects")
  return rows.map (projectMessage cr)

/-! ## Members -/

def addMember (md : MetadataMap) (req : EmailRequest) : Handler Member := do
  requirePerm md "member:write"
  let tenant ← activeTenant cr md
  let found ← query (.getUserByEmail req.email) (internal "user lookup failed")
  let user ← Prog.okOr found (notFound "no user with that email")
  query (.addMember user.id tenant) (internal "could not add member")
  auditAs svc (cr.formatUuid user.id) user.email "member.add" (cr.formatUuid tenant) "" (some tenant)
  return ⟨cr.formatUuid user.id, user.email, "active"⟩

def removeMember (md : MetadataMap) (req : UserIdRequest) : Handler Bool := do
  requirePerm md "member:write"
  let tenant ← activeTenant cr md
  let uid ← parseUserId cr req.userId
  query (.removeMember uid tenant) (internal "could not remove member")
  auditAs svc req.userId "" "member.remove" (cr.formatUuid tenant) "" (some tenant)
  return true

def listMembers (md : MetadataMap) : Handler (List Member) := do
  requirePerm md "member:read"
  let tenant ← activeTenant cr md
  let rows ← query (.listMembersByTenant tenant) (internal "failed to list members")
  return rows.map fun m => ⟨cr.formatUuid m.userId, m.email, m.status⟩

/-! ## Roles -/

/-- A role just written is answered without its permissions. -/
def roleMessage (r : RoleRow) : Role := ⟨r.id, r.name, r.description, []⟩

def createRole (md : MetadataMap) (req : RoleRequest) : Handler Role := do
  requirePerm md "role:write"
  let tenant ← activeTenant cr md
  Prog.failIf req.name.isEmpty (invalidArgument "role name is required")
  Prog.failIf (isBuiltinRole req.name) (failedPrecondition "name reserved for a built-in role")
  let role ← query (.createRole req.name req.description tenant)
    (alreadyExists "role already exists")
  audit cr svc md "role.create" req.name ""
  return roleMessage role

def updateRole (md : MetadataMap) (req : RoleRequest) : Handler Role := do
  requirePerm md "role:write"
  let tenant ← activeTenant cr md
  Prog.failIf (isBuiltinRole req.name) (failedPrecondition "cannot modify a built-in role")
  let found ← query (.updateRole req.name req.description tenant) (internal "db error")
  let role ← Prog.okOr found (notFound "role not found in this tenant")
  return roleMessage role

def deleteRole (md : MetadataMap) (req : DeleteRoleRequest) : Handler Bool := do
  requirePerm md "role:write"
  let tenant ← activeTenant cr md
  Prog.failIf (isBuiltinRole req.name) (failedPrecondition "cannot delete a built-in role")
  let own ← query (.tenantRoleExists req.name tenant) (internal "db error")
  Prog.failIf (!own) (notFound "role not found in this tenant")
  query (.deleteRole req.name tenant) (internal "failed to delete role")
  audit cr svc md "role.delete" req.name ""
  return true

def listRoles (md : MetadataMap) : Handler (List Role) := do
  requirePerm md "role:read"
  let tenant ← activeTenant cr md
  let rows ← query (.listRolesWithPermissions tenant) (internal "failed to list roles")
  return rows.map fun r => ⟨r.id, r.name, r.description, r.permissions⟩

/-! ## Assignments -/

def assignRole (md : MetadataMap) (req : AssignRoleRequest) : Handler Bool := do
  requirePerm md "role:assign"
  let tenant ← activeTenant cr md
  let userId ← parseUserId cr req.userId
  let project ← validateAssign cr req.roleName req.projectId tenant
  query (.assignRole userId req.roleName tenant project) (internal "failed to assign role")
  invalidatePerms svc req.userId
  audit cr svc md "role.assign" req.userId req.roleName
  return true

/-- One id of a bulk request: whether it was assigned. -/
def assignOne (roleName : String) (tenant : Uuid) (project : Option Uuid) (uid : String) :
    Handler Bool :=
  match cr.parseUuid uid with
  | none => pure false
  | some userId => do
    match ← attempt (.assignRole userId roleName tenant project) with
    | .error _ => pure false
    | .ok () => do
      invalidatePerms svc uid
      pure true

/-- The loop of assign_role_bulk. -/
def assignEach (roleName : String) (tenant : Uuid) (project : Option Uuid) :
    List String → Handler AssignRoleBulkResponse
  | [] => pure ⟨0, []⟩
  | uid :: rest => do
    let done ← assignOne cr svc roleName tenant project uid
    let out ← assignEach roleName tenant project rest
    if done then return { out with assigned := out.assigned + 1 }
    else return { out with failed := uid :: out.failed }

def assignRoleBulk (md : MetadataMap) (req : AssignRoleBulkRequest) :
    Handler AssignRoleBulkResponse := do
  requirePerm md "role:assign"
  let tenant ← activeTenant cr md
  let project ← validateAssign cr req.roleName req.projectId tenant
  let out ← assignEach cr svc req.roleName tenant project req.userIds
  audit cr svc md "role.assign_bulk" req.roleName
    (toString out.assigned ++ " assigned, " ++ toString out.failed.length ++ " failed")
  return out

/-- Unlike the other guards, the lookup of the role names no tenant. -/
def revokeRole (md : MetadataMap) (req : AssignRoleRequest) : Handler Bool := do
  requirePerm md "role:assign"
  let tenant ← activeTenant cr md
  let userId ← parseUserId cr req.userId
  let known ← query (.roleExists req.roleName) (internal "db error")
  Prog.failIf (!known) (notFound "role not found")
  let project ← parseOptProject cr req.projectId
  query (.revokeRole userId req.roleName tenant project) (internal "failed to revoke role")
  invalidatePerms svc req.userId
  audit cr svc md "role.revoke" req.userId req.roleName
  return true

def getUserRoleAssignments (md : MetadataMap) (req : UserIdRequest) :
    Handler (List RoleAssignment) := do
  requirePerm md "role:read"
  let tenant ← activeTenant cr md
  let userId ← parseUserId cr req.userId
  let rows ← query (.getUserRoleAssignments userId tenant)
    (internal "failed to load role assignments")
  return rows.map fun r =>
    ⟨r.role, (r.projectId.map cr.formatUuid).getD "", r.projectSlug.getD ""⟩

/-! ## Permissions -/

def listPermissions (md : MetadataMap) : Handler (List RoleRow) := do
  requirePerm md "role:read"
  query .listPermissions (internal "failed to list permissions")

def grantPermission (md : MetadataMap) (req : PermissionRequest) : Handler Bool := do
  requirePerm md "role:write"
  let tenant ← activeTenant cr md
  permRoleGuard req.roleName tenant
  query (.grantPermission req.roleName req.permissionName tenant)
    (internal "failed to grant permission")
  audit cr svc md "permission.grant" req.roleName req.permissionName
  return true

def revokePermission (md : MetadataMap) (req : PermissionRequest) : Handler Bool := do
  requirePerm md "role:write"
  let tenant ← activeTenant cr md
  permRoleGuard req.roleName tenant
  query (.revokePermission req.roleName req.permissionName tenant)
    (internal "failed to revoke permission")
  audit cr svc md "permission.revoke" req.roleName req.permissionName
  return true

/-! ## Audit log -/

def auditLimit (limit : Int) : Int := if limit ≤ 0 ∨ limit > 200 then 50 else limit

def listAuditEvents (md : MetadataMap) (req : ListAuditEventsRequest) :
    Handler (List AuditRow) := do
  requirePerm md "audit:read"
  let tenant ← activeTenant cr md
  query (.listAudit tenant (auditLimit req.limit)) (internal "failed to list audit events")

end

end IamAuth
