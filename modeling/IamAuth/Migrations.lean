import IamAuth.Schema

/-!
# The database the migrations leave

`migrated` is an empty database after migrations 0001 to 0016: the default
tenant and project, the built-in role templates and the seeded permissions.
-/

set_option autoImplicit false

namespace IamAuth

def defaultProjectId : Uuid := 2

/-- The permissions of 0002, 0003, 0005 and 0010, in the order they are inserted. -/
def seededPermissions : List RoleRow := [
  ⟨1, "user:read", "Read any user"⟩,
  ⟨2, "user:write", "Modify any user"⟩,
  ⟨3, "user:delete", "Delete any user"⟩,
  ⟨4, "role:read", "List roles and permissions"⟩,
  ⟨5, "role:assign", "Assign roles to users"⟩,
  ⟨6, "profile:read", "Read own profile"⟩,
  ⟨7, "profile:write", "Modify own profile"⟩,
  ⟨8, "role:write", "Create, update, delete roles and grant/revoke their permissions"⟩,
  ⟨9, "audit:read", "Read the audit log"⟩,
  ⟨10, "tenant:read", "Read tenant settings/members"⟩,
  ⟨11, "tenant:write", "Create/update/delete tenants"⟩,
  ⟨12, "project:read", "Read projects"⟩,
  ⟨13, "project:write", "Create/update/delete projects"⟩,
  ⟨14, "member:read", "List members"⟩,
  ⟨15, "member:write", "Add/remove members"⟩]

def adminTemplate : RoleRecord := ⟨⟨1, "admin", "Full administrative access"⟩, none⟩
def userTemplate : RoleRecord := ⟨⟨2, "user", "Standard authenticated user"⟩, none⟩
def viewerTemplate : RoleRecord := ⟨⟨3, "viewer", "Read-only access (public demo)"⟩, none⟩

/-- `admin` holds every permission (0002 and 0011), `user` the profile ones
(0002) and `viewer` every `*:read` (0015). -/
def seededRolePermissions : List RolePermission :=
  seededPermissions.map (fun p => ⟨1, p.id⟩) ++
  [⟨2, 6⟩, ⟨2, 7⟩] ++
  [1, 4, 6, 9, 10, 12, 14].map (fun p => ⟨3, p⟩)

def migrated : Db where
  users := []
  refreshTokens := []
  revokedTokens := []
  emailVerifications := []
  passwordResets := []
  totpRecoveryCodes := []
  apiKeys := []
  tenants := [⟨defaultTenantId, "default", "Default Organization", "active"⟩]
  projects := [⟨defaultProjectId, defaultTenantId, "default", "Default Project"⟩]
  memberships := []
  roles := [adminTemplate, userTemplate, viewerTemplate]
  permissions := seededPermissions
  rolePermissions := seededRolePermissions
  userRoles := []
  oauthClients := []
  oauthAuthorizationCodes := []
  oauthConsents := []
  auditEvents := []
  outbox := []
  rolesIdSeq := 3
  recoveryCodesIdSeq := 0
  auditEventsIdSeq := 0

end IamAuth
