import IamAuth.Acknowledged
import IamAuth.RefreshTokens
import IamAuth.Relational.Constraints

/-!
# The constraints of the schema

The unique indexes, the foreign keys and the sequences that the migrations
declare. A statement checks them on the rows it inserts, and what it deletes takes
the rows that refer to it along.
-/

set_option autoImplicit false

namespace IamAuth

open Interleave Relational

/-- The unique indexes over the columns that statements of repo.rs name, and the numbers
the sequences have given out. The signing keys have their own table; the generated
`refresh_tokens.id` is read by no statement. -/
structure Keys (db : Db) : Prop where
  usersId : Unique (·.id) db.users
  usersEmail : Unique (·.email) db.users
  refreshTokens : Unique (·.tokenHash) db.refreshTokens
  revokedTokens : Unique (·.jti) db.revokedTokens
  emailVerifications : Unique (·.tokenHash) db.emailVerifications
  passwordResets : Unique (·.tokenHash) db.passwordResets
  recoveryCodes : Unique (·.id) db.totpRecoveryCodes
  recoveryCodesSeq : Numbered (·.id) db.totpRecoveryCodes db.recoveryCodesIdSeq
  apiKeysId : Unique (·.id) db.apiKeys
  apiKeysHash : Unique (·.keyHash) db.apiKeys
  tenantsId : Unique (·.id) db.tenants
  tenantsSlug : Unique (·.slug) db.tenants
  projectsId : Unique (·.id) db.projects
  projectsSlug : Unique (fun p => (p.tenantId, p.slug)) db.projects
  memberships : Unique Repo.membershipKey db.memberships
  rolesId : Unique (·.id) db.roles
  rolesSeq : Numbered (·.id) db.roles db.rolesIdSeq
  /-- `roles_builtin_name` and `roles_tenant_name`. -/
  rolesName : Unique (fun r => (r.tenantId, r.name)) db.roles
  permissionsId : Unique (·.id) db.permissions
  permissionsName : Unique (·.name) db.permissions
  rolePermissions : Unique id db.rolePermissions
  userRoles : Unique Repo.assignmentKey db.userRoles
  oauthClients : Unique (·.clientId) db.oauthClients
  authorizationCodes : Unique (·.codeHash) db.oauthAuthorizationCodes
  oauthConsents : Unique (fun k => (k.userId, k.clientId)) db.oauthConsents
  auditEvents : Unique (·.id) db.auditEvents
  auditEventsSeq : Numbered (·.id) db.auditEvents db.auditEventsIdSeq
  outbox : Unique (·.id) db.outbox

/-- The foreign keys over the same columns: no statement names
`oauth_clients.default_project_id`. -/
structure References (db : Db) : Prop where
  tokenUser : Refers (fun t => some t.userId) UserRow.id db.refreshTokens db.users
  tokenTenant : Refers (fun t => some t.tenantId) TenantRow.id db.refreshTokens db.tenants
  tokenProject : Refers (fun t => t.projectId) ProjectRow.id db.refreshTokens db.projects
  verificationUser : Refers (fun t => some t.userId) UserRow.id db.emailVerifications db.users
  resetUser : Refers (fun t => some t.userId) UserRow.id db.passwordResets db.users
  recoveryCodeUser : Refers (fun t => some t.userId) UserRow.id db.totpRecoveryCodes db.users
  apiKeyUser : Refers (fun k => some k.userId) UserRow.id db.apiKeys db.users
  apiKeyTenant : Refers (fun k => some k.tenantId) TenantRow.id db.apiKeys db.tenants
  apiKeyProject : Refers (fun k => k.projectId) ProjectRow.id db.apiKeys db.projects
  projectTenant : Refers (fun p => some p.tenantId) TenantRow.id db.projects db.tenants
  memberUser : Refers (fun m => some m.userId) UserRow.id db.memberships db.users
  memberTenant : Refers (fun m => some m.tenantId) TenantRow.id db.memberships db.tenants
  roleTenant : Refers (fun r => r.tenantId) TenantRow.id db.roles db.tenants
  grantRole : Refers (fun rp => some rp.roleId) (fun r : RoleRecord => r.id) db.rolePermissions
    db.roles
  grantPermission : Refers (fun rp => some rp.permissionId) RoleRow.id db.rolePermissions
    db.permissions
  assignedUser : Refers (fun ur => some ur.userId) UserRow.id db.userRoles db.users
  assignedRole : Refers (fun ur => some ur.roleId) (fun r : RoleRecord => r.id) db.userRoles
    db.roles
  assignedTenant : Refers (fun ur => some ur.tenantId) TenantRow.id db.userRoles db.tenants
  assignedProject : Refers (fun ur => ur.projectId) ProjectRow.id db.userRoles db.projects
  clientTenant : Refers (fun k => some k.tenantId) TenantRow.id db.oauthClients db.tenants
  codeClient : Refers (fun k => some k.clientId) OauthClient.clientId db.oauthAuthorizationCodes
    db.oauthClients
  consentClient : Refers (fun k => some k.clientId) OauthClient.clientId db.oauthConsents
    db.oauthClients

theorem keys_migrated : Keys migrated := by constructor <;> decide

theorem references_migrated : References migrated := by constructor <;> decide

/-! ## Unique indexes -/

section Keys

variable {conn : DbRole} {c : Choice} {db db' : Db}

theorem Keys.updateUser (h : Keys db) (id : Uuid) {f : UserRow → UserRow}
    (hid : ∀ u, (f u).id = u.id) (hemail : ∀ u, (f u).email = u.email) :
    Keys (Repo.updateUser id f db) :=
  { h with
    usersId := h.usersId.updateWhere fun u _ => hid u
    usersEmail := h.usersEmail.updateWhere fun u _ => hemail u }

theorem Keys.insertUser (h : Keys db) {id : Uuid} {email hash : String}
    (hx : Repo.insertUser id email hash db = .ok db') : Keys db' := by
  unfold Repo.insertUser at hx
  split at hx
  · cases hx
  · next hfresh =>
    cases hx
    simp only [List.any_eq_true, Bool.or_eq_true, beq_iff_eq, not_exists, not_and, not_or] at hfresh
    exact { h with
      usersId := h.usersId.insert fun u hu => (hfresh u hu).1
      usersEmail := h.usersEmail.insert fun u hu => (hfresh u hu).2 }

theorem Keys.insertOutbox (h : Keys db) {id : Uuid} {eventType : String} {payload : EventPayload}
    (hx : Repo.insertOutbox c id eventType payload db = .ok db') : Keys db' := by
  unfold Repo.insertOutbox at hx
  split at hx
  · cases hx
  · next hfresh =>
    cases hx
    simp only [List.any_eq_true, beq_iff_eq, not_exists, not_and] at hfresh
    exact { h with outbox := h.outbox.insert hfresh }

theorem Keys.insertUserRole (h : Keys db) {s : Session} {ur : UserRole}
    (hx : Repo.insertUserRole s ur db = .ok db') : Keys db' := by
  unfold Repo.insertUserRole at hx
  split at hx
  · cases hx
  · split at hx
    · cases hx
      exact h
    · next hfresh =>
      split at hx
      · cases hx
      · cases hx
        simp only [List.any_eq_true, beq_iff_eq, not_exists, not_and] at hfresh
        exact { h with userRoles := h.userRoles.insert hfresh }

theorem Keys.insertUserRoles {s : Session} {u t : Uuid} {p : Option Uuid} {rs : List Nat}
    (h : Keys db) (hx : Repo.insertUserRoles s u t p rs db = .ok db') : Keys db' := by
  induction rs generalizing db with
  | nil =>
    cases hx
    exact h
  | cons r rs ih =>
    simp only [Repo.insertUserRoles] at hx
    split at hx
    · next hr => exact ih (h.insertUserRole hr) hx
    · cases hx

theorem Keys.createMembership (h : Keys db) {userId tenantId : Uuid} {u : Unit}
    (hx : Repo.createMembership userId tenantId db = .ok (u, db')) : Keys db' := by
  unfold Repo.createMembership at hx
  split at hx
  · cases hx
    exact h
  · next hfresh =>
    split at hx
    · cases hx
    · cases hx
      simp only [List.any_eq_true, beq_iff_eq, not_exists, not_and] at hfresh
      exact { h with memberships := h.memberships.insert hfresh }

theorem Keys.insertTenant (h : Keys db) {id : Uuid} {slug name : String}
    (hx : Repo.insertTenant id slug name db = .ok db') : Keys db' := by
  unfold Repo.insertTenant at hx
  split at hx
  · cases hx
  · next hfresh =>
    cases hx
    simp only [List.any_eq_true, Bool.or_eq_true, beq_iff_eq, not_exists, not_and, not_or] at hfresh
    exact { h with
      tenantsId := h.tenantsId.insert fun t ht => (hfresh t ht).1
      tenantsSlug := h.tenantsSlug.insert fun t ht => (hfresh t ht).2 }

theorem unique_insertOneTimeToken {tokenHash : String} {userId : Uuid} {expiresAt : DateTime}
    {table table' : List OneTimeToken}
    (hx : Repo.insertOneTimeToken tokenHash userId expiresAt db table = .ok table')
    (h : Unique (·.tokenHash) table) : Unique (·.tokenHash) table' := by
  unfold Repo.insertOneTimeToken at hx
  split at hx
  · cases hx
  · next hfresh =>
    split at hx
    · cases hx
    · cases hx
      simp only [List.any_eq_true, beq_iff_eq, not_exists, not_and] at hfresh
      exact h.insert hfresh

theorem Keys.deleteUserRows (h : Keys db) (id : Uuid) : Keys (Repo.deleteUserRows id db) :=
  { h with
    usersId := h.usersId.deleteWhere _
    usersEmail := h.usersEmail.deleteWhere _
    refreshTokens := h.refreshTokens.deleteWhere _
    emailVerifications := h.emailVerifications.deleteWhere _
    passwordResets := h.passwordResets.deleteWhere _
    recoveryCodes := h.recoveryCodes.deleteWhere _
    recoveryCodesSeq := h.recoveryCodesSeq.deleteWhere _
    apiKeysId := h.apiKeysId.deleteWhere _
    apiKeysHash := h.apiKeysHash.deleteWhere _
    memberships := h.memberships.deleteWhere _
    userRoles := h.userRoles.deleteWhere _ }

theorem Keys.updateTokens (h : Keys db) {p : RefreshToken → Bool} {f : RefreshToken → RefreshToken}
    (hf : ∀ t, (f t).tokenHash = t.tokenHash) :
    Keys { db with refreshTokens := updateWhere p f db.refreshTokens } :=
  { h with refreshTokens := h.refreshTokens.updateWhere fun t _ => hf t }

theorem Keys.deleteRoleRows (h : Keys db) (hit : RoleRecord → Bool) :
    Keys (Repo.deleteRoleRows hit db) :=
  { h with
    rolesId := h.rolesId.deleteWhere _
    rolesSeq := h.rolesSeq.deleteWhere _
    rolesName := h.rolesName.deleteWhere _
    rolePermissions := h.rolePermissions.deleteWhere _
    userRoles := h.userRoles.deleteWhere _ }

theorem Keys.insertClient (h : Keys db) {k : OauthClient} {u : Unit}
    (hx : Repo.insertClient k db = .ok (u, db')) : Keys db' := by
  unfold Repo.insertClient at hx
  split at hx
  · cases hx
  · next hfresh =>
    split at hx <;> cases hx
    simp only [List.any_eq_true, beq_iff_eq, not_exists, not_and] at hfresh
    exact { h with oauthClients := h.oauthClients.insert hfresh }

theorem unique_insertRolePermissions {pairs table : List RolePermission}
    (h : Unique id table) : Unique id (Repo.insertRolePermissions table pairs) := by
  induction pairs generalizing table with
  | nil => exact h
  | cons rp pairs ih =>
    apply ih
    split
    · exact h
    · next hnew =>
      apply h.insert
      intro y hy heq
      obtain rfl : y = rp := heq
      exact hnew hy

theorem Keys.insertRecoveryCode (h : Keys db) {userId : Uuid} {codeHash : String} {r : Unit}
    (hx : Repo.insertRecoveryCode userId codeHash db = .ok (r, db')) : Keys db' := by
  simp only [Repo.insertRecoveryCode] at hx
  split at hx <;> cases hx
  exact { h with
    recoveryCodes := h.recoveryCodes.insert h.recoveryCodesSeq.fresh
    recoveryCodesSeq := h.recoveryCodesSeq.insert rfl }

theorem Keys.incrementLoginFailure (h : Keys db) {id : Uuid} {r : Int}
    (hx : Repo.incrementLoginFailure id db = .ok (r, db')) : Keys db' := by
  simp only [Repo.incrementLoginFailure] at hx
  split at hx
  · cases hx
  · split at hx <;> cases hx
    exact h.updateUser id (fun _ => rfl) fun _ => rfl

theorem Keys.createApiKey (h : Keys db) {id : String} {userId : Uuid} {keyHash name : String}
    {scopes : List String}
    {expiresAt : Option DateTime} {tenantId : Uuid} {projectId : Option Uuid} {r : Unit}
    (hx : Repo.createApiKey c id userId keyHash name scopes expiresAt tenantId projectId db =
      .ok (r, db')) : Keys db' := by
  simp only [Repo.createApiKey] at hx
  split at hx
  · cases hx
  · next hfresh =>
    split at hx <;> cases hx
    simp only [List.any_eq_true, Bool.or_eq_true, beq_iff_eq, not_exists, not_and, not_or] at hfresh
    exact { h with
      apiKeysId := h.apiKeysId.insert fun k hk => (hfresh k hk).1
      apiKeysHash := h.apiKeysHash.insert fun k hk => (hfresh k hk).2 }

theorem Keys.createRefreshToken (h : Keys db) {userId : Uuid} {tokenHash : String}
    {expiresAt : DateTime}
    {tenantId : Uuid} {projectId : Option Uuid} {r : Unit}
    (hx : Repo.createRefreshToken userId tokenHash expiresAt tenantId projectId db = .ok (r, db')) :
    Keys db' := by
  simp only [Repo.createRefreshToken] at hx
  split at hx
  · cases hx
  · next hfresh =>
    split at hx <;> cases hx
    simp only [List.any_eq_true, beq_iff_eq, not_exists, not_and] at hfresh
    exact { h with refreshTokens := h.refreshTokens.insert hfresh }

theorem Keys.createProject (h : Keys db) {tenantId : Uuid} {slug name : String} {r : ProjectRow}
    (hx : Repo.createProject c tenantId slug name db = .ok (r, db')) : Keys db' := by
  simp only [Repo.createProject] at hx
  split at hx
  · cases hx
  · split at hx
    · cases hx
    · next hfresh =>
      split at hx <;> cases hx
      simp only [List.any_eq_true, Bool.or_eq_true, Bool.and_eq_true, beq_iff_eq, not_exists,
        not_and, not_or] at hfresh
      exact { h with
        projectsId := h.projectsId.insert fun p hp => (hfresh p hp).1
        projectsSlug := h.projectsSlug.insert fun p hp heq =>
          (hfresh p hp).2 (congrArg Prod.fst heq) (congrArg Prod.snd heq) }

theorem Keys.createRole (h : Keys db) {name description : String} {tenantId : Uuid} {r : RoleRow}
    (hx : Repo.createRole name description tenantId db = .ok (r, db')) : Keys db' := by
  simp only [Repo.createRole] at hx
  split at hx
  · cases hx
  · split at hx
    · cases hx
    · next hfresh =>
      split at hx
      · cases hx
      · split at hx <;> cases hx
        simp only [List.any_eq_true, Repo.ownRole, Bool.and_eq_true, beq_iff_eq, not_exists,
          not_and] at hfresh
        exact { h with
          rolesId := h.rolesId.insert h.rolesSeq.fresh
          rolesSeq := h.rolesSeq.insert rfl
          rolesName := h.rolesName.insert fun r hr heq =>
            hfresh r hr (congrArg Prod.snd heq) (congrArg Prod.fst heq) }

theorem Keys.insertAuthorizationCode (h : Keys db) {codeHash clientId : String} {userId : Uuid}
    {uri scope challenge method nonce : String} {r : Unit}
    (hx : Repo.insertAuthorizationCode c codeHash clientId userId uri scope challenge method nonce db =
      .ok (r, db')) : Keys db' := by
  simp only [Repo.insertAuthorizationCode] at hx
  split at hx
  · cases hx
  · next hfresh =>
    split at hx <;> cases hx
    simp only [List.any_eq_true, beq_iff_eq, not_exists, not_and] at hfresh
    exact { h with authorizationCodes := h.authorizationCodes.insert hfresh }

theorem Keys.saveConsent (h : Keys db) {userId : Uuid} {clientId : String} {scopes : List String}
    {r : Unit}
    (hx : Repo.saveConsent userId clientId scopes db = .ok (r, db')) : Keys db' := by
  simp only [Repo.saveConsent] at hx
  split at hx
  · cases hx
    exact { h with oauthConsents := h.oauthConsents.updateWhere fun _ _ => rfl }
  · next hfresh =>
    split at hx <;> cases hx
    simp only [List.any_eq_true, Bool.and_eq_true, beq_iff_eq, not_exists, not_and] at hfresh
    exact { h with
      oauthConsents := h.oauthConsents.insert fun k hk heq =>
        hfresh k hk (congrArg Prod.fst heq) (congrArg Prod.snd heq) }

theorem Keys.insertConsoleClient (h : Keys db) {client : OauthClient} {r : Unit}
    (hx : Repo.insertConsoleClient client db = .ok (r, db')) : Keys db' := by
  simp only [Repo.insertConsoleClient] at hx
  split at hx
  · cases hx
    exact h
  · exact h.insertClient hx

theorem Keys.createEmailVerification (h : Keys db) {tokenHash : String} {userId : Uuid}
    {expiresAt : DateTime} {r : Unit}
    (hx : Repo.createEmailVerification tokenHash userId expiresAt db = .ok (r, db')) :
    Keys db' := by
  simp only [Repo.createEmailVerification] at hx
  split at hx <;> cases hx
  next htable => exact { h with emailVerifications := unique_insertOneTimeToken htable h.emailVerifications }

theorem Keys.createPasswordReset (h : Keys db) {tokenHash : String} {userId : Uuid}
    {expiresAt : DateTime} {r : Unit}
    (hx : Repo.createPasswordReset tokenHash userId expiresAt db = .ok (r, db')) : Keys db' := by
  simp only [Repo.createPasswordReset] at hx
  split at hx <;> cases hx
  next htable => exact { h with passwordResets := unique_insertOneTimeToken htable h.passwordResets }

theorem Keys.assignRole (h : Keys db) {userId : Uuid} {roleName : String} {tenantId : Uuid}
    {projectId : Option Uuid} {r : Unit}
    (hx : Repo.assignRole userId roleName tenantId projectId db = .ok (r, db')) : Keys db' := by
  simp only [Repo.assignRole] at hx
  split at hx
  · next h' =>
    cases hx
    exact h.insertUserRoles h'
  · cases hx

theorem Keys.revokeRole (h : Keys db) {userId : Uuid} {roleName : String} {tenantId : Uuid}
    {projectId : Option Uuid} {r : Unit}
    (hx : Repo.revokeRole userId roleName tenantId projectId db = .ok (r, db')) : Keys db' := by
  simp only [Repo.revokeRole] at hx
  split at hx <;> cases hx
  exact { h with userRoles := h.userRoles.deleteWhere _ }

theorem Keys.revokePermission (h : Keys db) {roleName permName : String} {tenantId : Uuid}
    {r : Unit}
    (hx : Repo.revokePermission roleName permName tenantId db = .ok (r, db')) : Keys db' := by
  obtain ⟨role, -, hx⟩ := bind_ok hx
  obtain ⟨perm, -, hx⟩ := bind_ok hx
  cases hx
  exact { h with rolePermissions := h.rolePermissions.deleteWhere _ }

theorem Keys.revokeAccessJti (h : Keys db) (jti : String) (expiresAt : DateTime) :
    Keys (Repo.revokeAccessJti jti expiresAt db) := by
  unfold Repo.revokeAccessJti
  split
  · exact h
  · next hfresh =>
    simp only [List.any_eq_true, beq_iff_eq, not_exists, not_and] at hfresh
    exact { h with revokedTokens := h.revokedTokens.insert hfresh }

theorem Keys.softDeleteUser (h : Keys db) (c : Choice) (id : Uuid) :
    Keys (Repo.softDeleteUser c id db) :=
  { h with
    usersId := h.usersId.updateWhere fun _ _ => rfl
    usersEmail := h.usersEmail.updateWhere fun _ _ => rfl
    refreshTokens := h.refreshTokens.updateWhere fun _ _ => rfl }

theorem keys_exec {s : Sql} {r : Reply s} (hx : s.exec conn c db = .ok (r, db')) (h : Keys db) :
    Keys db' := by
  cases s
  case createUserWithRole email hash role =>
    obtain ⟨db₁, -, h₁, h₂⟩ := createUserWithRole_ok hx
    exact (h.insertUser h₁).insertUserRoles h₂
  case createUserWithRoleEvent id email hash role eventType payload =>
    obtain ⟨db₁, db₂, h₁, h₂, h₃⟩ := createUserWithRoleEvent_ok hx
    exact ((h.insertUser h₁).insertUserRoles h₂).insertOutbox h₃
  case deleteUserEventSoft id hard eventType payload =>
    have hx := deleteUserEventSoft_ok hx
    cases hard with
    | true => exact (h.deleteUserRows id).insertOutbox hx
    | false => exact (h.softDeleteUser c id).insertOutbox hx
  case restoreUserEvent id eventType payload =>
    have hrestored : Keys (Repo.updateUser id (fun u => { u with deletedAt := none }) db) :=
      h.updateUser id (fun _ => rfl) fun _ => rfl
    exact hrestored.insertOutbox (restoreUserEvent_ok hx)
  case incrementLoginFailure id => exact h.incrementLoginFailure hx
  case insertRecoveryCode userId codeHash => exact h.insertRecoveryCode hx
  case deleteRecoveryCodes userId =>
    cases hx
    exact { h with
      recoveryCodes := h.recoveryCodes.deleteWhere _
      recoveryCodesSeq := h.recoveryCodesSeq.deleteWhere _ }
  case consumeRecoveryCode userId codeHash =>
    cases hx
    exact { h with
      recoveryCodes := h.recoveryCodes.updateWhere fun _ _ => rfl
      recoveryCodesSeq := h.recoveryCodesSeq.updateWhere fun _ _ => rfl }
  case createEmailVerification tokenHash userId expiresAt => exact h.createEmailVerification hx
  case consumeEmailVerification tokenHash =>
    cases hx
    exact { h with emailVerifications := h.emailVerifications.updateWhere fun _ _ => rfl }
  case createPasswordReset tokenHash userId expiresAt => exact h.createPasswordReset hx
  case consumePasswordReset tokenHash =>
    cases hx
    exact { h with passwordResets := h.passwordResets.updateWhere fun _ _ => rfl }
  case createApiKey id userId keyHash name scopes expiresAt tenantId projectId =>
    exact h.createApiKey hx
  case revokeApiKey id userId =>
    cases hx
    exact { h with
      apiKeysId := h.apiKeysId.updateWhere fun _ _ => rfl
      apiKeysHash := h.apiKeysHash.updateWhere fun _ _ => rfl }
  case touchApiKey id =>
    cases hx
    exact { h with
      apiKeysId := h.apiKeysId.updateWhere fun _ _ => rfl
      apiKeysHash := h.apiKeysHash.updateWhere fun _ _ => rfl }
  case insertAudit actorId actorEmail action target detail tenantId =>
    cases hx
    exact { h with
      auditEvents := h.auditEvents.insert h.auditEventsSeq.fresh
      auditEventsSeq := h.auditEventsSeq.insert rfl }
  case revokeAccessJti jti expiresAt =>
    cases hx
    exact h.revokeAccessJti jti expiresAt
  case createRefreshToken userId tokenHash expiresAt tenantId projectId =>
    exact h.createRefreshToken hx
  case createMembership userId tenantId => exact h.createMembership hx
  case addMember userId tenantId => exact h.createMembership hx
  case removeMember userId tenantId =>
    cases hx
    exact { h with memberships := h.memberships.deleteWhere _ }
  case createTenantWithAdmin slug name creator =>
    obtain ⟨db₁, db₂, -, h₁, h₂, h₃⟩ := createTenantWithAdmin_ok hx
    exact ((h.insertTenant h₁).createMembership h₂).insertUserRoles h₃
  case createProject tenantId slug name => exact h.createProject hx
  case assignRole userId roleName tenantId projectId => exact h.assignRole hx
  case revokeRole userId roleName tenantId projectId => exact h.revokeRole hx
  case createRole name description tenantId => exact h.createRole hx
  case updateRole name description tenantId =>
    cases hx
    exact { h with
      rolesId := h.rolesId.updateWhere fun _ _ => rfl
      rolesSeq := h.rolesSeq.updateWhere fun _ _ => rfl
      rolesName := h.rolesName.updateWhere fun _ _ => rfl }
  case deleteRole name tenantId =>
    cases hx
    exact h.deleteRoleRows _
  case grantPermission roleName permName tenantId =>
    cases hx
    exact { h with rolePermissions := unique_insertRolePermissions h.rolePermissions }
  case revokePermission roleName permName tenantId => exact h.revokePermission hx
  case selectEmail userId =>
    simp only [Sql.exec, Except.map] at hx
    split at hx <;> cases hx
    exact h
  case selectClientTenant clientId =>
    simp only [Sql.exec, Except.map] at hx
    split at hx <;> cases hx
    exact h
  case insertClient client => exact h.insertClient hx
  case insertConsoleClient client => exact h.insertConsoleClient hx
  case insertAuthorizationCode codeHash clientId userId uri scope challenge method nonce =>
    exact h.insertAuthorizationCode hx
  case claimAuthorizationCode codeHash =>
    cases hx
    exact { h with authorizationCodes := h.authorizationCodes.updateWhere fun _ _ => rfl }
  case saveConsent userId clientId scopes => exact h.saveConsent hx
  -- The other statements read, or update users or refresh tokens.
  all_goals
    cases hx
    first
    | exact h
    | exact h.updateUser _ (fun _ => rfl) fun _ => rfl
    | exact h.updateTokens fun _ => rfl

end Keys

/-! ## Foreign keys -/

section References

variable {conn : DbRole} {c : Choice} {db db' : Db}

theorem References.updateUser (h : References db) (id : Uuid) {f : UserRow → UserRow}
    (hid : ∀ u, (f u).id = u.id) : References (Repo.updateUser id f db) :=
  { h with
    tokenUser := h.tokenUser.updateWhere_right fun u _ => hid u
    verificationUser := h.verificationUser.updateWhere_right fun u _ => hid u
    resetUser := h.resetUser.updateWhere_right fun u _ => hid u
    recoveryCodeUser := h.recoveryCodeUser.updateWhere_right fun u _ => hid u
    apiKeyUser := h.apiKeyUser.updateWhere_right fun u _ => hid u
    memberUser := h.memberUser.updateWhere_right fun u _ => hid u
    assignedUser := h.assignedUser.updateWhere_right fun u _ => hid u }

theorem References.insertUser (h : References db) {id : Uuid} {email hash : String}
    (hx : Repo.insertUser id email hash db = .ok db') : References db' := by
  unfold Repo.insertUser at hx
  split at hx <;> cases hx
  have hold : ∀ u ∈ db.users, u ∈ db.users ++
      [(⟨id, email, hash, "active", false, 0, none, none, false, none⟩ : UserRow)] :=
    fun u hu => List.mem_append_left _ hu
  exact { h with
    tokenUser := h.tokenUser.mono hold
    verificationUser := h.verificationUser.mono hold
    resetUser := h.resetUser.mono hold
    recoveryCodeUser := h.recoveryCodeUser.mono hold
    apiKeyUser := h.apiKeyUser.mono hold
    memberUser := h.memberUser.mono hold
    assignedUser := h.assignedUser.mono hold }

theorem References.insertOutbox (h : References db) {id : Uuid} {eventType : String}
    {payload : EventPayload} (hx : Repo.insertOutbox c id eventType payload db = .ok db') :
    References db' := by
  unfold Repo.insertOutbox at hx
  split at hx <;> cases hx
  exact { h with }

/-- What the rows of `user_roles` refer to is checked on insertion. -/
theorem References.insertUserRole (h : References db) {s : Session} {ur : UserRole}
    (hx : Repo.insertUserRole s ur db = .ok db') : References db' := by
  rcases (insertUserRole_cases hx).2 with ⟨rfl, -⟩ | ⟨href, rfl⟩
  · exact h
  · simp only [Repo.userRoleReferences, Bool.and_eq_true, List.any_eq_true, beq_iff_eq] at href
    obtain ⟨⟨⟨huser, hrole⟩, htenant⟩, hproject⟩ := href
    exact { h with
      assignedUser := h.assignedUser.insert (by simpa using huser)
      assignedRole := h.assignedRole.insert (by simpa using hrole)
      assignedTenant := h.assignedTenant.insert (by simpa using htenant)
      assignedProject := h.assignedProject.insert fun p hp => by
        rw [Option.mem_def] at hp
        simpa [hp] using hproject }

theorem References.insertUserRoles {s : Session} {u t : Uuid} {p : Option Uuid} {rs : List Nat}
    (h : References db) (hx : Repo.insertUserRoles s u t p rs db = .ok db') : References db' := by
  induction rs generalizing db with
  | nil =>
    cases hx
    exact h
  | cons r rs ih =>
    simp only [Repo.insertUserRoles] at hx
    split at hx
    · next hr => exact ih (h.insertUserRole hr) hx
    · cases hx

theorem References.createMembership (h : References db) {userId tenantId : Uuid} {u : Unit}
    (hx : Repo.createMembership userId tenantId db = .ok (u, db')) : References db' := by
  unfold Repo.createMembership at hx
  split at hx
  · cases hx
    exact h
  · split at hx
    · cases hx
    · next href =>
      cases hx
      simp only [Bool.not_eq_true', Bool.not_eq_false, Bool.and_eq_true, List.any_eq_true,
        beq_iff_eq] at href
      exact { h with
        memberUser := h.memberUser.insert (by simpa using href.1)
        memberTenant := h.memberTenant.insert (by simpa using href.2) }

theorem References.insertTenant (h : References db) {id : Uuid} {slug name : String}
    (hx : Repo.insertTenant id slug name db = .ok db') : References db' := by
  rw [insertTenant_ok hx]
  have hold : ∀ t ∈ db.tenants, t ∈ db.tenants ++ [(⟨id, slug, name, "active"⟩ : TenantRow)] :=
    fun t ht => List.mem_append_left _ ht
  exact { h with
    tokenTenant := h.tokenTenant.mono hold
    apiKeyTenant := h.apiKeyTenant.mono hold
    projectTenant := h.projectTenant.mono hold
    memberTenant := h.memberTenant.mono hold
    roleTenant := h.roleTenant.mono hold
    assignedTenant := h.assignedTenant.mono hold
    clientTenant := h.clientTenant.mono hold }

theorem References.updateTokens (h : References db) {p : RefreshToken → Bool}
    {f : RefreshToken → RefreshToken} (hf : ∀ t, (f t).key = t.key) :
    References { db with refreshTokens := updateWhere p f db.refreshTokens } :=
  { h with
    tokenUser := h.tokenUser.updateWhere fun t _ => congrArg (fun k => some k.userId) (hf t)
    tokenTenant := h.tokenTenant.updateWhere fun t _ => congrArg (fun k => some k.tenantId) (hf t)
    tokenProject := h.tokenProject.updateWhere fun t _ => congrArg (fun k => k.projectId) (hf t) }

theorem References.updateApiKeys (h : References db) {p : ApiKeyRecord → Bool}
    {f : ApiKeyRecord → ApiKeyRecord}
    (hf : ∀ k, (f k).userId = k.userId ∧ (f k).tenantId = k.tenantId ∧ (f k).projectId = k.projectId) :
    References { db with apiKeys := updateWhere p f db.apiKeys } :=
  { h with
    apiKeyUser := h.apiKeyUser.updateWhere fun k _ => congrArg some (hf k).1
    apiKeyTenant := h.apiKeyTenant.updateWhere fun k _ => congrArg some (hf k).2.1
    apiKeyProject := h.apiKeyProject.updateWhere fun k _ => (hf k).2.2 }

theorem refers_client {clientId : String}
    (h : ¬(Repo.findClient clientId db).isNone = true) :
    ∀ k ∈ some clientId, ∃ x ∈ db.oauthClients, x.clientId = k := by
  intro k hk
  cases hk
  cases hfound : Repo.findClient clientId db with
  | none => exact absurd (by rw [hfound]; rfl) h
  | some x => exact ⟨x, List.mem_of_find?_eq_some hfound, by simpa using List.find?_some hfound⟩

theorem sessionReferences_iff {userId tenantId : Uuid} {projectId : Option Uuid} :
    Repo.sessionReferences userId tenantId projectId db = true ↔
      (∃ u ∈ db.users, u.id = userId) ∧ (∃ t ∈ db.tenants, t.id = tenantId) ∧
      ∀ p ∈ projectId, ∃ q ∈ db.projects, q.id = p := by
  cases projectId <;> simp [Repo.sessionReferences, and_assoc]

theorem refers_insertOneTimeToken {tokenHash : String} {userId : Uuid} {expiresAt : DateTime}
    {table table' : List OneTimeToken}
    (hx : Repo.insertOneTimeToken tokenHash userId expiresAt db table = .ok table')
    (h : Refers (fun t => some t.userId) UserRow.id table db.users) :
    Refers (fun t => some t.userId) UserRow.id table' db.users := by
  unfold Repo.insertOneTimeToken at hx
  split at hx
  · cases hx
  · split at hx
    · cases hx
    · next href =>
      cases hx
      exact h.insert (by simpa using href)

/-- A hard deletion takes along every row that refers to the user. -/
theorem References.deleteUserRows (h : References db) (id : Uuid) :
    References (Repo.deleteUserRows id db) := by
  have hgone : ∀ {owner : Uuid} {u : UserRow}, some owner = some u.id → (u.id == id) = true →
      (owner == id) = true := by
    intro owner u howner hu
    rw [Option.some.inj howner]
    exact hu
  exact { h with
    tokenUser := h.tokenUser.cascade fun _ _ _ _ => hgone
    tokenTenant := h.tokenTenant.deleteWhere _
    tokenProject := h.tokenProject.deleteWhere _
    verificationUser := h.verificationUser.cascade fun _ _ _ _ => hgone
    resetUser := h.resetUser.cascade fun _ _ _ _ => hgone
    recoveryCodeUser := h.recoveryCodeUser.cascade fun _ _ _ _ => hgone
    apiKeyUser := h.apiKeyUser.cascade fun _ _ _ _ => hgone
    apiKeyTenant := h.apiKeyTenant.deleteWhere _
    apiKeyProject := h.apiKeyProject.deleteWhere _
    memberUser := h.memberUser.cascade fun _ _ _ _ => hgone
    memberTenant := h.memberTenant.deleteWhere _
    assignedUser := h.assignedUser.cascade fun _ _ _ _ => hgone
    assignedRole := h.assignedRole.deleteWhere _
    assignedTenant := h.assignedTenant.deleteWhere _
    assignedProject := h.assignedProject.deleteWhere _ }

/-- A deletion of roles takes along their permissions and assignments. -/
theorem References.deleteRoleRows (h : References db) (hit : RoleRecord → Bool) :
    References (Repo.deleteRoleRows hit db) := by
  have hgone : ∀ {id : Nat}, ∀ r ∈ db.roles, some id = some r.id → hit r = true →
      (db.roles.any fun r => hit r && r.id == id) = true := by
    intro id r hr hid hhit
    refine List.any_eq_true.mpr ⟨r, hr, ?_⟩
    simp [hhit, Option.some.inj hid]
  exact { h with
    roleTenant := h.roleTenant.deleteWhere _
    grantRole := h.grantRole.cascade fun _ _ => hgone
    grantPermission := h.grantPermission.deleteWhere _
    assignedUser := h.assignedUser.deleteWhere _
    assignedRole := h.assignedRole.cascade fun _ _ => hgone
    assignedTenant := h.assignedTenant.deleteWhere _
    assignedProject := h.assignedProject.deleteWhere _ }

theorem References.insertClient (h : References db) {k : OauthClient} {u : Unit}
    (hx : Repo.insertClient k db = .ok (u, db')) : References db' := by
  unfold Repo.insertClient at hx
  split at hx
  · cases hx
  · split at hx
    · cases hx
    · next href =>
      cases hx
      have hold : ∀ x ∈ db.oauthClients, x ∈ db.oauthClients ++ [k] :=
        fun x hx => List.mem_append_left _ hx
      exact { h with
        clientTenant := h.clientTenant.insert (by simpa using href)
        codeClient := h.codeClient.mono hold
        consentClient := h.consentClient.mono hold }

theorem References.insertRecoveryCode (h : References db) {userId : Uuid} {codeHash : String}
    {r : Unit}
    (hx : Repo.insertRecoveryCode userId codeHash db = .ok (r, db')) : References db' := by
  simp only [Repo.insertRecoveryCode] at hx
  split at hx
  · next href =>
    cases hx
    exact { h with recoveryCodeUser := h.recoveryCodeUser.insert (by simpa using href) }
  · cases hx

theorem References.incrementLoginFailure (h : References db) {id : Uuid} {r : Int}
    (hx : Repo.incrementLoginFailure id db = .ok (r, db')) : References db' := by
  simp only [Repo.incrementLoginFailure] at hx
  split at hx
  · cases hx
  · split at hx <;> cases hx
    exact h.updateUser id fun _ => rfl

theorem References.createApiKey (h : References db) {id : String} {userId : Uuid}
    {keyHash name : String} {scopes : List String}
    {expiresAt : Option DateTime} {tenantId : Uuid} {projectId : Option Uuid} {r : Unit}
    (hx : Repo.createApiKey c id userId keyHash name scopes expiresAt tenantId projectId db =
      .ok (r, db')) : References db' := by
  simp only [Repo.createApiKey] at hx
  split at hx
  · cases hx
  · split at hx
    · cases hx
    · next href =>
      cases hx
      obtain ⟨huser, htenant, hproject⟩ :=
        sessionReferences_iff.1 (by simpa using href)
      exact { h with
        apiKeyUser := h.apiKeyUser.insert (by simpa using huser)
        apiKeyTenant := h.apiKeyTenant.insert (by simpa using htenant)
        apiKeyProject := h.apiKeyProject.insert hproject }

theorem References.createRefreshToken (h : References db) {userId : Uuid} {tokenHash : String}
    {expiresAt : DateTime}
    {tenantId : Uuid} {projectId : Option Uuid} {r : Unit}
    (hx : Repo.createRefreshToken userId tokenHash expiresAt tenantId projectId db = .ok (r, db')) :
    References db' := by
  simp only [Repo.createRefreshToken] at hx
  split at hx
  · cases hx
  · split at hx
    · cases hx
    · next href =>
      cases hx
      obtain ⟨huser, htenant, hproject⟩ :=
        sessionReferences_iff.1 (by simpa using href)
      exact { h with
        tokenUser := h.tokenUser.insert (by simpa using huser)
        tokenTenant := h.tokenTenant.insert (by simpa using htenant)
        tokenProject := h.tokenProject.insert hproject }

theorem References.createProject (h : References db) {tenantId : Uuid} {slug name : String}
    {r : ProjectRow}
    (hx : Repo.createProject c tenantId slug name db = .ok (r, db')) : References db' := by
  simp only [Repo.createProject] at hx
  split at hx
  · cases hx
  · split at hx
    · cases hx
    · split at hx
      · cases hx
      · next href =>
        cases hx
        have hold : ∀ p ∈ db.projects, p ∈ db.projects ++ [⟨c.uuid, tenantId, slug, name⟩] :=
          fun p hp => List.mem_append_left _ hp
        exact { h with
          projectTenant := h.projectTenant.insert (by simpa using href)
          tokenProject := h.tokenProject.mono hold
          apiKeyProject := h.apiKeyProject.mono hold
          assignedProject := h.assignedProject.mono hold }

theorem References.createRole (h : References db) {name description : String} {tenantId : Uuid}
    {r : RoleRow}
    (hx : Repo.createRole name description tenantId db = .ok (r, db')) : References db' := by
  simp only [Repo.createRole] at hx
  split at hx
  · cases hx
  · split at hx
    · cases hx
    · split at hx
      · cases hx
      · split at hx
        · cases hx
        · next href =>
          cases hx
          have hold : ∀ r ∈ db.roles, r ∈ db.roles ++
              [⟨⟨db.rolesIdSeq + 1, name, description⟩, some tenantId⟩] :=
            fun r hr => List.mem_append_left _ hr
          exact { h with
            roleTenant := h.roleTenant.insert (by simpa using href)
            grantRole := h.grantRole.mono hold
            assignedRole := h.assignedRole.mono hold }

theorem References.insertAuthorizationCode (h : References db) {codeHash clientId : String}
    {userId : Uuid}
    {uri scope challenge method nonce : String} {r : Unit}
    (hx : Repo.insertAuthorizationCode c codeHash clientId userId uri scope challenge method nonce db =
      .ok (r, db')) : References db' := by
  simp only [Repo.insertAuthorizationCode] at hx
  split at hx
  · cases hx
  · split at hx
    · cases hx
    · next href =>
      cases hx
      exact { h with codeClient := h.codeClient.insert (refers_client href) }

theorem References.saveConsent (h : References db) {userId : Uuid} {clientId : String}
    {scopes : List String} {r : Unit}
    (hx : Repo.saveConsent userId clientId scopes db = .ok (r, db')) : References db' := by
  simp only [Repo.saveConsent] at hx
  split at hx
  · cases hx
    exact { h with consentClient := h.consentClient.updateWhere fun _ _ => rfl }
  · split at hx
    · cases hx
    · next href =>
      cases hx
      exact { h with consentClient := h.consentClient.insert (refers_client href) }

theorem References.insertConsoleClient (h : References db) {client : OauthClient} {r : Unit}
    (hx : Repo.insertConsoleClient client db = .ok (r, db')) : References db' := by
  simp only [Repo.insertConsoleClient] at hx
  split at hx
  · cases hx
    exact h
  · exact h.insertClient hx

theorem References.createEmailVerification (h : References db) {tokenHash : String}
    {userId : Uuid} {expiresAt : DateTime} {r : Unit}
    (hx : Repo.createEmailVerification tokenHash userId expiresAt db = .ok (r, db')) :
    References db' := by
  simp only [Repo.createEmailVerification] at hx
  split at hx <;> cases hx
  next htable =>
    exact { h with verificationUser := refers_insertOneTimeToken htable h.verificationUser }

theorem References.createPasswordReset (h : References db) {tokenHash : String} {userId : Uuid}
    {expiresAt : DateTime} {r : Unit}
    (hx : Repo.createPasswordReset tokenHash userId expiresAt db = .ok (r, db')) :
    References db' := by
  simp only [Repo.createPasswordReset] at hx
  split at hx <;> cases hx
  next htable => exact { h with resetUser := refers_insertOneTimeToken htable h.resetUser }

theorem References.assignRole (h : References db) {userId : Uuid} {roleName : String}
    {tenantId : Uuid}
    {projectId : Option Uuid} {r : Unit}
    (hx : Repo.assignRole userId roleName tenantId projectId db = .ok (r, db')) :
    References db' := by
  simp only [Repo.assignRole] at hx
  split at hx
  · next h' =>
    cases hx
    exact h.insertUserRoles h'
  · cases hx

theorem References.revokeRole (h : References db) {userId : Uuid} {roleName : String}
    {tenantId : Uuid}
    {projectId : Option Uuid} {r : Unit}
    (hx : Repo.revokeRole userId roleName tenantId projectId db = .ok (r, db')) :
    References db' := by
  simp only [Repo.revokeRole] at hx
  split at hx <;> cases hx
  exact { h with
    assignedUser := h.assignedUser.deleteWhere _
    assignedRole := h.assignedRole.deleteWhere _
    assignedTenant := h.assignedTenant.deleteWhere _
    assignedProject := h.assignedProject.deleteWhere _ }

theorem References.revokePermission (h : References db) {roleName permName : String}
    {tenantId : Uuid} {r : Unit}
    (hx : Repo.revokePermission roleName permName tenantId db = .ok (r, db')) : References db' := by
  obtain ⟨role, -, hx⟩ := bind_ok hx
  obtain ⟨perm, -, hx⟩ := bind_ok hx
  cases hx
  exact { h with
    grantRole := h.grantRole.deleteWhere _
    grantPermission := h.grantPermission.deleteWhere _ }

theorem References.revokeAccessJti (h : References db) (jti : String) (expiresAt : DateTime) :
    References (Repo.revokeAccessJti jti expiresAt db) := by
  unfold Repo.revokeAccessJti
  split
  · exact h
  · exact { h with }

theorem References.softDeleteUser (h : References db) (c : Choice) (id : Uuid) :
    References (Repo.softDeleteUser c id db) := by
  have htoken : Refers (fun t => some t.userId) UserRow.id
      (Repo.softDeleteUser c id db).refreshTokens db.users :=
    h.tokenUser.updateWhere fun _ _ => rfl
  exact { h with
    tokenUser := htoken.updateWhere_right fun _ _ => rfl
    tokenTenant := h.tokenTenant.updateWhere fun _ _ => rfl
    tokenProject := h.tokenProject.updateWhere fun _ _ => rfl
    verificationUser := h.verificationUser.updateWhere_right fun _ _ => rfl
    resetUser := h.resetUser.updateWhere_right fun _ _ => rfl
    recoveryCodeUser := h.recoveryCodeUser.updateWhere_right fun _ _ => rfl
    apiKeyUser := h.apiKeyUser.updateWhere_right fun _ _ => rfl
    memberUser := h.memberUser.updateWhere_right fun _ _ => rfl
    assignedUser := h.assignedUser.updateWhere_right fun _ _ => rfl }

theorem references_exec {s : Sql} {r : Reply s} (hx : s.exec conn c db = .ok (r, db'))
    (h : References db) : References db' := by
  cases s
  case createUserWithRole email hash role =>
    obtain ⟨db₁, -, h₁, h₂⟩ := createUserWithRole_ok hx
    exact (h.insertUser h₁).insertUserRoles h₂
  case createUserWithRoleEvent id email hash role eventType payload =>
    obtain ⟨db₁, db₂, h₁, h₂, h₃⟩ := createUserWithRoleEvent_ok hx
    exact ((h.insertUser h₁).insertUserRoles h₂).insertOutbox h₃
  case deleteUserEventSoft id hard eventType payload =>
    have hx := deleteUserEventSoft_ok hx
    cases hard with
    | true => exact (h.deleteUserRows id).insertOutbox hx
    | false => exact (h.softDeleteUser c id).insertOutbox hx
  case restoreUserEvent id eventType payload =>
    have hrestored : References (Repo.updateUser id (fun u => { u with deletedAt := none }) db) :=
      h.updateUser id fun _ => rfl
    exact hrestored.insertOutbox (restoreUserEvent_ok hx)
  case incrementLoginFailure id => exact h.incrementLoginFailure hx
  case insertRecoveryCode userId codeHash => exact h.insertRecoveryCode hx
  case deleteRecoveryCodes userId =>
    cases hx
    exact { h with recoveryCodeUser := h.recoveryCodeUser.deleteWhere _ }
  case consumeRecoveryCode userId codeHash =>
    cases hx
    exact { h with recoveryCodeUser := h.recoveryCodeUser.updateWhere fun _ _ => rfl }
  case createEmailVerification tokenHash userId expiresAt => exact h.createEmailVerification hx
  case consumeEmailVerification tokenHash =>
    cases hx
    exact { h with verificationUser := h.verificationUser.updateWhere fun _ _ => rfl }
  case createPasswordReset tokenHash userId expiresAt => exact h.createPasswordReset hx
  case consumePasswordReset tokenHash =>
    cases hx
    exact { h with resetUser := h.resetUser.updateWhere fun _ _ => rfl }
  case createApiKey id userId keyHash name scopes expiresAt tenantId projectId =>
    exact h.createApiKey hx
  case revokeApiKey id userId =>
    cases hx
    exact h.updateApiKeys fun _ => ⟨rfl, rfl, rfl⟩
  case touchApiKey id =>
    cases hx
    exact h.updateApiKeys fun _ => ⟨rfl, rfl, rfl⟩
  case revokeAccessJti jti expiresAt =>
    cases hx
    exact h.revokeAccessJti jti expiresAt
  case createRefreshToken userId tokenHash expiresAt tenantId projectId =>
    exact h.createRefreshToken hx
  case createMembership userId tenantId => exact h.createMembership hx
  case addMember userId tenantId => exact h.createMembership hx
  case removeMember userId tenantId =>
    cases hx
    exact { h with
      memberUser := h.memberUser.deleteWhere _
      memberTenant := h.memberTenant.deleteWhere _ }
  case createTenantWithAdmin slug name creator =>
    obtain ⟨db₁, db₂, -, h₁, h₂, h₃⟩ := createTenantWithAdmin_ok hx
    exact ((h.insertTenant h₁).createMembership h₂).insertUserRoles h₃
  case createProject tenantId slug name => exact h.createProject hx
  case assignRole userId roleName tenantId projectId => exact h.assignRole hx
  case revokeRole userId roleName tenantId projectId => exact h.revokeRole hx
  case createRole name description tenantId => exact h.createRole hx
  case updateRole name description tenantId =>
    cases hx
    exact { h with
      roleTenant := h.roleTenant.updateWhere fun _ _ => rfl
      grantRole := h.grantRole.updateWhere_right fun _ _ => rfl
      assignedRole := h.assignedRole.updateWhere_right fun _ _ => rfl }
  case deleteRole name tenantId =>
    cases hx
    exact h.deleteRoleRows _
  case grantPermission roleName permName tenantId =>
    cases hx
    refine { h with grantRole := ?_, grantPermission := ?_ }
    · intro rp hrp k hk
      rcases mem_grantPermission.1 hrp with hold | hnew
      · exact h.grantRole rp hold k hk
      · obtain ⟨⟨r, hr, -, -, hid⟩, -⟩ := hnew
        exact ⟨r, hr, hid.trans (Option.some.inj hk)⟩
    · intro rp hrp k hk
      rcases mem_grantPermission.1 hrp with hold | hnew
      · exact h.grantPermission rp hold k hk
      · obtain ⟨-, p, hp, -, hid⟩ := hnew
        exact ⟨p, hp, hid.trans (Option.some.inj hk)⟩
  case revokePermission roleName permName tenantId => exact h.revokePermission hx
  case selectEmail userId =>
    simp only [Sql.exec, Except.map] at hx
    split at hx <;> cases hx
    exact h
  case selectClientTenant clientId =>
    simp only [Sql.exec, Except.map] at hx
    split at hx <;> cases hx
    exact h
  case insertClient client => exact h.insertClient hx
  case insertConsoleClient client => exact h.insertConsoleClient hx
  case insertAuthorizationCode codeHash clientId userId uri scope challenge method nonce =>
    exact h.insertAuthorizationCode hx
  case claimAuthorizationCode codeHash =>
    cases hx
    exact { h with codeClient := h.codeClient.updateWhere fun _ _ => rfl }
  case saveConsent userId clientId scopes => exact h.saveConsent hx
  -- The other statements read, or write nothing that is referred to.
  all_goals
    cases hx
    first
    | exact h
    | exact { h with }
    | exact h.updateUser _ fun _ => rfl
    | exact h.updateTokens fun _ => rfl

end References

/-! ## Runs -/

structure Integrity (db : Db) : Prop where
  keys : Keys db
  references : References db

theorem integrity_exec {conn : DbRole} {c : Choice} {s : Sql} {r : Reply s} {db db' : Db}
    (hx : s.exec conn c db = .ok (r, db')) (h : Integrity db) : Integrity db' :=
  ⟨keys_exec hx h.keys, references_exec hx h.references⟩

/-- In every state of every run of the service, starts and the saga included, all
unique indexes and foreign keys of the migrated schema hold. -/
theorem always_integrity (cr : Crates) (conn : DbRole) (redis : Redis) (ls : List Act) :
    Pool.Always (machine cr conn) (Call.body cr) (fun w => Integrity w.state.db)
      (Pool.init ⟨migrated, redis⟩) ls := by
  intro pre _
  have hstart : Integrity migrated := ⟨keys_migrated, references_migrated⟩
  exact db_run cr conn (fun hx hdb => integrity_exec hx hdb) hstart pre

end IamAuth
