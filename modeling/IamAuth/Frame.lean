import IamAuth.Statements

/-!
# What a statement leaves alone

`Sql.writes` lists the tables a statement may change, foreign-key cascades
included. `Sql.exec_frame` says once, for every statement, that the others are
the same afterwards; an invariant of some tables then only meets their writers.
-/

set_option autoImplicit false

namespace IamAuth

open Relational

inductive Table where
  | users
  | refreshTokens
  | revokedTokens
  | emailVerifications
  | passwordResets
  | totpRecoveryCodes
  | apiKeys
  | tenants
  | projects
  | memberships
  | roles
  | rolePermissions
  | userRoles
  | oauthClients
  | oauthAuthorizationCodes
  | oauthConsents
  | auditEvents
  | outbox
  deriving DecidableEq

/-- `db'` agrees with `db` on every table outside `ts`. No statement writes
`permissions`. -/
structure Frame (ts : List Table) (db db' : Db) : Prop where
  users : .users ∉ ts → db'.users = db.users
  refreshTokens : .refreshTokens ∉ ts → db'.refreshTokens = db.refreshTokens
  revokedTokens : .revokedTokens ∉ ts → db'.revokedTokens = db.revokedTokens
  emailVerifications : .emailVerifications ∉ ts → db'.emailVerifications = db.emailVerifications
  passwordResets : .passwordResets ∉ ts → db'.passwordResets = db.passwordResets
  totpRecoveryCodes : .totpRecoveryCodes ∉ ts → db'.totpRecoveryCodes = db.totpRecoveryCodes
  apiKeys : .apiKeys ∉ ts → db'.apiKeys = db.apiKeys
  tenants : .tenants ∉ ts → db'.tenants = db.tenants
  projects : .projects ∉ ts → db'.projects = db.projects
  memberships : .memberships ∉ ts → db'.memberships = db.memberships
  roles : .roles ∉ ts → db'.roles = db.roles
  rolesIdSeq : .roles ∉ ts → db'.rolesIdSeq = db.rolesIdSeq
  permissions : db'.permissions = db.permissions
  rolePermissions : .rolePermissions ∉ ts → db'.rolePermissions = db.rolePermissions
  userRoles : .userRoles ∉ ts → db'.userRoles = db.userRoles
  oauthClients : .oauthClients ∉ ts → db'.oauthClients = db.oauthClients
  oauthAuthorizationCodes : .oauthAuthorizationCodes ∉ ts →
    db'.oauthAuthorizationCodes = db.oauthAuthorizationCodes
  oauthConsents : .oauthConsents ∉ ts → db'.oauthConsents = db.oauthConsents
  auditEvents : .auditEvents ∉ ts → db'.auditEvents = db.auditEvents
  outbox : .outbox ∉ ts → db'.outbox = db.outbox

def Sql.writes : Sql → List Table
  | .createUserWithRole .. => [.users, .userRoles]
  | .createUserWithRoleEvent .. => [.users, .userRoles, .outbox]
  | .deleteUserEventSoft .. =>
    [.users, .refreshTokens, .emailVerifications, .passwordResets, .totpRecoveryCodes, .apiKeys,
      .memberships, .userRoles, .outbox]
  | .restoreUserEvent .. => [.users, .outbox]
  | .setTotpSecret .. | .enableTotp _ | .disableTotp _ | .incrementLoginFailure _ | .lockUser ..
  | .resetLoginState _ | .markEmailVerified _ | .updatePassword .. => [.users]
  | .insertRecoveryCode .. | .deleteRecoveryCodes _ | .consumeRecoveryCode .. =>
    [.totpRecoveryCodes]
  | .revokeAllUserRefreshTokens _ | .createRefreshToken .. | .revokeRefreshToken _
  | .rotateRefreshToken .. => [.refreshTokens]
  | .createEmailVerification .. | .consumeEmailVerification _ => [.emailVerifications]
  | .createPasswordReset .. | .consumePasswordReset _ => [.passwordResets]
  | .createApiKey .. | .revokeApiKey .. | .touchApiKey _ => [.apiKeys]
  | .insertAudit .. => [.auditEvents]
  | .revokeAccessJti .. => [.revokedTokens]
  | .createMembership .. | .addMember .. | .removeMember .. => [.memberships]
  | .createTenantWithAdmin .. => [.tenants, .memberships, .userRoles]
  | .createProject .. => [.projects]
  | .assignRole .. | .revokeRole .. => [.userRoles]
  | .createRole .. | .updateRole .. => [.roles]
  | .deleteRole .. => [.roles, .rolePermissions, .userRoles]
  | .grantPermission .. | .revokePermission .. => [.rolePermissions]
  | .insertClient _ | .insertConsoleClient _ => [.oauthClients]
  | .insertAuthorizationCode .. | .claimAuthorizationCode _ => [.oauthAuthorizationCodes]
  | .saveConsent .. => [.oauthConsents]
  | _ => []

theorem Frame.refl (ts : List Table) (db : Db) : Frame ts db db := by
  constructor <;> intros <;> rfl

theorem Frame.trans {ts : List Table} {a b c : Db} (h : Frame ts a b) (h' : Frame ts b c) :
    Frame ts a c where
  users hn := (h'.users hn).trans (h.users hn)
  refreshTokens hn := (h'.refreshTokens hn).trans (h.refreshTokens hn)
  revokedTokens hn := (h'.revokedTokens hn).trans (h.revokedTokens hn)
  emailVerifications hn := (h'.emailVerifications hn).trans (h.emailVerifications hn)
  passwordResets hn := (h'.passwordResets hn).trans (h.passwordResets hn)
  totpRecoveryCodes hn := (h'.totpRecoveryCodes hn).trans (h.totpRecoveryCodes hn)
  apiKeys hn := (h'.apiKeys hn).trans (h.apiKeys hn)
  tenants hn := (h'.tenants hn).trans (h.tenants hn)
  projects hn := (h'.projects hn).trans (h.projects hn)
  memberships hn := (h'.memberships hn).trans (h.memberships hn)
  roles hn := (h'.roles hn).trans (h.roles hn)
  rolesIdSeq hn := (h'.rolesIdSeq hn).trans (h.rolesIdSeq hn)
  permissions := h'.permissions.trans h.permissions
  rolePermissions hn := (h'.rolePermissions hn).trans (h.rolePermissions hn)
  userRoles hn := (h'.userRoles hn).trans (h.userRoles hn)
  oauthClients hn := (h'.oauthClients hn).trans (h.oauthClients hn)
  oauthAuthorizationCodes hn :=
    (h'.oauthAuthorizationCodes hn).trans (h.oauthAuthorizationCodes hn)
  oauthConsents hn := (h'.oauthConsents hn).trans (h.oauthConsents hn)
  auditEvents hn := (h'.auditEvents hn).trans (h.auditEvents hn)
  outbox hn := (h'.outbox hn).trans (h.outbox hn)

/-- A larger set of tables is a weaker frame. -/
theorem Frame.mono {ts ts' : List Table} (hts : ∀ t ∈ ts, t ∈ ts') {db db' : Db}
    (h : Frame ts db db') : Frame ts' db db' where
  users hn := h.users fun hm => hn (hts _ hm)
  refreshTokens hn := h.refreshTokens fun hm => hn (hts _ hm)
  revokedTokens hn := h.revokedTokens fun hm => hn (hts _ hm)
  emailVerifications hn := h.emailVerifications fun hm => hn (hts _ hm)
  passwordResets hn := h.passwordResets fun hm => hn (hts _ hm)
  totpRecoveryCodes hn := h.totpRecoveryCodes fun hm => hn (hts _ hm)
  apiKeys hn := h.apiKeys fun hm => hn (hts _ hm)
  tenants hn := h.tenants fun hm => hn (hts _ hm)
  projects hn := h.projects fun hm => hn (hts _ hm)
  memberships hn := h.memberships fun hm => hn (hts _ hm)
  roles hn := h.roles fun hm => hn (hts _ hm)
  rolesIdSeq hn := h.rolesIdSeq fun hm => hn (hts _ hm)
  permissions := h.permissions
  rolePermissions hn := h.rolePermissions fun hm => hn (hts _ hm)
  userRoles hn := h.userRoles fun hm => hn (hts _ hm)
  oauthClients hn := h.oauthClients fun hm => hn (hts _ hm)
  oauthAuthorizationCodes hn := h.oauthAuthorizationCodes fun hm => hn (hts _ hm)
  oauthConsents hn := h.oauthConsents fun hm => hn (hts _ hm)
  auditEvents hn := h.auditEvents fun hm => hn (hts _ hm)
  outbox hn := h.outbox fun hm => hn (hts _ hm)

/-! ## Writes of one table -/

section

variable (db : Db)

theorem frame_users (x) : Frame [.users] db { db with users := x } := by
  constructor <;> simp

theorem frame_refreshTokens (x) : Frame [.refreshTokens] db { db with refreshTokens := x } := by
  constructor <;> simp

theorem frame_revokedTokens (x) : Frame [.revokedTokens] db { db with revokedTokens := x } := by
  constructor <;> simp

theorem frame_emailVerifications (x) : Frame [.emailVerifications] db { db with emailVerifications := x } := by
  constructor <;> simp

theorem frame_passwordResets (x) : Frame [.passwordResets] db { db with passwordResets := x } := by
  constructor <;> simp

theorem frame_totpRecoveryCodes (x) : Frame [.totpRecoveryCodes] db { db with totpRecoveryCodes := x } := by
  constructor <;> simp

theorem frame_apiKeys (x) : Frame [.apiKeys] db { db with apiKeys := x } := by
  constructor <;> simp

theorem frame_tenants (x) : Frame [.tenants] db { db with tenants := x } := by
  constructor <;> simp

theorem frame_projects (x) : Frame [.projects] db { db with projects := x } := by
  constructor <;> simp

theorem frame_memberships (x) : Frame [.memberships] db { db with memberships := x } := by
  constructor <;> simp

theorem frame_rolePermissions (x) : Frame [.rolePermissions] db { db with rolePermissions := x } := by
  constructor <;> simp

theorem frame_userRoles (x) : Frame [.userRoles] db { db with userRoles := x } := by
  constructor <;> simp

theorem frame_oauthClients (x) : Frame [.oauthClients] db { db with oauthClients := x } := by
  constructor <;> simp

theorem frame_oauthAuthorizationCodes (x) : Frame [.oauthAuthorizationCodes] db { db with oauthAuthorizationCodes := x } := by
  constructor <;> simp

theorem frame_oauthConsents (x) : Frame [.oauthConsents] db { db with oauthConsents := x } := by
  constructor <;> simp

theorem frame_outbox (x) : Frame [.outbox] db { db with outbox := x } := by
  constructor <;> simp

theorem frame_roles (x) (n : Nat) : Frame [.roles] db { db with roles := x, rolesIdSeq := n } := by
  constructor <;> simp

end

/-! ## The pieces of the longer transactions -/

theorem frame_insertUser {id : Uuid} {email hash : String} {db db' : Db}
    (h : Repo.insertUser id email hash db = .ok db') : Frame [.users] db db' := by
  unfold Repo.insertUser at h
  split at h
  · cases h
  · cases h
    exact frame_users _ _

theorem frame_insertOutbox {c : Choice} {id : Uuid} {eventType : String} {payload : EventPayload}
    {db db' : Db} (h : Repo.insertOutbox c id eventType payload db = .ok db') :
    Frame [.outbox] db db' := by
  unfold Repo.insertOutbox at h
  split at h
  · cases h
  · cases h
    exact frame_outbox _ _

/-- What one insertion into `user_roles` does: the row is there afterwards. -/
theorem insertUserRole_cases {s : Session} {ur : UserRole} {db db' : Db}
    (h : Repo.insertUserRole s ur db = .ok db') :
    s.sees (some ur.tenantId) = true ∧
    ((db' = db ∧ ∃ x ∈ db.userRoles, Repo.assignmentKey x = Repo.assignmentKey ur) ∨
      (Repo.userRoleReferences ur db = true ∧
        db' = { db with userRoles := db.userRoles ++ [ur] })) := by
  unfold Repo.insertUserRole at h
  split at h
  · cases h
  · next hs =>
    refine ⟨by simpa using hs, ?_⟩
    split at h
    · next hany =>
      cases h
      exact .inl ⟨rfl, by simpa [List.any_eq_true] using hany⟩
    · split at h
      · cases h
      · next href =>
        cases h
        exact .inr ⟨by simpa using href, rfl⟩

theorem frame_insertUserRole {s : Session} {ur : UserRole} {db db' : Db}
    (h : Repo.insertUserRole s ur db = .ok db') : Frame [.userRoles] db db' := by
  rcases (insertUserRole_cases h).2 with ⟨rfl, -⟩ | ⟨-, rfl⟩
  · exact .refl _ _
  · exact frame_userRoles _ _

theorem frame_insertUserRoles {s : Session} {u t : Uuid} {p : Option Uuid} {rs : List Nat}
    {db db' : Db} (h : Repo.insertUserRoles s u t p rs db = .ok db') :
    Frame [.userRoles] db db' := by
  induction rs generalizing db with
  | nil =>
    cases h
    exact .refl _ _
  | cons r rs ih =>
    simp only [Repo.insertUserRoles] at h
    split at h
    · next hr => exact (frame_insertUserRole hr).trans (ih h)
    · cases h

/-- The new rows come last, and what they reference exists. -/
theorem insertUserRoles_rows {s : Session} {u t : Uuid} {p : Option Uuid} {rs : List Nat}
    {db db' : Db} (h : Repo.insertUserRoles s u t p rs db = .ok db') :
    ∃ new, db'.userRoles = db.userRoles ++ new ∧ ∀ ur ∈ new, (∃ r ∈ rs, ur = ⟨u, r, t, p⟩) ∧
      Repo.userRoleReferences ur db = true := by
  induction rs generalizing db with
  | nil =>
    cases h
    exact ⟨[], (List.append_nil _).symm, by simp⟩
  | cons r rs ih =>
    simp only [Repo.insertUserRoles] at h
    split at h
    · next db₁ h₁ =>
      obtain ⟨new, hnew, hall⟩ := ih h
      rcases (insertUserRole_cases h₁).2 with ⟨rfl, -⟩ | ⟨href, rfl⟩
      · refine ⟨new, hnew, fun ur hur => ?_⟩
        obtain ⟨⟨r', hr', heq⟩, hrefs⟩ := hall ur hur
        exact ⟨⟨r', List.mem_cons_of_mem r hr', heq⟩, hrefs⟩
      · refine ⟨⟨u, r, t, p⟩ :: new, hnew.trans (List.append_cons _ _ _).symm, fun ur hur => ?_⟩
        rcases List.mem_cons.mp hur with rfl | hur
        · exact ⟨⟨r, List.mem_cons_self, rfl⟩, href⟩
        · obtain ⟨⟨r', hr', heq⟩, hrefs⟩ := hall ur hur
          exact ⟨⟨r', List.mem_cons_of_mem r hr', heq⟩, hrefs⟩
    · cases h

theorem mem_insertUserRoles {s : Session} {u t : Uuid} {p : Option Uuid} {rs : List Nat}
    {db db' : Db} (h : Repo.insertUserRoles s u t p rs db = .ok db') {ur : UserRole}
    (hur : ur ∈ db'.userRoles) :
    ur ∈ db.userRoles ∨ ∃ r ∈ rs, ur = ⟨u, r, t, p⟩ := by
  obtain ⟨new, hnew, hall⟩ := insertUserRoles_rows h
  rw [hnew] at hur
  exact (List.mem_append.mp hur).imp_right fun hur => (hall ur hur).1

/-! ## The longer transactions -/

theorem bind_ok {ε α β : Type} {x : Except ε α} {f : α → Except ε β} {b : β}
    (h : (x >>= f) = .ok b) : ∃ a, x = .ok a ∧ f a = .ok b := by
  cases x with
  | error e => cases h
  | ok a => exact ⟨a, rfl, h⟩

/-- The steps of bootstrap's transaction. -/
theorem createUserWithRole_ok {conn : DbRole} {c : Choice} {email hash role : String}
    {db db' : Db} {id : Uuid} (h : Repo.createUserWithRole conn c email hash role db = .ok (id, db')) :
    ∃ db₁, id = c.uuid ∧ Repo.insertUser c.uuid email hash db = .ok db₁ ∧
      Repo.insertUserRoles (tenantGucTx conn defaultTenantId) c.uuid defaultTenantId none
        (Repo.rolesNamed (tenantGucTx conn defaultTenantId) role db₁) db₁ = .ok db' := by
  obtain ⟨db₁, h₁, h⟩ := bind_ok h
  obtain ⟨db₂, h₂, h⟩ := bind_ok h
  cases h
  exact ⟨db₁, rfl, h₁, h₂⟩

/-- The steps of register's transaction. -/
theorem createUserWithRoleEvent_ok {conn : DbRole} {c : Choice} {id : Uuid}
    {email hash role eventType : String} {payload : EventPayload} {db db' : Db} {u : Unit}
    (h : Repo.createUserWithRoleEvent conn c id email hash role eventType payload db =
      .ok (u, db')) :
    ∃ db₁ db₂, Repo.insertUser id email hash db = .ok db₁ ∧
      Repo.insertUserRoles (tenantGucTx conn defaultTenantId) id defaultTenantId none
        (Repo.rolesNamed (tenantGucTx conn defaultTenantId) role db₁) db₁ = .ok db₂ ∧
      Repo.insertOutbox c id eventType payload db₂ = .ok db' := by
  obtain ⟨db₁, h₁, h⟩ := bind_ok h
  obtain ⟨db₂, h₂, h⟩ := bind_ok h
  obtain ⟨db₃, h₃, h⟩ := bind_ok h
  cases h
  exact ⟨db₁, db₂, h₁, h₂, h₃⟩

/-- The steps of delete_user's transaction. -/
theorem deleteUserEventSoft_ok {c : Choice} {id : Uuid} {hard : Bool} {eventType : String}
    {payload : EventPayload} {db db' : Db} {u : Unit}
    (h : Repo.deleteUserEventSoft c id hard eventType payload db = .ok (u, db')) :
    Repo.insertOutbox c id eventType payload
      (if hard then Repo.deleteUserRows id db else Repo.softDeleteUser c id db) = .ok db' := by
  obtain ⟨db₁, h₁, h⟩ := bind_ok h
  cases h
  exact h₁

/-- The steps of restore_user's transaction. -/
theorem restoreUserEvent_ok {c : Choice} {id : Uuid} {eventType : String}
    {payload : EventPayload} {db db' : Db} {u : Unit}
    (h : Repo.restoreUserEvent c id eventType payload db = .ok (u, db')) :
    Repo.insertOutbox c id eventType payload
      (Repo.updateUser id (fun u => { u with deletedAt := none }) db) = .ok db' := by
  obtain ⟨db₁, h₁, h⟩ := bind_ok h
  cases h
  exact h₁

/-- What one membership insertion does. -/
theorem createMembership_ok {userId tenantId : Uuid} {db db' : Db} {u : Unit}
    (h : Repo.createMembership userId tenantId db = .ok (u, db')) :
    db' = db ∨ db' = { db with memberships := db.memberships ++ [⟨userId, tenantId, "active"⟩] } := by
  unfold Repo.createMembership at h
  split at h
  · cases h
    exact .inl rfl
  · split at h
    · cases h
    · cases h
      exact .inr rfl

theorem insertTenant_ok {id : Uuid} {slug name : String} {db db' : Db}
    (h : Repo.insertTenant id slug name db = .ok db') :
    db' = { db with tenants := db.tenants ++ [⟨id, slug, name, "active"⟩] } := by
  unfold Repo.insertTenant at h
  split at h
  · cases h
  · cases h
    rfl

theorem frame_insertTenant {id : Uuid} {slug name : String} {db db' : Db}
    (h : Repo.insertTenant id slug name db = .ok db') : Frame [.tenants] db db' := by
  rw [insertTenant_ok h]
  exact frame_tenants _ _

/-- The steps of create_tenant's transaction. -/
theorem createTenantWithAdmin_ok {conn : DbRole} {c : Choice} {slug name : String} {creator : Uuid}
    {db db' : Db} {t : TenantRow}
    (h : Repo.createTenantWithAdmin conn c slug name creator db = .ok (t, db')) :
    ∃ db₁ db₂, t = ⟨c.uuid, slug, name, "active"⟩ ∧
      Repo.insertTenant c.uuid slug name db = .ok db₁ ∧
      Repo.createMembership creator c.uuid db₁ = .ok ((), db₂) ∧
      Repo.insertUserRoles (pool conn) creator c.uuid none
        ((((pool conn).roles db₂).filter fun r => r.name == "admin" && r.tenantId.isNone).map
          (·.id)) db₂ = .ok db' := by
  obtain ⟨db₁, h₁, h⟩ := bind_ok h
  obtain ⟨⟨⟨⟩, db₂⟩, h₂, h⟩ := bind_ok h
  obtain ⟨db₃, h₃, h⟩ := bind_ok h
  cases h
  exact ⟨db₁, db₂, rfl, h₁, h₂, h₃⟩

theorem frame_createMembership {userId tenantId : Uuid} {db db' : Db} {u : Unit}
    (h : Repo.createMembership userId tenantId db = .ok (u, db')) :
    Frame [.memberships] db db' := by
  rcases createMembership_ok h with rfl | rfl
  · exact .refl _ _
  · exact frame_memberships _ _

theorem frame_insertClient {k : OauthClient} {db db' : Db} {u : Unit}
    (h : Repo.insertClient k db = .ok (u, db')) : Frame [.oauthClients] db db' := by
  unfold Repo.insertClient at h
  split at h
  · cases h
  · split at h <;> cases h
    exact frame_oauthClients _ _

theorem frame_deleteUserRows (id : Uuid) (db : Db) :
    Frame [.users, .refreshTokens, .emailVerifications, .passwordResets, .totpRecoveryCodes,
      .apiKeys, .memberships, .userRoles, .outbox] db (Repo.deleteUserRows id db) := by
  constructor <;> simp [Repo.deleteUserRows]

theorem frame_softDeleteUser (c : Choice) (id : Uuid) (db : Db) :
    Frame [.users, .refreshTokens] db (Repo.softDeleteUser c id db) := by
  constructor <;> simp [Repo.softDeleteUser, Repo.revokeAllUserRefreshTokens]

theorem getUserById_id {u : Uuid} {db : Db} {x : UserRow} (h : Repo.getUserById u db = some x) :
    x.id = u := by
  simpa using List.find?_some h

/-! ## Every statement -/

section Statements

variable {c : Choice} {db db' : Db}

theorem frame_incrementLoginFailure {id : Uuid} {r : Int}
    (h : Repo.incrementLoginFailure id db = .ok (r, db')) : Frame [.users] db db' := by
  simp only [Repo.incrementLoginFailure] at h
  split at h
  · cases h
  · split at h <;> cases h
    exact frame_users _ _

theorem frame_insertRecoveryCode {userId : Uuid} {codeHash : String} {r : Unit}
    (h : Repo.insertRecoveryCode userId codeHash db = .ok (r, db')) :
    Frame [.totpRecoveryCodes] db db' := by
  simp only [Repo.insertRecoveryCode] at h
  split at h <;> cases h
  constructor <;> simp

theorem frame_createRefreshToken {userId : Uuid} {tokenHash : String} {expiresAt : DateTime}
    {tenantId : Uuid} {projectId : Option Uuid} {r : Unit}
    (h : Repo.createRefreshToken userId tokenHash expiresAt tenantId projectId db = .ok (r, db')) :
    Frame [.refreshTokens] db db' := by
  simp only [Repo.createRefreshToken] at h
  split at h
  · cases h
  · split at h <;> cases h
    exact frame_refreshTokens _ _

theorem frame_createEmailVerification {tokenHash : String} {userId : Uuid} {expiresAt : DateTime}
    {r : Unit}
    (h : Repo.createEmailVerification tokenHash userId expiresAt db = .ok (r, db')) :
    Frame [.emailVerifications] db db' := by
  simp only [Repo.createEmailVerification] at h
  split at h <;> cases h
  exact frame_emailVerifications _ _

theorem frame_createPasswordReset {tokenHash : String} {userId : Uuid} {expiresAt : DateTime}
    {r : Unit}
    (h : Repo.createPasswordReset tokenHash userId expiresAt db = .ok (r, db')) :
    Frame [.passwordResets] db db' := by
  simp only [Repo.createPasswordReset] at h
  split at h <;> cases h
  exact frame_passwordResets _ _

theorem frame_createApiKey {id : String} {userId : Uuid} {keyHash name : String}
    {scopes : List String} {expiresAt : Option DateTime} {tenantId : Uuid} {projectId : Option Uuid}
    {r : Unit}
    (h : Repo.createApiKey c id userId keyHash name scopes expiresAt tenantId projectId db =
      .ok (r, db')) : Frame [.apiKeys] db db' := by
  simp only [Repo.createApiKey] at h
  split at h
  · cases h
  · split at h <;> cases h
    exact frame_apiKeys _ _

theorem frame_createProject {tenantId : Uuid} {slug name : String} {r : ProjectRow}
    (h : Repo.createProject c tenantId slug name db = .ok (r, db')) : Frame [.projects] db db' := by
  simp only [Repo.createProject] at h
  repeat' split at h
  all_goals cases h
  exact frame_projects _ _

theorem frame_assignRole {userId : Uuid} {roleName : String} {tenantId : Uuid}
    {projectId : Option Uuid} {r : Unit}
    (h : Repo.assignRole userId roleName tenantId projectId db = .ok (r, db')) :
    Frame [.userRoles] db db' := by
  simp only [Repo.assignRole] at h
  split at h
  · next h' =>
    cases h
    exact frame_insertUserRoles h'
  · cases h

theorem frame_revokeRole {userId : Uuid} {roleName : String} {tenantId : Uuid}
    {projectId : Option Uuid} {r : Unit}
    (h : Repo.revokeRole userId roleName tenantId projectId db = .ok (r, db')) :
    Frame [.userRoles] db db' := by
  simp only [Repo.revokeRole] at h
  split at h <;> cases h
  exact frame_userRoles _ _

theorem frame_createRole {name description : String} {tenantId : Uuid} {r : RoleRow}
    (h : Repo.createRole name description tenantId db = .ok (r, db')) : Frame [.roles] db db' := by
  simp only [Repo.createRole] at h
  repeat' split at h
  all_goals cases h
  exact frame_roles _ _ _

theorem frame_revokePermission {roleName permName : String} {tenantId : Uuid} {r : Unit}
    (h : Repo.revokePermission roleName permName tenantId db = .ok (r, db')) :
    Frame [.rolePermissions] db db' := by
  obtain ⟨role, -, h⟩ := bind_ok h
  obtain ⟨perm, -, h⟩ := bind_ok h
  cases h
  exact frame_rolePermissions _ _

theorem frame_insertConsoleClient {client : OauthClient} {r : Unit}
    (h : Repo.insertConsoleClient client db = .ok (r, db')) : Frame [.oauthClients] db db' := by
  simp only [Repo.insertConsoleClient] at h
  split at h
  · cases h
    exact .refl _ _
  · exact frame_insertClient h

theorem frame_insertAuthorizationCode {codeHash clientId : String} {userId : Uuid}
    {uri scope challenge method nonce : String} {r : Unit}
    (h : Repo.insertAuthorizationCode c codeHash clientId userId uri scope challenge method nonce db =
      .ok (r, db')) : Frame [.oauthAuthorizationCodes] db db' := by
  simp only [Repo.insertAuthorizationCode] at h
  repeat' split at h
  all_goals cases h
  exact frame_oauthAuthorizationCodes _ _

theorem frame_saveConsent {userId : Uuid} {clientId : String} {scopes : List String}
    {r : Unit}
    (h : Repo.saveConsent userId clientId scopes db = .ok (r, db')) :
    Frame [.oauthConsents] db db' := by
  simp only [Repo.saveConsent] at h
  repeat' split at h
  all_goals cases h
  all_goals exact frame_oauthConsents _ _

theorem frame_revokeAccessJti (jti : String) (expiresAt : DateTime) (db : Db) :
    Frame [.revokedTokens] db (Repo.revokeAccessJti jti expiresAt db) := by
  unfold Repo.revokeAccessJti
  split
  · exact .refl _ _
  · exact frame_revokedTokens _ _

end Statements

theorem Sql.exec_frame {conn : DbRole} {c : Choice} {s : Sql} {db db' : Db} {r : Reply s}
    (h : s.exec conn c db = .ok (r, db')) : Frame s.writes db db' := by
  cases s
  case createUserWithRole email hash role =>
    obtain ⟨db₁, -, h₁, h₂⟩ := createUserWithRole_ok h
    exact ((frame_insertUser h₁).mono (by simp [Sql.writes])).trans
      ((frame_insertUserRoles h₂).mono (by simp [Sql.writes]))
  case createUserWithRoleEvent id email hash role eventType payload =>
    obtain ⟨db₁, db₂, h₁, h₂, h₃⟩ := createUserWithRoleEvent_ok h
    exact ((frame_insertUser h₁).mono (by simp [Sql.writes])).trans
      (((frame_insertUserRoles h₂).mono (by simp [Sql.writes])).trans
        ((frame_insertOutbox h₃).mono (by simp [Sql.writes])))
  case deleteUserEventSoft id hard eventType payload =>
    refine Frame.trans ?_ ((frame_insertOutbox (deleteUserEventSoft_ok h)).mono (by simp [Sql.writes]))
    split
    · exact frame_deleteUserRows id db
    · exact (frame_softDeleteUser c id db).mono (by simp [Sql.writes])
  case restoreUserEvent id eventType payload =>
    have h₁ := frame_insertOutbox (restoreUserEvent_ok h)
    exact ((frame_users db _).mono (by simp [Sql.writes])).trans (h₁.mono (by simp [Sql.writes]))
  case createTenantWithAdmin slug name creator =>
    obtain ⟨db₁, db₂, -, h₁, h₂, h₃⟩ := createTenantWithAdmin_ok h
    exact ((frame_insertTenant h₁).mono (by simp [Sql.writes])).trans
      (((frame_createMembership h₂).mono (by simp [Sql.writes])).trans
        ((frame_insertUserRoles h₃).mono (by simp [Sql.writes])))
  case setTotpSecret => cases h; exact frame_users _ _
  case enableTotp => cases h; exact frame_users _ _
  case disableTotp => cases h; exact frame_users _ _
  case lockUser => cases h; exact frame_users _ _
  case resetLoginState => cases h; exact frame_users _ _
  case markEmailVerified => cases h; exact frame_users _ _
  case updatePassword => cases h; exact frame_users _ _
  case incrementLoginFailure => exact frame_incrementLoginFailure h
  case insertRecoveryCode => exact frame_insertRecoveryCode h
  case deleteRecoveryCodes => cases h; exact frame_totpRecoveryCodes _ _
  case consumeRecoveryCode => cases h; exact frame_totpRecoveryCodes _ _
  case revokeAllUserRefreshTokens => cases h; exact frame_refreshTokens _ _
  case revokeRefreshToken => cases h; exact frame_refreshTokens _ _
  case rotateRefreshToken => cases h; exact frame_refreshTokens _ _
  case createRefreshToken => exact frame_createRefreshToken h
  case createEmailVerification => exact frame_createEmailVerification h
  case consumeEmailVerification => cases h; exact frame_emailVerifications _ _
  case createPasswordReset => exact frame_createPasswordReset h
  case consumePasswordReset => cases h; exact frame_passwordResets _ _
  case createApiKey => exact frame_createApiKey h
  case revokeApiKey => cases h; exact frame_apiKeys _ _
  case touchApiKey => cases h; exact frame_apiKeys _ _
  case insertAudit => cases h; constructor <;> simp [Sql.writes, Repo.insertAudit]
  case revokeAccessJti => cases h; exact frame_revokeAccessJti _ _ _
  case createMembership => exact frame_createMembership h
  case addMember => exact frame_createMembership h
  case removeMember => cases h; exact frame_memberships _ _
  case createProject => exact frame_createProject h
  case assignRole => exact frame_assignRole h
  case revokeRole => exact frame_revokeRole h
  case createRole => exact frame_createRole h
  case updateRole => cases h; exact frame_roles _ _ _
  case deleteRole => cases h; constructor <;> simp [Sql.writes, Repo.deleteRole, Repo.deleteRoleRows]
  case grantPermission => cases h; exact frame_rolePermissions _ _
  case revokePermission => exact frame_revokePermission h
  case insertClient client => exact frame_insertClient h
  case insertConsoleClient => exact frame_insertConsoleClient h
  case insertAuthorizationCode => exact frame_insertAuthorizationCode h
  case claimAuthorizationCode => cases h; exact frame_oauthAuthorizationCodes _ _
  case saveConsent => exact frame_saveConsent h
  case selectEmail userId =>
    simp only [Sql.exec, Repo.selectEmail] at h
    split at h <;> cases h
    exact .refl _ _
  case selectClientTenant clientId =>
    simp only [Sql.exec, Repo.selectClientTenant] at h
    split at h <;> cases h
    exact .refl _ _
  all_goals
    cases h
    exact .refl _ _

theorem Sql.run_frame (conn : DbRole) (s : Sql) (c : Choice) (db : Db) :
    Frame s.writes db (s.run conn c db).2 := by
  rcases Sql.run_cases conn s c db with ⟨e, he⟩ | ⟨r, db', hx, hr⟩
  · rw [he]
    exact .refl _ _
  · rw [hr]
    exact Sql.exec_frame hx

end IamAuth
