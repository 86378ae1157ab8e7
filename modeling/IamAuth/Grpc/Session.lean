import IamAuth.Grpc.Common

/-!
# grpc.rs: sessions

register, login, refresh, logout, validate_token, list_my_memberships and
switch_tenant.
-/

set_option autoImplicit false

namespace IamAuth

open Interleave

/-! ## Requests and responses -/

structure RegisterRequest where
  email : String
  password : String
  deriving DecidableEq, Repr

structure RegisterResponse where
  userId : String
  email : String
  deriving DecidableEq, Repr

structure LoginRequest where
  email : String
  password : String
  deriving DecidableEq, Repr

structure RefreshRequest where
  refreshToken : String
  deriving DecidableEq, Repr

structure LogoutRequest where
  refreshToken : String
  accessToken : String
  deriving DecidableEq, Repr

structure ValidateTokenRequest where
  accessToken : String
  deriving DecidableEq, Repr

structure ValidateTokenResponse where
  userId : String
  email : String
  roles : List String
  permissions : List String
  tenantId : String
  projectId : String
  deriving DecidableEq, Repr

structure Membership where
  tenantId : String
  tenantSlug : String
  tenantName : String
  status : String
  deriving DecidableEq, Repr

structure SwitchTenantRequest where
  tenantId : String
  projectId : String
  deriving DecidableEq, Repr

/-! ## Constants -/

def defaultRole : String := "user"

/-- `REFRESH_ROTATION_GRACE_SECS`. -/
def refreshRotationGraceSecs : Int := 60

/-- `MFA_TOKEN_TTL_SECS`. -/
def mfaTokenTtlSecs : Int := 300

def typeUserRegistered : String := "user.registered"

section

variable (cr : Crates) (svc : AuthSvc)

/-- The membership is a statement of its own, and its failure is ignored. -/
def register (req : RegisterRequest) : Handler RegisterResponse := do
  Prog.failIf (req.email.isEmpty || req.password.isEmpty)
    (invalidArgument "email and password are required")
  let hash ← Prog.okOr (← sys (.hashPassword req.password)) (internal "failed to hash password")
  let id ← sys .newUuid
  let display := (splitAtChar '@' req.email).headD req.email
  let payload := EventPayload.userRegistered (cr.formatUuid id) req.email display
  query (.createUserWithRoleEvent id req.email hash defaultRole typeUserRegistered payload)
    (alreadyExists "email already registered")
  ignore (.createMembership id defaultTenantId)
  auditAs svc (cr.formatUuid id) req.email "user.register" "" "" none
  return ⟨cr.formatUuid id, req.email⟩

/-! ## Lockout, shared by the password and the code step -/

def refuseIfLocked (user : UserRow) : Handler Unit :=
  match user.lockedUntil with
  | none => pure ()
  | some until_ => do
    let now ← sys .utcNow
    Prog.failIf (decide (now < until_))
      (unauthenticated "account temporarily locked, try again later")

/-- Counts one failure, and locks the account when the count reaches the limit.
The time of the lock is computed after the count has been committed. -/
def countFailure (id : Uuid) (email detail : String) : Handler Unit :=
  if svc.config.loginMaxFailures > 0 then do
    match ← attempt (.incrementLoginFailure id) with
    | .error _ => pure ()
    | .ok n =>
      if n ≥ svc.config.loginMaxFailures then do
        let now ← sys .utcNow
        let until_ ← addSeconds now svc.config.loginLockoutSecs
        ignore (.lockUser id until_)
        auditAs svc (cr.formatUuid id) email "login.locked" "" detail none
      else pure ()
  else pure ()

def login (req : LoginRequest) : Handler TokenPair := do
  match ← query (.getUserByEmail req.email) (internal "db error") with
  | none => do
    let _ ← sys (.verifyPassword svc.dummyHash req.password)
    Prog.fail (unauthenticated "invalid credentials")
  | some user => do
    refuseIfLocked user
    let ok ← sys (.verifyPassword user.passwordHash req.password)
    if !ok then do
      countFailure cr svc user.id user.email "too many failed attempts"
      auditAs svc (cr.formatUuid user.id) user.email "login.failure" "" "" none
      Prog.fail (unauthenticated "invalid credentials")
    else do
      Prog.failIf (svc.config.requireEmailVerification && !user.emailVerified)
        (unauthenticated "email not verified")
      Prog.failIf user.deletedAt.isSome (unauthenticated "invalid credentials")
      ignore (.resetLoginState user.id)
      -- With 2FA the password step ends in an MFA token, not in a session.
      if user.totpEnabled then do
        auditAs svc (cr.formatUuid user.id) user.email "login.mfa_challenge" "" "" none
        let mfa ← Prog.okOr (← sys (.jwtIssueMfa (cr.formatUuid user.id) mfaTokenTtlSecs))
          (internal "failed to issue mfa token")
        return ⟨"", "", 0, "Bearer", true, mfa⟩
      else do
        auditAs svc (cr.formatUuid user.id) user.email "login.success" "" "" none
        issueForActiveTenant cr svc user.id user.email

/-! ## Refresh and logout -/

/-- `replaced_by` is set and not empty: the token was revoked by rotation. -/
def rotated (row : RefreshTokenRow) : Bool :=
  match row.replacedBy with
  | some s => !s.isEmpty
  | none => false

/-- The grace window of a rotated token. -/
def inGrace (revokedAt now : DateTime) : Bool :=
  decide (now - revokedAt < seconds refreshRotationGraceSecs)

def reissue (row : RefreshTokenRow) : Handler TokenPair := do
  let found ← query (.getUserById row.userId) (internal "db error")
  let user ← Prog.okOr found (unauthenticated "user not found")
  issueTokens cr svc user.id user.email row.tenantId row.projectId

/-- Reuse of a revoked token: revoke every refresh token of its user. -/
def wipeFamily (row : RefreshTokenRow) : Handler TokenPair := do
  ignore (.revokeAllUserRefreshTokens row.userId)
  auditAs svc (cr.formatUuid row.userId) "" "refresh.reuse_detected" "" "all sessions revoked" none
  Prog.fail (unauthenticated "refresh token revoked")

def refresh (req : RefreshRequest) : Handler TokenPair := do
  let hash := hashToken cr req.refreshToken
  let found ← query (.getRefreshToken hash) (internal "db error")
  let row ← Prog.okOr found (unauthenticated "invalid refresh token")
  match row.revokedAt with
  | some revokedAt =>
    if rotated row then do
      let now ← sys .utcNow
      if inGrace revokedAt now then reissue cr svc row else wipeFamily cr svc row
    else wipeFamily cr svc row
  | none => do
    let now ← sys .utcNow
    Prog.failIf (decide (row.expiresAt < now)) (unauthenticated "refresh token expired")
    let pair ← reissue cr svc row
    ignore (.rotateRefreshToken hash (hashToken cr pair.refreshToken))
    return pair

/-- `revoke_access_jti`, when the expiry is in range; its failure is ignored. -/
def recordRevoked (claims : Claims) : Handler Unit :=
  match fromTimestamp claims.exp with
  | some exp => ignore (.revokeAccessJti claims.jti exp)
  | none => pure ()

/-- Best-effort denylisting of a validly signed access token. -/
def denyAccessToken (token : String) : Handler Unit :=
  if token.isEmpty then pure ()
  else do
    match ← sys (.jwtParse token) with
    | none => pure ()
    | some claims => do
      recordRevoked claims
      let now ← sys .utcNow
      deny svc claims.jti (claims.exp - timestamp now)

def logout (md : MetadataMap) (req : LogoutRequest) : Handler Bool := do
  query (.revokeRefreshToken (hashToken cr req.refreshToken)) (internal "failed to revoke token")
  denyAccessToken svc req.accessToken
  audit cr svc md "auth.logout" "" ""
  return true

/-! ## validate_token -/

/-- The Redis denylist if it answers, else the Postgres one. -/
def refuseIfDenied (jti : String) : Handler Unit := do
  let cached ← isDenied svc jti
  let denied ← match cached with
    | some d => pure d
    | none => query (.isTokenRevoked jti) (internal "failed to check token status")
  Prog.failIf denied (unauthenticated "token revoked")

/-- The tenant of a token; the user must still be an active member of it. -/
def tokenTenant (userId : Uuid) (claims : Claims) : Handler (Option Uuid) :=
  if claims.tenantId.isEmpty then pure none
  else do
    let tid ← Prog.okOr (cr.parseUuid claims.tenantId) (unauthenticated "invalid tenant claim")
    let member ← query (.isActiveMember userId tid) (internal "failed to check membership")
    Prog.failIf (!member) (unauthenticated "tenant membership revoked")
    return some tid

def tokenProject (claims : Claims) : Handler (Option Uuid) :=
  if claims.projectId.isEmpty then pure none
  else do
    let p ← Prog.okOr (cr.parseUuid claims.projectId) (unauthenticated "invalid project claim")
    return some p

def tokenRoles (userId : Uuid) (tenant project : Option Uuid) : Handler (List String) :=
  match tenant with
  | some tid => query (.getUserRolesScoped userId tid project) (internal "failed to load roles")
  | none => query (.getUserRoles userId) (internal "failed to load roles")

def loadPermissions (userId : Uuid) (tenant project : Option Uuid) : Handler (List String) :=
  match tenant with
  | some tid =>
    query (.getUserPermissionsScoped userId tid project) (internal "failed to load permissions")
  | none => query (.getUserPermissions userId) (internal "failed to load permissions")

/-- Through the permission cache, keyed by the strings of the claims. -/
def tokenPermissions (claims : Claims) (userId : Uuid) (tenant project : Option Uuid) :
    Handler (List String) := do
  match ← getPerms cr svc claims.tenantId claims.projectId claims.sub with
  | some p => pure p
  | none => do
    let p ← loadPermissions userId tenant project
    setPerms cr svc claims.tenantId claims.projectId claims.sub p
    return p

def validateToken (req : ValidateTokenRequest) : Handler ValidateTokenResponse := do
  let claims ← Prog.okOr (← sys (.jwtParseAccess req.accessToken))
    (unauthenticated "invalid or expired token")
  refuseIfDenied svc claims.jti
  let userId ← Prog.okOr (cr.parseUuid claims.sub) (unauthenticated "invalid subject")
  let active ← query (.isUserActive userId) (internal "failed to check account status")
  Prog.failIf (!active) (unauthenticated "account is not active")
  let tenant ← tokenTenant cr userId claims
  let project ← tokenProject cr claims
  let roles ← tokenRoles userId tenant project
  let permissions ← tokenPermissions cr svc claims userId tenant project
  return ⟨claims.sub, claims.email, roles, permissions, claims.tenantId, claims.projectId⟩

/-! ## Memberships of the caller -/

def listMyMemberships (md : MetadataMap) : Handler (List Membership) := do
  let caller ← callerUuid cr md
  let rows ← query (.listMemberships caller) (internal "failed to load memberships")
  return rows.map fun m => ⟨cr.formatUuid m.tenantId, m.tenantSlug, m.tenantName, m.status⟩

/-- The project of a switch must belong to the tenant switched into. -/
def switchProject (projectId : String) (tenantId : Uuid) : Handler (Option Uuid) := do
  match ← parseOptProject cr projectId with
  | none => pure none
  | some pid => do
    let inTenant ← query (.isProjectInTenant pid tenantId) (internal "project check failed")
    Prog.failIf (!inTenant) (invalidArgument "project does not belong to this tenant")
    return some pid

def switchTenant (md : MetadataMap) (req : SwitchTenantRequest) : Handler TokenPair := do
  let caller ← callerUuid cr md
  let tenantId ← Prog.okOr (cr.parseUuid req.tenantId) (invalidArgument "invalid tenant id")
  let member ← query (.isActiveMember caller tenantId) (internal "failed to check membership")
  Prog.failIf (!member) (permissionDenied "not a member of that tenant")
  let projectId ← switchProject cr req.projectId tenantId
  let found ← query (.getUserById caller) (internal "db error")
  let user ← Prog.okOr found (unauthenticated "user not found")
  issueTokens cr svc caller user.email tenantId projectId

end

end IamAuth
