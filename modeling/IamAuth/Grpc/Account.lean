import IamAuth.Grpc.Session

/-!
# grpc.rs: the account of the caller

2FA enrolment, activation and the TOTP step of login, API keys, e-mail
verification, password reset and change, soft and hard deletion and restore.
-/

set_option autoImplicit false

namespace IamAuth

open Interleave

/-! ## Requests and responses -/

structure EnrollTotpResponse where
  secret : String
  otpauthUri : String
  recoveryCodes : List String
  deriving DecidableEq, Repr

structure CodeRequest where
  code : String
  deriving DecidableEq, Repr

structure LoginTotpRequest where
  mfaToken : String
  code : String
  deriving DecidableEq, Repr

structure CreateApiKeyRequest where
  name : String
  scopes : List String
  ttlSeconds : Int
  deriving DecidableEq, Repr

/-- Timestamps stay values; their RFC 3339 text is chrono's. -/
structure ApiKey where
  id : String
  name : String
  scopes : List String
  createdAt : DateTime
  expiresAt : Option DateTime
  lastUsedAt : Option DateTime
  deriving DecidableEq, Repr

structure CreateApiKeyResponse where
  secret : String
  key : ApiKey
  deriving DecidableEq, Repr

structure RevokeApiKeyRequest where
  id : String
  deriving DecidableEq, Repr

structure ValidateApiKeyRequest where
  apiKey : String
  deriving DecidableEq, Repr

structure ValidateApiKeyResponse where
  userId : String
  email : String
  scopes : List String
  deriving DecidableEq, Repr

structure EmailRequest where
  email : String
  deriving DecidableEq, Repr

structure DevTokenResponse where
  success : Bool
  devToken : String
  deriving DecidableEq, Repr

structure TokenRequest where
  token : String
  deriving DecidableEq, Repr

structure ResetPasswordRequest where
  token : String
  newPassword : String
  deriving DecidableEq, Repr

structure ChangePasswordRequest where
  oldPassword : String
  newPassword : String
  deriving DecidableEq, Repr

structure DeleteUserRequest where
  userId : String
  hard : Bool
  deriving DecidableEq, Repr

structure RestoreUserRequest where
  userId : String
  deriving DecidableEq, Repr

def typeUserDeleted : String := "user.deleted"
def typeUserRestored : String := "user.restored"

section

variable (cr : Crates) (svc : AuthSvc)

/-! ## 2FA -/

/-- `get_user_by_id(..)?.ok_or_else(..)?` on the caller. -/
def callerUser (uid : Uuid) (missing : Failure) : Handler UserRow := do
  let found ← query (.getUserById uid) (internal "db error")
  Prog.okOr found missing

/-- One secret update, one deletion whose error is ignored, then one insert for
each recovery code. -/
def enrollTotp (md : MetadataMap) : Handler EnrollTotpResponse := do
  let uid ← callerUuid cr md
  let user ← callerUser uid (notFound "user not found")
  Prog.failIf user.totpEnabled
    (failedPrecondition "2FA is already enabled; disable it first")
  let secret ← Prog.okOr (← sys (.generateTotp user.email)) (internal "failed to generate secret")
  let recovery ← sys (.generateRecoveryCodes 10)
  let nonce ← sys .genNonce
  let stored ← Prog.okOr (svc.totpEnc.encrypt cr nonce secret.base32)
    (internal "failed to encrypt secret")
  query (.setTotpSecret uid stored) (internal "failed to store secret")
  ignore (.deleteRecoveryCodes uid)
  Prog.forEach (fun code => query (.insertRecoveryCode uid (hashToken cr code))
    (internal "failed to store recovery code")) recovery
  audit cr svc md "totp.enroll" "" ""
  return ⟨secret.base32, secret.otpauthUri, recovery⟩

def getTotpStatus (md : MetadataMap) : Handler Bool := do
  let uid ← callerUuid cr md
  let user ← callerUser uid (notFound "user not found")
  return user.totpEnabled

/-- The write does not look at the row again. -/
def activateTotp (md : MetadataMap) (req : CodeRequest) : Handler Bool := do
  let uid ← callerUuid cr md
  let user ← callerUser uid (notFound "user not found")
  let stored ← Prog.okOr user.totpSecret
    (failedPrecondition "no pending enrollment; call EnrollTotp first")
  let secret ← Prog.okOr (svc.totpEnc.decrypt cr stored) (internal "failed to read secret")
  let valid ← sys (.validateTotp req.code secret)
  Prog.failIf (!valid) (unauthenticated "invalid code")
  query (.enableTotp uid) (internal "failed to enable 2FA")
  audit cr svc md "totp.activate" "" ""
  return true

/-- A secret that cannot be read validates no code. -/
def checkTotp (secret : Option String) (code : String) : Handler Bool :=
  match secret with
  | some plain => sys (.validateTotp code plain)
  | none => pure false

/-- A code is right if it is a current TOTP or an unused recovery code, which it
spends. -/
def checkCode (uid : Uuid) (secret : Option String) (code : String) : Handler Bool := do
  let valid ← checkTotp secret code
  if valid then pure true
  else query (.consumeRecoveryCode uid (hashToken cr code)) (internal "db error")

def disableTotp (md : MetadataMap) (req : CodeRequest) : Handler Bool := do
  let uid ← callerUuid cr md
  let user ← callerUser uid (notFound "user not found")
  if !user.totpEnabled then return true
  else do
    let ok ← checkCode cr uid (user.totpSecret.bind (svc.totpEnc.decrypt cr)) req.code
    Prog.failIf (!ok) (unauthenticated "invalid code")
    query (.disableTotp uid) (internal "failed to disable 2FA")
    ignore (.deleteRecoveryCodes uid)
    audit cr svc md "totp.disable" "" ""
    return true

/-- The filter of login_totp on the user row. -/
def mfaPending (u : UserRow) : Bool :=
  u.deletedAt.isNone && u.totpEnabled && u.totpSecret.isSome

def loginTotp (req : LoginTotpRequest) : Handler TokenPair := do
  let claims ← Prog.okOr (← sys (.jwtParse req.mfaToken))
    (unauthenticated "invalid or expired mfa token")
  Prog.failIf (claims.purpose != "mfa") (unauthenticated "invalid mfa token")
  let uid ← Prog.okOr (cr.parseUuid claims.sub) (unauthenticated "invalid mfa token")
  let found ← query (.getUserById uid) (internal "db error")
  let user ← Prog.okOr (found.filter mfaPending) (unauthenticated "invalid credentials")
  refuseIfLocked user
  -- `decrypt(..).unwrap_or_default()`: an unreadable secret becomes the empty one.
  let secret := ((user.totpSecret.bind (svc.totpEnc.decrypt cr)).getD "")
  let ok ← checkCode cr uid (some secret) req.code
  if !ok then do
    countFailure cr svc uid user.email "too many failed mfa attempts"
    auditAs svc (cr.formatUuid uid) user.email "login.mfa_failure" "" "" none
    Prog.fail (unauthenticated "invalid code")
  else do
    ignore (.resetLoginState uid)
    auditAs svc (cr.formatUuid uid) user.email "login.success" "" "2fa" none
    issueForActiveTenant cr svc uid user.email

/-! ## API keys -/

/-- `if ttl > 0 { Some(Utc::now() + Duration::seconds(ttl)) } else { None }`. -/
def apiKeyExpiry (ttlSeconds : Int) : Handler (Option DateTime) :=
  if ttlSeconds > 0 then do
    let now ← sys .utcNow
    let expires ← addSeconds now ttlSeconds
    return some expires
  else pure none

/-- The first scope the caller does not hold is the one refused. -/
def requireScopes (perms : List String) : List String → Handler Unit
  | [] => pure ()
  | s :: rest => do
    Prog.failIf (!perms.contains s)
      (permissionDenied ("cannot grant a scope you do not hold: " ++ s))
    requireScopes perms rest

def createApiKey (md : MetadataMap) (req : CreateApiKeyRequest) :
    Handler CreateApiKeyResponse := do
  let uid ← callerUuid cr md
  let perms := callerPerms md
  Prog.failIf req.name.isEmpty (invalidArgument "name is required")
  requireScopes perms req.scopes
  let keyId ← sys (.genHex 8)
  let secret ← sys (.genHex 24)
  let full := "iamk_" ++ keyId ++ "_" ++ secret
  let expires ← apiKeyExpiry req.ttlSeconds
  let tenant ← activeTenant cr md
  let project ← parseOptProject cr (metaOf md "x-project-id")
  query (.createApiKey keyId uid (hashToken cr full) req.name req.scopes expires tenant project)
    (internal "failed to create api key")
  audit cr svc md "apikey.create" keyId req.name
  let now ← sys .utcNow
  return ⟨full, ⟨keyId, req.name, req.scopes, now, expires, none⟩⟩

def listApiKeys (md : MetadataMap) : Handler (List ApiKey) := do
  let uid ← callerUuid cr md
  let rows ← query (.listApiKeys uid) (internal "failed to list api keys")
  return rows.map fun r => ⟨r.id, r.name, r.scopes, r.createdAt, r.expiresAt, r.lastUsedAt⟩

def revokeApiKey (md : MetadataMap) (req : RevokeApiKeyRequest) : Handler Bool := do
  let uid ← callerUuid cr md
  query (.revokeApiKey req.id uid) (internal "failed to revoke api key")
  audit cr svc md "apikey.revoke" req.id ""
  return true

def refuseIfExpired (expiresAt : Option DateTime) : Handler Unit :=
  match expiresAt with
  | none => pure ()
  | some exp => do
    let now ← sys .utcNow
    Prog.failIf (decide (exp < now)) (unauthenticated "api key expired")

def validateApiKey (req : ValidateApiKeyRequest) : Handler ValidateApiKeyResponse := do
  let found ← query (.getApiKeyByHash (hashToken cr req.apiKey)) (internal "db error")
  let row ← Prog.okOr found (unauthenticated "invalid api key")
  Prog.failIf row.revokedAt.isSome (unauthenticated "api key revoked")
  refuseIfExpired row.expiresAt
  let owner ← query (.getUserById row.userId) (internal "db error")
  let user ← Prog.okOr (owner.filter fun u => u.deletedAt.isNone)
    (unauthenticated "invalid api key")
  let member ← query (.isActiveMember row.userId row.tenantId) (internal "db error")
  Prog.failIf (!member) (unauthenticated "api key tenant membership revoked")
  let perms ← query (.getUserPermissionsScoped row.userId row.tenantId row.projectId)
    (internal "failed to load permissions")
  ignore (.touchApiKey row.id)
  return ⟨cr.formatUuid row.userId, user.email, row.scopes.filter fun s => perms.contains s⟩

/-! ## Deletion and restore -/

def deleteUser (md : MetadataMap) (req : DeleteUserRequest) : Handler Bool := do
  requirePerm md "user:delete"
  let userId ← Prog.okOr (cr.parseUuid req.userId) (invalidArgument "invalid user id")
  query (.deleteUserEventSoft userId req.hard typeUserDeleted (.userDeleted req.userId req.hard))
    (internal "failed to delete user")
  audit cr svc md "user.delete" req.userId (if req.hard then "hard" else "soft")
  return true

def restoreUser (md : MetadataMap) (req : RestoreUserRequest) : Handler Bool := do
  requirePerm md "user:delete"
  let userId ← Prog.okOr (cr.parseUuid req.userId) (invalidArgument "invalid user id")
  query (.restoreUserEvent userId typeUserRestored (.userRestored req.userId))
    (internal "failed to restore user")
  audit cr svc md "user.restore" req.userId ""
  return true

/-! ## Recovery and verification -/

/-- Both requests answer alike for unknown addresses and lookup errors. The
lifetimes are constants, an hour and a day, and the clock is not within a day of
the end of chrono's range. -/
def requestToken (email : String) (lifetimeSecs : Int) (store : String → Uuid → DateTime → Sql)
    (failed : Failure) (action : String) : Handler DevTokenResponse := do
  match ← attempt (.getUserByEmail email) with
  | .ok (some user) => do
    let token ← sys .genRefreshToken
    let now ← sys .utcNow
    let _ ← query (store (hashToken cr token) user.id (now + seconds lifetimeSecs)) failed
    auditAs svc (cr.formatUuid user.id) user.email action "" "" none
    return ⟨true, if svc.config.isProduction then "" else token⟩
  | _ => return ⟨true, ""⟩

def requestEmailVerification (req : EmailRequest) : Handler DevTokenResponse :=
  requestToken cr svc req.email 86400 .createEmailVerification
    (internal "failed to create verification") "email.verification_requested"

def requestPasswordReset (req : EmailRequest) : Handler DevTokenResponse :=
  requestToken cr svc req.email 3600 .createPasswordReset
    (internal "failed to create reset token") "password.reset_requested"

def verifyEmail (req : TokenRequest) : Handler Bool := do
  let found ← query (.consumeEmailVerification (hashToken cr req.token)) (internal "db error")
  let uid ← Prog.okOr found (invalidArgument "invalid or expired token")
  query (.markEmailVerified uid) (internal "failed to verify email")
  auditAs svc (cr.formatUuid uid) "" "email.verified" "" "" none
  return true

/-- What reset and change do once the user is known: hash, write, and revoke
every refresh token, ignoring the result of the revocation. -/
def storePassword (uid : Uuid) (newPassword : String) : Handler Unit := do
  let hash ← Prog.okOr (← sys (.hashPassword newPassword)) (internal "failed to hash password")
  query (.updatePassword uid hash) (internal "failed to update password")
  ignore (.revokeAllUserRefreshTokens uid)

def tooShort (password : String) : Bool := decide (password.utf8ByteSize < 8)

def resetPassword (req : ResetPasswordRequest) : Handler Bool := do
  Prog.failIf (tooShort req.newPassword)
    (invalidArgument "password must be at least 8 characters")
  let found ← query (.consumePasswordReset (hashToken cr req.token)) (internal "db error")
  let uid ← Prog.okOr found (invalidArgument "invalid or expired token")
  storePassword uid req.newPassword
  auditAs svc (cr.formatUuid uid) "" "password.reset" "" "" none
  return true

def changePassword (md : MetadataMap) (req : ChangePasswordRequest) : Handler Bool := do
  let uid ← callerUuid cr md
  Prog.failIf (tooShort req.newPassword)
    (invalidArgument "password must be at least 8 characters")
  let user ← callerUser uid (unauthenticated "user not found")
  let ok ← sys (.verifyPassword user.passwordHash req.oldPassword)
  Prog.failIf (!ok) (unauthenticated "current password is incorrect")
  storePassword uid req.newPassword
  auditAs svc (cr.formatUuid uid) user.email "password.change" "" "" none
  return true

end

end IamAuth
