import Mathlib.Data.List.Basic

/-!
# The Postgres schema

One structure per table of migrations/, with the columns some query reads or
writes, and `Db`, the database as a whole. A row type of repo.rs that is a
prefix of a table row is extended by it. New rows are appended, so the order of
a table is the order of insertion.
-/

set_option autoImplicit false

namespace IamAuth

abbrev Uuid := BitVec 128

/-- Microseconds since the epoch, the resolution of `timestamptz`. -/
abbrev DateTime := Int

/-- `chrono::Duration::seconds`. -/
def seconds (n : Int) : Int := n * 1000000

/-- `DateTime::timestamp`: whole seconds since the epoch. -/
def timestamp (t : DateTime) : Int := t.fdiv 1000000

/-- `DateTime::from_timestamp(secs, 0)`, which is `None` outside chrono's range
of years. -/
def fromTimestamp (secs : Int) : Option DateTime :=
  if -8334601228800 ≤ secs ∧ secs ≤ 8210266876799 then some (seconds secs) else none

/-- `INT` column bound. -/
def i32Max : Int := 2147483647

/-! ## Identities and credentials -/

structure UserRow where
  id : Uuid
  email : String
  passwordHash : String
  status : String
  emailVerified : Bool
  failedLoginAttempts : Int
  lockedUntil : Option DateTime
  totpSecret : Option String
  totpEnabled : Bool
  deletedAt : Option DateTime
  deriving DecidableEq, Repr

structure RefreshTokenRow where
  userId : Uuid
  expiresAt : DateTime
  revokedAt : Option DateTime
  replacedBy : Option String
  tenantId : Uuid
  projectId : Option Uuid
  deriving DecidableEq, Repr

structure RefreshToken extends RefreshTokenRow where
  tokenHash : String
  deriving DecidableEq, Repr

structure RevokedToken where
  jti : String
  expiresAt : DateTime
  deriving DecidableEq, Repr

/-- `email_verifications` and `password_resets` have the same columns. -/
structure OneTimeToken where
  tokenHash : String
  userId : Uuid
  expiresAt : DateTime
  consumedAt : Option DateTime
  deriving DecidableEq, Repr

structure TotpRecoveryCode where
  id : Nat
  userId : Uuid
  codeHash : String
  usedAt : Option DateTime
  deriving DecidableEq, Repr

structure ApiKeyRow where
  id : String
  userId : Uuid
  scopes : List String
  expiresAt : Option DateTime
  revokedAt : Option DateTime
  tenantId : Uuid
  projectId : Option Uuid
  deriving DecidableEq, Repr

structure ApiKeyRecord extends ApiKeyRow where
  keyHash : String
  name : String
  lastUsedAt : Option DateTime
  createdAt : DateTime
  deriving DecidableEq, Repr

structure ApiKeyMeta where
  id : String
  name : String
  scopes : List String
  expiresAt : Option DateTime
  lastUsedAt : Option DateTime
  createdAt : DateTime
  deriving DecidableEq, Repr

/-! ## Tenants -/

structure TenantRow where
  id : Uuid
  slug : String
  name : String
  status : String
  deriving DecidableEq, Repr

structure ProjectRow where
  id : Uuid
  tenantId : Uuid
  slug : String
  name : String
  deriving DecidableEq, Repr

structure MembershipRecord where
  userId : Uuid
  tenantId : Uuid
  status : String
  deriving DecidableEq, Repr

structure MembershipRow where
  tenantId : Uuid
  tenantSlug : String
  tenantName : String
  status : String
  deriving DecidableEq, Repr

structure MemberRow where
  userId : Uuid
  email : String
  status : String
  deriving DecidableEq, Repr

/-! ## Roles and permissions -/

structure RoleRow where
  id : Nat
  name : String
  description : String
  deriving DecidableEq, Repr

/-- A role; `tenantId = none` is a built-in template. -/
structure RoleRecord extends RoleRow where
  tenantId : Option Uuid
  deriving DecidableEq, Repr

structure RolePermission where
  roleId : Nat
  permissionId : Nat
  deriving DecidableEq, Repr

/-- An assignment; `projectId = none` is tenant-wide. -/
structure UserRole where
  userId : Uuid
  roleId : Nat
  tenantId : Uuid
  projectId : Option Uuid
  deriving DecidableEq, Repr

structure RoleAssignmentRow where
  role : String
  projectId : Option Uuid
  projectSlug : Option String
  deriving DecidableEq, Repr

structure RoleWithPermsRow extends RoleRow where
  permissions : List String
  deriving DecidableEq, Repr

/-! ## OAuth -/

structure OauthClient where
  clientId : String
  clientSecretHash : Option String
  name : String
  redirectUris : List String
  grantTypes : List String
  scopes : List String
  isConfidential : Bool
  tenantId : Uuid
  deriving DecidableEq, Repr

structure AuthorizationCode where
  codeHash : String
  clientId : String
  userId : Uuid
  redirectUri : String
  scope : String
  codeChallenge : Option String
  codeChallengeMethod : Option String
  nonce : Option String
  expiresAt : DateTime
  used : Bool
  deriving DecidableEq, Repr

structure OauthConsent where
  userId : Uuid
  clientId : String
  scopes : List String
  deriving DecidableEq, Repr

/-! ## Audit log and outbox -/

structure AuditRow where
  id : Nat
  actorId : String
  actorEmail : String
  action : String
  target : String
  detail : String
  createdAt : DateTime
  deriving DecidableEq, Repr

structure AuditRecord extends AuditRow where
  tenantId : Option Uuid
  deriving DecidableEq, Repr

/-- The JSON bodies of common::events, as the values they serialize. -/
inductive EventPayload where
  | userRegistered (userId email displayName : String)
  | userDeleted (userId : String) (hard : Bool)
  | userRestored (userId : String)
  deriving DecidableEq, Repr

structure OutboxRecord where
  id : Uuid
  aggregateId : Uuid
  eventType : String
  payload : EventPayload
  createdAt : DateTime
  publishedAt : Option DateTime
  deriving DecidableEq, Repr

/-! ## The database -/

structure Db where
  users : List UserRow
  refreshTokens : List RefreshToken
  revokedTokens : List RevokedToken
  emailVerifications : List OneTimeToken
  passwordResets : List OneTimeToken
  totpRecoveryCodes : List TotpRecoveryCode
  apiKeys : List ApiKeyRecord
  tenants : List TenantRow
  projects : List ProjectRow
  memberships : List MembershipRecord
  roles : List RoleRecord
  permissions : List RoleRow
  rolePermissions : List RolePermission
  userRoles : List UserRole
  oauthClients : List OauthClient
  oauthAuthorizationCodes : List AuthorizationCode
  oauthConsents : List OauthConsent
  auditEvents : List AuditRecord
  outbox : List OutboxRecord
  /-- Last values drawn from the `BIGSERIAL` sequences. -/
  rolesIdSeq : Nat
  recoveryCodesIdSeq : Nat
  auditEventsIdSeq : Nat
  deriving DecidableEq, Repr

/-- Why a statement failed. The handlers never look at it. -/
inductive DbError where
  | connection
  | uniqueViolation
  | foreignKeyViolation
  | rowSecurity
  | cardinalityViolation
  | outOfRange
  | rowNotFound
  deriving DecidableEq, Repr

/-- What one step of the environment supplies: the clock, the random draws, what
a cache scan returns, and whether a database or Redis command fails. -/
structure Choice where
  fails : Bool
  now : DateTime
  uuid : Uuid
  text : String
  texts : List String
  bytes : List UInt8
  cursor : Nat
  deriving DecidableEq, Repr

/-- The tenant migration 0010 seeds, `DEFAULT_TENANT_ID`. -/
def defaultTenantId : Uuid := 1

end IamAuth
