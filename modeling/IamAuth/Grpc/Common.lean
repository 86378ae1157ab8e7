import IamAuth.Statements

/-!
# grpc.rs: what the handlers share

Failures, gateway metadata, the permission and tenant guards, the cache
operations of cache.rs, auditing, and the issuing of token pairs. A handler is
a program over the statements of the service; `?` is its error exit.
-/

set_option autoImplicit false

namespace IamAuth

open Interleave

/-! ## Failures -/

inductive Code where
  | invalidArgument
  | notFound
  | alreadyExists
  | permissionDenied
  | failedPrecondition
  | unauthenticated
  | internal
  deriving DecidableEq, Repr

/-- How a call ends without a response: a gRPC status, or a panic of its task. -/
inductive Failure where
  | status (code : Code) (message : String)
  | panic
  deriving DecidableEq, Repr

def invalidArgument (m : String) : Failure := .status .invalidArgument m
def notFound (m : String) : Failure := .status .notFound m
def alreadyExists (m : String) : Failure := .status .alreadyExists m
def permissionDenied (m : String) : Failure := .status .permissionDenied m
def failedPrecondition (m : String) : Failure := .status .failedPrecondition m
def unauthenticated (m : String) : Failure := .status .unauthenticated m
def internal (m : String) : Failure := .status .internal m

/-! ## Handlers -/

abbrev Handler (α : Type) := Prog Resp Failure α

def sys (s : Sys) : Handler (SysReply s) := Prog.perform (Op.sys s)

def redis (r : RedisCmd) : Handler (RedisReply r) := Prog.perform (Op.redis r)

/-- A Postgres statement whose result the handler inspects. -/
def attempt (s : Sql) : Handler (Except DbError (Reply s)) := Prog.perform (Op.sql s)

/-- `repo.f(..).await.map_err(|_| e)?`. -/
def query (s : Sql) (e : Failure) : Handler (Reply s) := do
  match ← attempt s with
  | .ok r => pure r
  | .error _ => Prog.fail e

/-- `let _ = repo.f(..).await`. -/
def ignore (s : Sql) : Handler Unit := do
  let _ ← attempt s
  pure ()

/-- Settings of `common::config` and the OIDC issuer. -/
structure Config where
  loginMaxFailures : Int
  loginLockoutSecs : Int
  requireEmailVerification : Bool
  isProduction : Bool
  auditEnabled : Bool
  oidcIssuer : String
  deriving DecidableEq, Repr

/-- One replica. `cacheConn` is whether it has a Redis connection, `scanFuel`
how many `SCAN` replies one invalidation reads at most. -/
structure AuthSvc where
  config : Config
  refreshTtlSecs : Int
  accessTtlSecs : Int
  dummyHash : String
  cacheConn : Bool
  totpEnc : Encryptor
  scanFuel : Nat
  deriving DecidableEq, Repr

/-! ## The clock -/

/-- chrono's limits: `Duration::seconds` panics outside `i64::MAX / 1000`
seconds, and so does a sum outside the range of `DateTime`. -/
def FitsChrono (now : DateTime) (n : Int) : Prop :=
  -9223372036854775 ≤ n ∧ n ≤ 9223372036854775 ∧
    (fromTimestamp (timestamp (now + seconds n))).isSome

instance (now : DateTime) (n : Int) : Decidable (FitsChrono now n) :=
  inferInstanceAs (Decidable (_ ∧ _))

/-- `now + Duration::seconds(n)`. -/
def addSeconds (now : DateTime) (n : Int) : Handler DateTime :=
  if FitsChrono now n then pure (now + seconds n) else Prog.fail .panic

/-! ## Gateway metadata -/

abbrev MetadataMap := List (String × String)

def metaOf (md : MetadataMap) (key : String) : String := (md.lookup key).getD ""

/-- `s.split(c)`. -/
def splitAtChar (c : Char) (s : String) : List String :=
  (s.toList.splitOn c).map String.ofList

def hasPerm (md : MetadataMap) (perm : String) : Bool :=
  match md.lookup "x-user-permissions" with
  | some s => (splitAtChar ',' s).any fun p => p == perm
  | none => false

def requirePerm (md : MetadataMap) (perm : String) : Handler Unit :=
  Prog.failIf (!hasPerm md perm) (permissionDenied ("permission denied: " ++ perm))

def callerPerms (md : MetadataMap) : List String :=
  (splitAtChar ',' (metaOf md "x-user-permissions")).filter fun s => !s.isEmpty

/-- Built-in role templates that tenants may not name. -/
def isBuiltinRole (name : String) : Bool := name == "admin" || name == "user"

section

variable (cr : Crates)

def callerUuid (md : MetadataMap) : Handler Uuid :=
  Prog.okOr (cr.parseUuid (metaOf md "x-user-id"))
    (unauthenticated "missing or invalid caller identity")

def parseOptProject (s : String) : Handler (Option Uuid) :=
  if s.isEmpty then pure none
  else do
    let p ← Prog.okOr (cr.parseUuid s) (invalidArgument "invalid project id")
    pure (some p)

def activeTenant (md : MetadataMap) : Handler Uuid := do
  let t := metaOf md "x-tenant-id"
  Prog.failIf t.isEmpty (failedPrecondition "no active tenant on token")
  Prog.okOr (cr.parseUuid t) (internal "invalid active tenant")

/-- `active_tenant(md).ok()`. -/
def activeTenantOpt (md : MetadataMap) : Option Uuid :=
  let t := metaOf md "x-tenant-id"
  if t.isEmpty then none else cr.parseUuid t

/-- `verify_pkce`: the default method is "plain". -/
def verifyPkce (challenge method verifier : String) : Bool :=
  if method = "S256" then cr.sha256Base64Url verifier == challenge
  else if method = "plain" ∨ method = "" then verifier == challenge
  else false

variable (svc : AuthSvc)

/-! ## cache.rs -/

def permsTtlSecs : Nat := 60

def deny (jti : String) (ttlSecs : Int) : Handler Unit :=
  if jti.isEmpty || decide (ttlSecs ≤ 0) then pure ()
  else if svc.cacheConn then do
    let _ ← redis (.setEx ("denylist:" ++ jti) "1" ttlSecs.toNat)
    pure ()
  else pure ()

/-- `none` means "ask Postgres". -/
def isDenied (jti : String) : Handler (Option Bool) :=
  if jti.isEmpty then pure none
  else if svc.cacheConn then redis (.exists ("denylist:" ++ jti))
  else pure none

def permsKey (tenant project userId : String) : String :=
  let t := if tenant.isEmpty then "-" else tenant
  let p := if project.isEmpty then "-" else project
  "perms:" ++ t ++ ":" ++ p ++ ":" ++ userId

def getPerms (tenant project userId : String) : Handler (Option (List String)) :=
  if svc.cacheConn then do
    match ← redis (.get (permsKey tenant project userId)) with
    | some (some v) => pure (cr.permsFromJson v)
    | _ => pure none
  else pure none

def setPerms (tenant project userId : String) (perms : List String) : Handler Unit :=
  if svc.cacheConn then do
    let _ ← redis (.setEx (permsKey tenant project userId) (cr.permsToJson perms) permsTtlSecs)
    pure ()
  else pure ()

def delKeys (keys : List String) : Handler Unit :=
  if keys.isEmpty then pure ()
  else do
    let _ ← redis (.del keys)
    pure ()

/-- The `SCAN` loop: until the cursor returns to 0, or a command fails. -/
def scanLoop (pattern : String) : Nat → Nat → Handler Unit
  | 0, _ => pure ()
  | fuel + 1, cursor => do
    match ← redis (.scan cursor pattern) with
    | none => pure ()
    | some (next, keys) => do
      delKeys keys
      if next = 0 then pure () else scanLoop pattern fuel next

def invalidatePerms (userId : String) : Handler Unit :=
  if svc.cacheConn then scanLoop ("perms:*:*:" ++ userId) svc.scanFuel 0 else pure ()

/-! ## Auditing -/

def auditAs (actorId actorEmail action target detail : String) (tenant : Option Uuid) :
    Handler Unit :=
  if svc.config.auditEnabled then
    ignore (.insertAudit actorId actorEmail action target detail tenant)
  else pure ()

def audit (md : MetadataMap) (action target detail : String) : Handler Unit :=
  auditAs svc (metaOf md "x-user-id") (metaOf md "x-user-email") action target detail
    (activeTenantOpt cr md)

/-! ## Issuing tokens -/

structure TokenPair where
  accessToken : String
  refreshToken : String
  expiresIn : Int
  tokenType : String
  mfaRequired : Bool
  mfaToken : String
  deriving DecidableEq, Repr

/-- A token pair bound to a (tenant, project); the binding is in the access
token's claims and on the refresh row. -/
def issueTokens (userId : Uuid) (email : String) (tenantId : Uuid) (projectId : Option Uuid) :
    Handler TokenPair := do
  let projStr := (projectId.map cr.formatUuid).getD ""
  let access ← Prog.okOr
    (← sys (.jwtIssue (cr.formatUuid userId) email (cr.formatUuid tenantId) projStr))
    (internal "failed to sign token")
  let refresh ← sys .genRefreshToken
  let now ← sys .utcNow
  let expires ← addSeconds now svc.refreshTtlSecs
  query (.createRefreshToken userId (hashToken cr refresh) expires tenantId projectId)
    (internal "failed to persist refresh token")
  return ⟨access, refresh, svc.accessTtlSecs, "Bearer", false, ""⟩

/-- For the first active membership by tenant name, else the default tenant. -/
def issueForActiveTenant (userId : Uuid) (email : String) : Handler TokenPair := do
  let members ← query (.listMemberships userId) (internal "failed to load memberships")
  let tenantId := (members.head?.map (·.tenantId)).getD defaultTenantId
  issueTokens cr svc userId email tenantId none

/-! ## Guards of role administration -/

/-- The role must be visible in the tenant, and a named project must belong to
it. Returns the parsed project. -/
def validateAssign (roleName projectId : String) (tenant : Uuid) : Handler (Option Uuid) := do
  let visible ← query (.roleInTenant roleName tenant) (internal "db error")
  Prog.failIf (!visible) (notFound "role not found in this tenant")
  let project ← parseOptProject cr projectId
  match project with
  | none => pure none
  | some pid => do
    let inTenant ← query (.isProjectInTenant pid tenant) (internal "db error")
    Prog.failIf (!inTenant) (invalidArgument "project does not belong to this tenant")
    pure (some pid)

/-- A grant or revocation may only target the tenant's own role. -/
def permRoleGuard (roleName : String) (tenant : Uuid) : Handler Unit := do
  Prog.failIf (isBuiltinRole roleName)
    (failedPrecondition "cannot modify a built-in role's permissions")
  let own ← query (.tenantRoleExists roleName tenant) (internal "db error")
  Prog.failIf (!own) (notFound "role not found in this tenant")

end

end IamAuth
