import IamAuth.Repo.Identity

/-!
# repo.rs: tokens, keys and the audit log

Refresh tokens, the access-token denylist, one-time e-mail and password tokens,
API keys and audit events. All of these tables are permissive under row-level
security, so no session appears.
-/

set_option autoImplicit false

namespace IamAuth.Repo

open Relational

/-- The foreign keys of `refresh_tokens` and `api_keys`. -/
def sessionReferences (userId tenantId : Uuid) (projectId : Option Uuid) (db : Db) : Bool :=
  db.users.any (fun u => u.id == userId) &&
  db.tenants.any (fun t => t.id == tenantId) &&
  match projectId with
  | none => true
  | some p => db.projects.any fun q => q.id == p

/-! ## Refresh tokens -/

def createRefreshToken (userId : Uuid) (tokenHash : String) (expiresAt : DateTime)
    (tenantId : Uuid) (projectId : Option Uuid) (db : Db) : Except DbError (Unit × Db) :=
  if db.refreshTokens.any fun t => t.tokenHash == tokenHash then .error .uniqueViolation
  else if !sessionReferences userId tenantId projectId db then .error .foreignKeyViolation
  else .ok ((), { db with
    refreshTokens := db.refreshTokens ++
      [⟨⟨userId, expiresAt, none, none, tenantId, projectId⟩, tokenHash⟩] })

def getRefreshToken (tokenHash : String) (db : Db) : Option RefreshTokenRow :=
  (db.refreshTokens.find? fun t => t.tokenHash == tokenHash).map (·.toRefreshTokenRow)

def revokeRefreshToken (c : Choice) (tokenHash : String) (db : Db) : Db :=
  { db with
    refreshTokens := updateWhere (fun t => t.tokenHash == tokenHash && t.revokedAt.isNone)
      (fun t => { t with revokedAt := some c.now }) db.refreshTokens }

def rotateRefreshToken (c : Choice) (tokenHash replacedBy : String) (db : Db) : Db :=
  { db with
    refreshTokens := updateWhere (fun t => t.tokenHash == tokenHash && t.revokedAt.isNone)
      (fun t => { t with revokedAt := some c.now, replacedBy := some replacedBy })
      db.refreshTokens }

/-! ## Access-token denylist -/

/-- `ON CONFLICT (jti) DO NOTHING`. -/
def revokeAccessJti (jti : String) (expiresAt : DateTime) (db : Db) : Db :=
  if db.revokedTokens.any fun t => t.jti == jti then db
  else { db with revokedTokens := db.revokedTokens ++ [⟨jti, expiresAt⟩] }

def isTokenRevoked (jti : String) (db : Db) : Bool :=
  db.revokedTokens.any fun t => t.jti == jti

/-! ## One-time tokens -/

def insertOneTimeToken (tokenHash : String) (userId : Uuid) (expiresAt : DateTime) (db : Db)
    (table : List OneTimeToken) : Except DbError (List OneTimeToken) :=
  if table.any fun t => t.tokenHash == tokenHash then .error .uniqueViolation
  else if !db.users.any fun u => u.id == userId then .error .foreignKeyViolation
  else .ok (table ++ [⟨tokenHash, userId, expiresAt, none⟩])

def consumable (c : Choice) (tokenHash : String) (t : OneTimeToken) : Bool :=
  t.tokenHash == tokenHash && t.consumedAt.isNone && decide (c.now < t.expiresAt)

/-- `UPDATE ... SET consumed_at = now() WHERE ... RETURNING user_id`. -/
def consumeOneTimeToken (c : Choice) (tokenHash : String) (table : List OneTimeToken) :
    Option Uuid × List OneTimeToken :=
  ((table.find? (consumable c tokenHash)).map (·.userId),
    updateWhere (consumable c tokenHash) (fun t => { t with consumedAt := some c.now }) table)

def createEmailVerification (tokenHash : String) (userId : Uuid) (expiresAt : DateTime)
    (db : Db) : Except DbError (Unit × Db) :=
  match insertOneTimeToken tokenHash userId expiresAt db db.emailVerifications with
  | .ok table => .ok ((), { db with emailVerifications := table })
  | .error e => .error e

def consumeEmailVerification (c : Choice) (tokenHash : String) (db : Db) : Option Uuid × Db :=
  let out := consumeOneTimeToken c tokenHash db.emailVerifications
  (out.1, { db with emailVerifications := out.2 })

def createPasswordReset (tokenHash : String) (userId : Uuid) (expiresAt : DateTime)
    (db : Db) : Except DbError (Unit × Db) :=
  match insertOneTimeToken tokenHash userId expiresAt db db.passwordResets with
  | .ok table => .ok ((), { db with passwordResets := table })
  | .error e => .error e

def consumePasswordReset (c : Choice) (tokenHash : String) (db : Db) : Option Uuid × Db :=
  let out := consumeOneTimeToken c tokenHash db.passwordResets
  (out.1, { db with passwordResets := out.2 })

/-! ## API keys -/

def createApiKey (c : Choice) (id : String) (userId : Uuid) (keyHash name : String)
    (scopes : List String) (expiresAt : Option DateTime) (tenantId : Uuid)
    (projectId : Option Uuid) (db : Db) : Except DbError (Unit × Db) :=
  if db.apiKeys.any fun k => k.id == id || k.keyHash == keyHash then .error .uniqueViolation
  else if !sessionReferences userId tenantId projectId db then .error .foreignKeyViolation
  else .ok ((), { db with
    apiKeys := db.apiKeys ++
      [⟨⟨id, userId, scopes, expiresAt, none, tenantId, projectId⟩, keyHash, name, none, c.now⟩] })

def getApiKeyByHash (keyHash : String) (db : Db) : Option ApiKeyRow :=
  (db.apiKeys.find? fun k => k.keyHash == keyHash).map (·.toApiKeyRow)

/-- `ORDER BY created_at DESC`. -/
def listApiKeys (userId : Uuid) (db : Db) : List ApiKeyMeta :=
  let keys := db.apiKeys.filter fun k => k.userId == userId && k.revokedAt.isNone
  (keys.insertionSort fun a b => b.createdAt ≤ a.createdAt).map fun k =>
    ⟨k.id, k.name, k.scopes, k.expiresAt, k.lastUsedAt, k.createdAt⟩

def revokeApiKey (c : Choice) (id : String) (userId : Uuid) (db : Db) : Db :=
  { db with
    apiKeys := updateWhere (fun k => k.id == id && k.userId == userId && k.revokedAt.isNone)
      (fun k => { k with revokedAt := some c.now }) db.apiKeys }

def touchApiKey (c : Choice) (id : String) (db : Db) : Db :=
  { db with
    apiKeys := updateWhere (fun k => k.id == id)
      (fun k => { k with lastUsedAt := some c.now }) db.apiKeys }

/-! ## Audit log -/

def insertAudit (c : Choice) (actorId actorEmail action target detail : String)
    (tenantId : Option Uuid) (db : Db) : Db :=
  { db with
    auditEvents := db.auditEvents ++
      [⟨⟨db.auditEventsIdSeq + 1, actorId, actorEmail, action, target, detail, c.now⟩, tenantId⟩]
    auditEventsIdSeq := db.auditEventsIdSeq + 1 }

/-- `WHERE tenant_id = $1 ORDER BY id DESC LIMIT $2`. -/
def listAudit (tenantId : Uuid) (limit : Int) (db : Db) : List AuditRow :=
  let events := (db.auditEvents.filter fun e => e.tenantId == some tenantId).map (·.toAuditRow)
  (events.insertionSort fun a b => b.id ≤ a.id).take limit.toNat

end IamAuth.Repo
