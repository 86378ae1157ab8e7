import IamAuth.Repo.Roles

/-!
# grpc.rs and main.rs: the queries written inline

OAuth clients, authorization codes and consents, which the handlers query
without going through repo.rs.
-/

set_option autoImplicit false

namespace IamAuth.Repo

open Relational

def findClient (clientId : String) (db : Db) : Option OauthClient :=
  db.oauthClients.find? fun k => k.clientId == clientId

/-- `SELECT tenant_id FROM oauth_clients`. -/
def clientTenant (clientId : String) (db : Db) : Option Uuid :=
  (findClient clientId db).map (·.tenantId)

/-- `SELECT client_secret_hash, is_confidential FROM oauth_clients`. -/
def clientSecret (clientId : String) (db : Db) : Option (Option String × Bool) :=
  (findClient clientId db).map fun k => (k.clientSecretHash, k.isConfidential)

def insertClient (k : OauthClient) (db : Db) : Except DbError (Unit × Db) :=
  if db.oauthClients.any fun x => x.clientId == k.clientId then .error .uniqueViolation
  else if !db.tenants.any fun t => t.id == k.tenantId then .error .foreignKeyViolation
  else .ok ((), { db with oauthClients := db.oauthClients ++ [k] })

/-- `bootstrap_oidc_client`: `ON CONFLICT (client_id) DO NOTHING`. -/
def insertConsoleClient (k : OauthClient) (db : Db) : Except DbError (Unit × Db) :=
  if db.oauthClients.any fun x => x.clientId == k.clientId then .ok ((), db)
  else insertClient k db

/-- `NULLIF($n, '')`. -/
def nullIfEmpty (s : String) : Option String := if s.isEmpty then none else some s

def insertAuthorizationCode (c : Choice) (codeHash clientId : String) (userId : Uuid)
    (redirectUri scope codeChallenge codeChallengeMethod nonce : String) (db : Db) :
    Except DbError (Unit × Db) :=
  if db.oauthAuthorizationCodes.any fun k => k.codeHash == codeHash then .error .uniqueViolation
  else if (findClient clientId db).isNone then .error .foreignKeyViolation
  else .ok ((), { db with
    oauthAuthorizationCodes := db.oauthAuthorizationCodes ++
      [⟨codeHash, clientId, userId, redirectUri, scope, nullIfEmpty codeChallenge,
        nullIfEmpty codeChallengeMethod, nullIfEmpty nonce, c.now + seconds 300, false⟩] })

/-- The row of a code, and `expires_at < now()`. -/
def getAuthorizationCode (c : Choice) (codeHash : String) (db : Db) :
    Option (AuthorizationCode × Bool) :=
  (db.oauthAuthorizationCodes.find? fun k => k.codeHash == codeHash).map fun k =>
    (k, decide (k.expiresAt < c.now))

/-- `UPDATE ... SET used = true WHERE code_hash = $1 AND used = false`, and its
row count. -/
def claimAuthorizationCode (codeHash : String) (db : Db) : Nat × Db :=
  let hit := fun k : AuthorizationCode => k.codeHash == codeHash && !k.used
  ((db.oauthAuthorizationCodes.filter hit).length,
    { db with
      oauthAuthorizationCodes := updateWhere hit (fun k => { k with used := true })
        db.oauthAuthorizationCodes })

/-- `SELECT email FROM users WHERE id = $1`, a `fetch_one`. -/
def selectEmail (userId : Uuid) (db : Db) : Except DbError String :=
  match getUserById userId db with
  | some u => .ok u.email
  | none => .error .rowNotFound

/-- `fetch_one` of the client's tenant. -/
def selectClientTenant (clientId : String) (db : Db) : Except DbError Uuid :=
  match clientTenant clientId db with
  | some t => .ok t
  | none => .error .rowNotFound

def getConsent (userId : Uuid) (clientId : String) (db : Db) : Option (List String) :=
  (db.oauthConsents.find? fun k => k.userId == userId && k.clientId == clientId).map (·.scopes)

/-- `ON CONFLICT (user_id, client_id) DO UPDATE`. -/
def saveConsent (userId : Uuid) (clientId : String) (scopes : List String) (db : Db) :
    Except DbError (Unit × Db) :=
  let hit := fun k : OauthConsent => k.userId == userId && k.clientId == clientId
  if db.oauthConsents.any hit then
    .ok ((), { db with
      oauthConsents := updateWhere hit (fun k => { k with scopes := scopes }) db.oauthConsents })
  else if (findClient clientId db).isNone then .error .foreignKeyViolation
  else .ok ((), { db with oauthConsents := db.oauthConsents ++ [⟨userId, clientId, scopes⟩] })

end IamAuth.Repo
