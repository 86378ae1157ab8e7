import IamAuth.Grpc.Account

/-!
# grpc.rs: OAuth clients and the authorization code flow

The lookup of a code, its single-use claim and every later check are separate
statements on the plain pool.
-/

set_option autoImplicit false

namespace IamAuth

open Interleave

/-! ## Requests and responses -/

structure ClientRequest where
  clientId : String
  deriving DecidableEq, Repr

structure OAuthClientResponse where
  clientId : String
  name : String
  redirectUris : List String
  scopes : List String
  grantTypes : List String
  isConfidential : Bool
  deriving DecidableEq, Repr

structure CreateAuthorizationCodeRequest where
  userId : String
  clientId : String
  redirectUri : String
  scope : String
  codeChallenge : String
  codeChallengeMethod : String
  nonce : String
  deriving DecidableEq, Repr

structure GetConsentRequest where
  userId : String
  clientId : String
  deriving DecidableEq, Repr

structure SaveConsentRequest where
  userId : String
  clientId : String
  scopes : List String
  deriving DecidableEq, Repr

structure ExchangeRequest where
  code : String
  clientId : String
  clientSecret : String
  redirectUri : String
  codeVerifier : String
  deriving DecidableEq, Repr

structure OidcTokenResponse where
  accessToken : String
  idToken : String
  refreshToken : String
  expiresIn : Int
  tokenType : String
  scope : String
  deriving DecidableEq, Repr

structure RegisterClientRequest where
  name : String
  redirectUris : List String
  scopes : List String
  isConfidential : Bool
  deriving DecidableEq, Repr

structure RegisterClientResponse where
  clientId : String
  clientSecret : String
  deriving DecidableEq, Repr

section

variable (cr : Crates) (svc : AuthSvc)

def getClient (req : ClientRequest) : Handler OAuthClientResponse := do
  let found ← query (.findClient req.clientId) (internal "client lookup failed")
  let k ← Prog.okOr found (notFound "client not found")
  return ⟨k.clientId, k.name, k.redirectUris, k.scopes, k.grantTypes, k.isConfidential⟩

def parseUserId (s : String) : Handler Uuid :=
  Prog.okOr (cr.parseUuid s) (invalidArgument "invalid user id")

def createAuthorizationCode (req : CreateAuthorizationCodeRequest) : Handler String := do
  let userId ← parseUserId cr req.userId
  let found ← query (.clientTenant req.clientId) (internal "client lookup failed")
  let tenant ← Prog.okOr found (notFound "client not found")
  let member ← query (.isActiveMember userId tenant) (internal "membership check failed")
  Prog.failIf (!member) (permissionDenied "not a member of this client's organization")
  let code ← sys .genCode
  query (.insertAuthorizationCode (hashToken cr code) req.clientId userId req.redirectUri req.scope
    req.codeChallenge req.codeChallengeMethod req.nonce)
    (internal "could not create authorization code")
  return code

def getConsent (req : GetConsentRequest) : Handler (List String) := do
  let userId ← parseUserId cr req.userId
  let row ← query (.getConsent userId req.clientId) (internal "consent lookup failed")
  return row.getD []

def saveConsent (req : SaveConsentRequest) : Handler Bool := do
  let userId ← parseUserId cr req.userId
  query (.saveConsent userId req.clientId req.scopes) (internal "could not save consent")
  return true

/-! ## exchange_authorization_code -/

def invalidGrant : Failure := invalidArgument "invalid_grant"

/-- `rows_affected`, or 0 when the statement fails. -/
def claimCode (codeHash : String) : Handler Nat := do
  match ← attempt (.claimAuthorizationCode codeHash) with
  | .ok n => pure n
  | .error _ => pure 0

def hasPkce (code : AuthorizationCode) : Bool :=
  match code.codeChallenge with
  | some c => !c.isEmpty
  | none => false

/-- A challenge stored without a method is checked as S256. -/
def pkceOk (code : AuthorizationCode) (verifier : String) : Bool :=
  verifyPkce cr (code.codeChallenge.getD "") (code.codeChallengeMethod.getD "S256") verifier

/-- A confidential client shows its secret, a public one must have used PKCE. -/
def authenticateClient (code : AuthorizationCode) (clientSecret : String) : Handler Unit := do
  let found ← query (.clientSecret code.clientId) (internal "client lookup failed")
  let (secretHash, isConfidential) ← Prog.okOr found (invalidArgument "invalid_client")
  if isConfidential then
    Prog.failIf (secretHash != some (hashToken cr clientSecret)) (unauthenticated "invalid_client")
  else
    Prog.failIf (!hasPkce code) (invalidArgument "PKCE required for public clients")

/-- The tokens of a claimed code: bound to the client's tenant, of which the
user must be an active member. -/
def issueForCode (code : AuthorizationCode) : Handler OidcTokenResponse := do
  let email ← query (.selectEmail code.userId) (internal "user lookup failed")
  let tenant ← query (.selectClientTenant code.clientId) (internal "client tenant lookup failed")
  let member ← query (.isActiveMember code.userId tenant) (internal "membership check failed")
  Prog.failIf (!member) (permissionDenied "not a member of this organization")
  let pair ← issueTokens cr svc code.userId email tenant none
  let idToken ← Prog.okOr
    (← sys (.jwtIssueIdToken (cr.formatUuid code.userId) email code.clientId
      (code.nonce.getD "") svc.config.oidcIssuer))
    (internal "failed to sign id_token")
  return ⟨pair.accessToken, idToken, pair.refreshToken, pair.expiresIn, "Bearer", code.scope⟩

def exchangeAuthorizationCode (req : ExchangeRequest) : Handler OidcTokenResponse := do
  let codeHash := hashToken cr req.code
  let found ← query (.getAuthorizationCode codeHash) (internal "code lookup failed")
  let (code, expired) ← Prog.okOr found invalidGrant
  Prog.failIf (code.used || expired || code.clientId != req.clientId ||
    code.redirectUri != req.redirectUri) invalidGrant
  let claimed ← claimCode codeHash
  Prog.failIf (claimed != 1) invalidGrant
  Prog.failIf (hasPkce code && !pkceOk cr code req.codeVerifier) invalidGrant
  authenticateClient cr code req.clientSecret
  issueForCode cr svc code

/-! ## Client registration -/

/-- The secret and its hash; a public client has neither. -/
def newClientSecret (isConfidential : Bool) : Handler (String × Option String) :=
  if isConfidential then do
    let secret ← sys .genCode
    return (secret, some (hashToken cr secret))
  else pure ("", none)

def clientGrantTypes : List String := ["authorization_code", "refresh_token"]

def clientScopes (requested : List String) : List String :=
  if requested.isEmpty then ["openid", "profile", "email"] else requested

/-- The new client belongs to the caller's active tenant. -/
def registerClient (md : MetadataMap) (req : RegisterClientRequest) :
    Handler RegisterClientResponse := do
  requirePerm md "role:write"
  let tenant ← activeTenant cr md
  let clientId ← sys .newUuid
  let (secret, secretHash) ← newClientSecret cr req.isConfidential
  query (.insertClient ⟨cr.formatUuid clientId, secretHash, req.name, req.redirectUris,
    clientGrantTypes, clientScopes req.scopes, req.isConfidential, tenant⟩)
    (internal "could not register client")
  return ⟨cr.formatUuid clientId, secret⟩

end

end IamAuth
