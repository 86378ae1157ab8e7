import IamAuth.Repo.Oauth
import IamAuth.Redis
import IamAuth.Crates
import IamAuth.Interleave.Pool

/-!
# The statements of the service

Everything a handler does step by step: Postgres transactions (`Sql`, one per
function of repo.rs), Redis commands and calls that draw on the clock or on
randomness (`Sys`). `machine` runs them against the shared state. A Postgres
statement that fails, by a lost connection or by a constraint, changes nothing.
-/

set_option autoImplicit false

namespace IamAuth

open Interleave

inductive Sql where
  | createUserWithRole (email passwordHash role : String)
  | createUserWithRoleEvent (id : Uuid) (email passwordHash role eventType : String)
      (payload : EventPayload)
  | getUserByEmail (email : String)
  | getUserById (id : Uuid)
  | isUserActive (id : Uuid)
  | deleteUserEventSoft (id : Uuid) (hard : Bool) (eventType : String) (payload : EventPayload)
  | restoreUserEvent (id : Uuid) (eventType : String) (payload : EventPayload)
  | setTotpSecret (id : Uuid) (secret : String)
  | enableTotp (id : Uuid)
  | disableTotp (id : Uuid)
  | insertRecoveryCode (userId : Uuid) (codeHash : String)
  | deleteRecoveryCodes (userId : Uuid)
  | consumeRecoveryCode (userId : Uuid) (codeHash : String)
  | incrementLoginFailure (id : Uuid)
  | lockUser (id : Uuid) (until_ : DateTime)
  | resetLoginState (id : Uuid)
  | markEmailVerified (id : Uuid)
  | updatePassword (id : Uuid) (hash : String)
  | revokeAllUserRefreshTokens (userId : Uuid)
  | createEmailVerification (tokenHash : String) (userId : Uuid) (expiresAt : DateTime)
  | consumeEmailVerification (tokenHash : String)
  | createPasswordReset (tokenHash : String) (userId : Uuid) (expiresAt : DateTime)
  | consumePasswordReset (tokenHash : String)
  | createApiKey (id : String) (userId : Uuid) (keyHash name : String) (scopes : List String)
      (expiresAt : Option DateTime) (tenantId : Uuid) (projectId : Option Uuid)
  | getApiKeyByHash (keyHash : String)
  | listApiKeys (userId : Uuid)
  | revokeApiKey (id : String) (userId : Uuid)
  | touchApiKey (id : String)
  | insertAudit (actorId actorEmail action target detail : String) (tenantId : Option Uuid)
  | listAudit (tenantId : Uuid) (limit : Int)
  | revokeAccessJti (jti : String) (expiresAt : DateTime)
  | isTokenRevoked (jti : String)
  | createRefreshToken (userId : Uuid) (tokenHash : String) (expiresAt : DateTime)
      (tenantId : Uuid) (projectId : Option Uuid)
  | getRefreshToken (tokenHash : String)
  | revokeRefreshToken (tokenHash : String)
  | rotateRefreshToken (tokenHash replacedBy : String)
  | listMemberships (userId : Uuid)
  | isActiveMember (userId tenantId : Uuid)
  | createMembership (userId tenantId : Uuid)
  | createTenantWithAdmin (slug name : String) (creator : Uuid)
  | listTenants
  | createProject (tenantId : Uuid) (slug name : String)
  | addMember (userId tenantId : Uuid)
  | listProjectsByTenant (tenantId : Uuid)
  | listMembersByTenant (tenantId : Uuid)
  | removeMember (userId tenantId : Uuid)
  | getUserRoles (userId : Uuid)
  | getUserPermissions (userId : Uuid)
  | getUserRolesScoped (userId tenantId : Uuid) (projectId : Option Uuid)
  | getUserPermissionsScoped (userId tenantId : Uuid) (projectId : Option Uuid)
  | roleExists (name : String)
  | roleInTenant (name : String) (tenantId : Uuid)
  | tenantRoleExists (name : String) (tenantId : Uuid)
  | isProjectInTenant (projectId tenantId : Uuid)
  | assignRole (userId : Uuid) (roleName : String) (tenantId : Uuid) (projectId : Option Uuid)
  | revokeRole (userId : Uuid) (roleName : String) (tenantId : Uuid) (projectId : Option Uuid)
  | getUserRoleAssignments (userId tenantId : Uuid)
  | createRole (name description : String) (tenantId : Uuid)
  | updateRole (name description : String) (tenantId : Uuid)
  | deleteRole (name : String) (tenantId : Uuid)
  | listRolesWithPermissions (tenantId : Uuid)
  | listPermissions
  | grantPermission (roleName permName : String) (tenantId : Uuid)
  | revokePermission (roleName permName : String) (tenantId : Uuid)
  | findClient (clientId : String)
  | clientTenant (clientId : String)
  | clientSecret (clientId : String)
  | selectEmail (userId : Uuid)
  | selectClientTenant (clientId : String)
  | insertClient (client : OauthClient)
  | insertConsoleClient (client : OauthClient)
  | insertAuthorizationCode (codeHash clientId : String) (userId : Uuid)
      (redirectUri scope codeChallenge codeChallengeMethod nonce : String)
  | getAuthorizationCode (codeHash : String)
  | claimAuthorizationCode (codeHash : String)
  | getConsent (userId : Uuid) (clientId : String)
  | saveConsent (userId : Uuid) (clientId : String) (scopes : List String)

@[reducible] def Reply : Sql → Type
  | .createUserWithRole .. => Uuid
  | .getUserByEmail _ | .getUserById _ => Option UserRow
  | .isUserActive _ | .consumeRecoveryCode .. | .isTokenRevoked _ | .isActiveMember ..
  | .roleExists _ | .roleInTenant .. | .tenantRoleExists .. | .isProjectInTenant .. => Bool
  | .incrementLoginFailure _ => Int
  | .consumeEmailVerification _ | .consumePasswordReset _ | .clientTenant _ => Option Uuid
  | .getApiKeyByHash _ => Option ApiKeyRow
  | .listApiKeys _ => List ApiKeyMeta
  | .listAudit .. => List AuditRow
  | .getRefreshToken _ => Option RefreshTokenRow
  | .listMemberships _ => List MembershipRow
  | .createTenantWithAdmin .. => TenantRow
  | .listTenants => List TenantRow
  | .createProject .. => ProjectRow
  | .listProjectsByTenant _ => List ProjectRow
  | .listMembersByTenant _ => List MemberRow
  | .getUserRoles _ | .getUserPermissions _ | .getUserRolesScoped ..
  | .getUserPermissionsScoped .. => List String
  | .getUserRoleAssignments .. => List RoleAssignmentRow
  | .createRole .. => RoleRow
  | .updateRole .. => Option RoleRow
  | .listRolesWithPermissions _ => List RoleWithPermsRow
  | .listPermissions => List RoleRow
  | .findClient _ => Option OauthClient
  | .clientSecret _ => Option (Option String × Bool)
  | .selectEmail _ => String
  | .selectClientTenant _ => Uuid
  | .getAuthorizationCode _ => Option (AuthorizationCode × Bool)
  | .claimAuthorizationCode _ => Nat
  | .getConsent .. => Option (List String)
  | _ => Unit

/-- What a statement returns and leaves, on the pool connected as `conn`. -/
def Sql.exec (conn : DbRole) (c : Choice) (db : Db) : (s : Sql) → Except DbError (Reply s × Db)
  | .createUserWithRole email hash role => Repo.createUserWithRole conn c email hash role db
  | .createUserWithRoleEvent id email hash role eventType payload =>
    Repo.createUserWithRoleEvent conn c id email hash role eventType payload db
  | .getUserByEmail email => .ok (Repo.getUserByEmail email db, db)
  | .getUserById id => .ok (Repo.getUserById id db, db)
  | .isUserActive id => .ok (Repo.isUserActive id db, db)
  | .deleteUserEventSoft id hard eventType payload =>
    Repo.deleteUserEventSoft c id hard eventType payload db
  | .restoreUserEvent id eventType payload => Repo.restoreUserEvent c id eventType payload db
  | .setTotpSecret id secret => .ok ((), Repo.setTotpSecret id secret db)
  | .enableTotp id => .ok ((), Repo.enableTotp id db)
  | .disableTotp id => .ok ((), Repo.disableTotp id db)
  | .insertRecoveryCode userId codeHash => Repo.insertRecoveryCode userId codeHash db
  | .deleteRecoveryCodes userId => .ok ((), Repo.deleteRecoveryCodes userId db)
  | .consumeRecoveryCode userId codeHash => .ok (Repo.consumeRecoveryCode c userId codeHash db)
  | .incrementLoginFailure id => Repo.incrementLoginFailure id db
  | .lockUser id until_ => .ok ((), Repo.lockUser id until_ db)
  | .resetLoginState id => .ok ((), Repo.resetLoginState id db)
  | .markEmailVerified id => .ok ((), Repo.markEmailVerified id db)
  | .updatePassword id hash => .ok ((), Repo.updatePassword id hash db)
  | .revokeAllUserRefreshTokens userId => .ok ((), Repo.revokeAllUserRefreshTokens c userId db)
  | .createEmailVerification tokenHash userId expiresAt =>
    Repo.createEmailVerification tokenHash userId expiresAt db
  | .consumeEmailVerification tokenHash => .ok (Repo.consumeEmailVerification c tokenHash db)
  | .createPasswordReset tokenHash userId expiresAt =>
    Repo.createPasswordReset tokenHash userId expiresAt db
  | .consumePasswordReset tokenHash => .ok (Repo.consumePasswordReset c tokenHash db)
  | .createApiKey id userId keyHash name scopes expiresAt tenantId projectId =>
    Repo.createApiKey c id userId keyHash name scopes expiresAt tenantId projectId db
  | .getApiKeyByHash keyHash => .ok (Repo.getApiKeyByHash keyHash db, db)
  | .listApiKeys userId => .ok (Repo.listApiKeys userId db, db)
  | .revokeApiKey id userId => .ok ((), Repo.revokeApiKey c id userId db)
  | .touchApiKey id => .ok ((), Repo.touchApiKey c id db)
  | .insertAudit actorId actorEmail action target detail tenantId =>
    .ok ((), Repo.insertAudit c actorId actorEmail action target detail tenantId db)
  | .listAudit tenantId limit => .ok (Repo.listAudit tenantId limit db, db)
  | .revokeAccessJti jti expiresAt => .ok ((), Repo.revokeAccessJti jti expiresAt db)
  | .isTokenRevoked jti => .ok (Repo.isTokenRevoked jti db, db)
  | .createRefreshToken userId tokenHash expiresAt tenantId projectId =>
    Repo.createRefreshToken userId tokenHash expiresAt tenantId projectId db
  | .getRefreshToken tokenHash => .ok (Repo.getRefreshToken tokenHash db, db)
  | .revokeRefreshToken tokenHash => .ok ((), Repo.revokeRefreshToken c tokenHash db)
  | .rotateRefreshToken tokenHash replacedBy =>
    .ok ((), Repo.rotateRefreshToken c tokenHash replacedBy db)
  | .listMemberships userId => .ok (Repo.listMemberships userId db, db)
  | .isActiveMember userId tenantId => .ok (Repo.isActiveMember userId tenantId db, db)
  | .createMembership userId tenantId => Repo.createMembership userId tenantId db
  | .createTenantWithAdmin slug name creator =>
    Repo.createTenantWithAdmin conn c slug name creator db
  | .listTenants => .ok (Repo.listTenants db, db)
  | .createProject tenantId slug name => Repo.createProject c tenantId slug name db
  | .addMember userId tenantId => Repo.addMember userId tenantId db
  | .listProjectsByTenant tenantId => .ok (Repo.listProjectsByTenant tenantId db, db)
  | .listMembersByTenant tenantId => .ok (Repo.listMembersByTenant tenantId db, db)
  | .removeMember userId tenantId => .ok ((), Repo.removeMember userId tenantId db)
  | .getUserRoles userId => .ok (Repo.getUserRoles conn userId db, db)
  | .getUserPermissions userId => .ok (Repo.getUserPermissions conn userId db, db)
  | .getUserRolesScoped userId tenantId projectId =>
    .ok (Repo.getUserRolesScoped conn userId tenantId projectId db, db)
  | .getUserPermissionsScoped userId tenantId projectId =>
    .ok (Repo.getUserPermissionsScoped conn userId tenantId projectId db, db)
  | .roleExists name => .ok (Repo.roleExists conn name db, db)
  | .roleInTenant name tenantId => .ok (Repo.roleInTenant conn name tenantId db, db)
  | .tenantRoleExists name tenantId => .ok (Repo.tenantRoleExists conn name tenantId db, db)
  | .isProjectInTenant projectId tenantId =>
    .ok (Repo.isProjectInTenant conn projectId tenantId db, db)
  | .assignRole userId roleName tenantId projectId =>
    Repo.assignRole userId roleName tenantId projectId db
  | .revokeRole userId roleName tenantId projectId =>
    Repo.revokeRole userId roleName tenantId projectId db
  | .getUserRoleAssignments userId tenantId =>
    .ok (Repo.getUserRoleAssignments conn userId tenantId db, db)
  | .createRole name description tenantId => Repo.createRole name description tenantId db
  | .updateRole name description tenantId => .ok (Repo.updateRole name description tenantId db)
  | .deleteRole name tenantId => .ok ((), Repo.deleteRole name tenantId db)
  | .listRolesWithPermissions tenantId =>
    .ok (Repo.listRolesWithPermissions conn tenantId db, db)
  | .listPermissions => .ok (Repo.listPermissions db, db)
  | .grantPermission roleName permName tenantId =>
    .ok ((), Repo.grantPermission roleName permName tenantId db)
  | .revokePermission roleName permName tenantId =>
    Repo.revokePermission roleName permName tenantId db
  | .findClient clientId => .ok (Repo.findClient clientId db, db)
  | .clientTenant clientId => .ok (Repo.clientTenant clientId db, db)
  | .clientSecret clientId => .ok (Repo.clientSecret clientId db, db)
  | .selectEmail userId => (Repo.selectEmail userId db).map fun e => (e, db)
  | .selectClientTenant clientId => (Repo.selectClientTenant clientId db).map fun t => (t, db)
  | .insertClient client => Repo.insertClient client db
  | .insertConsoleClient client => Repo.insertConsoleClient client db
  | .insertAuthorizationCode codeHash clientId userId redirectUri scope challenge method nonce =>
    Repo.insertAuthorizationCode c codeHash clientId userId redirectUri scope challenge method
      nonce db
  | .getAuthorizationCode codeHash => .ok (Repo.getAuthorizationCode c codeHash db, db)
  | .claimAuthorizationCode codeHash => .ok (Repo.claimAuthorizationCode codeHash db)
  | .getConsent userId clientId => .ok (Repo.getConsent userId clientId db, db)
  | .saveConsent userId clientId scopes => Repo.saveConsent userId clientId scopes db

/-- Calls into the crates that read the clock or draw randomness, and the checks
of passwords and codes, which the claims of the service are about. -/
inductive Sys where
  | utcNow
  | newUuid
  | genRefreshToken
  | genHex (n : Nat)
  | genCode
  | genNonce
  | generateRecoveryCodes (n : Nat)
  | generateTotp (account : String)
  | validateTotp (code secret : String)
  | hashPassword (password : String)
  | verifyPassword (hash password : String)
  | jwtIssue (sub email tenantId projectId : String)
  | jwtIssueMfa (sub : String) (ttlSecs : Int)
  | jwtIssueIdToken (sub email aud nonce issuer : String)
  | jwtParse (token : String)
  | jwtParseAccess (token : String)

@[reducible] def SysReply : Sys → Type
  | .utcNow => DateTime
  | .newUuid => Uuid
  | .genRefreshToken | .genHex _ | .genCode => String
  | .genNonce => List UInt8
  | .generateRecoveryCodes _ => List String
  | .generateTotp _ => Option GenSecret
  | .validateTotp .. | .verifyPassword .. => Bool
  | .hashPassword _ | .jwtIssue .. | .jwtIssueMfa .. | .jwtIssueIdToken .. => Option String
  | .jwtParse _ | .jwtParseAccess _ => Option Claims

def Sys.exec (cr : Crates) (c : Choice) : (s : Sys) → SysReply s
  | .utcNow => c.now
  | .newUuid => c.uuid
  | .genRefreshToken | .genHex _ | .genCode => c.text
  | .genNonce => (List.range nonceLen).map fun i => c.bytes.getD i 0
  | .generateRecoveryCodes n => (List.range n).map fun i => c.texts.getD i ""
  | .generateTotp account => cr.totpGenerate c account
  | .validateTotp code secret => IamAuth.validateTotp cr c.now code secret
  | .hashPassword password => cr.passwordHash c password
  | .verifyPassword hash password => cr.passwordVerify hash password
  | .jwtIssue sub email tenantId projectId => cr.jwtIssue c sub email tenantId projectId
  | .jwtIssueMfa sub ttl => cr.jwtIssueMfa c sub ttl
  | .jwtIssueIdToken sub email aud nonce issuer => cr.jwtIssueIdToken c sub email aud nonce issuer
  | .jwtParse token => cr.jwtParse c.now token
  | .jwtParseAccess token => cr.jwtParseAccess c.now token

inductive Op where
  | sql (s : Sql)
  | redis (r : RedisCmd)
  | sys (s : Sys)

@[reducible] def Resp : Op → Type
  | .sql s => Except DbError (Reply s)
  | .redis r => RedisReply r
  | .sys s => SysReply s

structure State where
  db : Db
  redis : Redis

/-- What happens outside the service: Redis loses keys. -/
inductive Outage where
  | loseKeys (keys : List String)

/-- A Postgres statement as the handlers see it. One that fails has changed nothing: a
reply lost after the statement was applied, or after `COMMIT`, is not modelled. -/
def Sql.run (conn : DbRole) (c : Choice) (s : Sql) (db : Db) : Except DbError (Reply s) × Db :=
  if c.fails then (.error .connection, db)
  else
    match s.exec conn c db with
    | .ok (r, db') => (.ok r, db')
    | .error e => (.error e, db)

def machine (cr : Crates) (conn : DbRole) : Machine Resp State Choice Outage where
  exec
    | .sql s, c, st => ((s.run conn c st.db).1, { st with db := (s.run conn c st.db).2 })
    | .redis r, c, st => ((Redis.exec c st.redis r).1,
        { st with redis := (Redis.exec c st.redis r).2 })
    | .sys s, c, st => (s.exec cr c, st)
  env
    | .loseKeys keys, st => { st with redis := st.redis.lose keys }

variable {cr : Crates} {conn : DbRole}

@[simp] theorem exec_sql_reply (s : Sql) (c : Choice) (st : State) :
    ((machine cr conn).exec (.sql s) c st).1 = (s.run conn c st.db).1 := rfl

@[simp] theorem exec_sql_db (s : Sql) (c : Choice) (st : State) :
    ((machine cr conn).exec (.sql s) c st).2.db = (s.run conn c st.db).2 := rfl

@[simp] theorem exec_sql_redis (s : Sql) (c : Choice) (st : State) :
    ((machine cr conn).exec (.sql s) c st).2.redis = st.redis := rfl

@[simp] theorem exec_redis_db (r : RedisCmd) (c : Choice) (st : State) :
    ((machine cr conn).exec (.redis r) c st).2.db = st.db := rfl

@[simp] theorem exec_sys (s : Sys) (c : Choice) (st : State) :
    (machine cr conn).exec (.sys s) c st = (s.exec cr c, st) := rfl

@[simp] theorem env_db (e : Outage) (st : State) : ((machine cr conn).env e st).db = st.db := rfl

/-- What a Postgres statement does: it fails and changes nothing, or it is the
transaction of repo.rs. -/
theorem Sql.run_cases (conn : DbRole) (s : Sql) (c : Choice) (db : Db) :
    (∃ e, s.run conn c db = (.error e, db)) ∨
    ∃ r db', s.exec conn c db = .ok (r, db') ∧ s.run conn c db = (.ok r, db') := by
  unfold Sql.run
  split
  · exact .inl ⟨_, rfl⟩
  · split
    · next r db' h => exact .inr ⟨r, db', h, rfl⟩
    · next e h => exact .inl ⟨e, rfl⟩

/-- A statement that answered has run its transaction. -/
theorem exec_sql_ok {s : Sql} {c : Choice} {st : State} {r : Reply s}
    (h : ((machine cr conn).exec (.sql s) c st).1 = .ok r) :
    c.fails = false ∧ ∃ db', s.exec conn c st.db = .ok (r, db') ∧
      ((machine cr conn).exec (.sql s) c st).2.db = db' := by
  rw [exec_sql_reply] at h
  rw [exec_sql_db]
  refine ⟨?_, ?_⟩
  · cases hf : c.fails with
    | false => rfl
    | true => simp [Sql.run, hf] at h
  · rcases Sql.run_cases conn s c st.db with ⟨e, he⟩ | ⟨r', db', hx, hr⟩
    · rw [he] at h
      cases h
    · rw [hr] at h ⊢
      cases h
      exact ⟨db', hx, rfl⟩

/-- What one label of a run does to the database: nothing, or one transaction. -/
theorem db_next {K ε α : Type} (cr : Crates) (conn : DbRole) (body : K → Prog Resp ε α)
    (w : Pool K Resp ε α State) (l : Label K Choice Outage) :
    (Pool.next (machine cr conn) body w l).state.db = w.state.db ∨
    ∃ i c s r db', l = .step i c ∧ w.pending i = some (.sql s) ∧
      s.exec conn c w.state.db = .ok (r, db') ∧
      ((machine cr conn).exec (.sql s) c w.state).1 = .ok r ∧
      (Pool.next (machine cr conn) body w l).state.db = db' := by
  rcases Pool.state_next (machine cr conn) body w l with hs | ⟨i, c, o, hl, hp, hs⟩ | ⟨e, -, hs⟩
  · exact .inl (by rw [hs])
  · cases o with
    | sql s =>
      rcases Sql.run_cases conn s c w.state.db with ⟨e, he⟩ | ⟨r, db', hx, hr⟩
      · exact .inl (by rw [hs, exec_sql_db, he])
      · refine .inr ⟨i, c, s, r, db', hl, hp, hx, ?_, ?_⟩
        · rw [exec_sql_reply, hr]
        · rw [hs, exec_sql_db, hr]
    | redis r => exact .inl (by rw [hs, exec_redis_db])
    | sys s => exact .inl (by rw [hs, exec_sys])
  · exact .inl (by rw [hs, env_db])

end IamAuth
