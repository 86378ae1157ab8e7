import IamAuth.Rls
import IamAuth.Relational.Table

/-!
# repo.rs: identities

Users, their login state and their second factor, soft and hard deletion, and
the transactions that write the outbox. Each function is one transaction: the
effects of all its statements, or an error and none of them.
-/

set_option autoImplicit false

namespace IamAuth.Repo

open Relational

/-! ## Lookups -/

def getUserByEmail (email : String) (db : Db) : Option UserRow :=
  db.users.find? fun u => u.email == email

def getUserById (id : Uuid) (db : Db) : Option UserRow :=
  db.users.find? fun u => u.id == id

def isUserActive (id : Uuid) (db : Db) : Bool :=
  match getUserById id db with
  | some u => u.deletedAt.isNone
  | none => false

/-! ## Single-row updates -/

/-- `UPDATE users SET ... WHERE id = $1`. -/
def updateUser (id : Uuid) (f : UserRow → UserRow) (db : Db) : Db :=
  { db with users := updateWhere (fun u => u.id == id) f db.users }

def setTotpSecret (id : Uuid) (secret : String) : Db → Db :=
  updateUser id fun u => { u with totpSecret := some secret, totpEnabled := false }

def enableTotp (id : Uuid) : Db → Db :=
  updateUser id fun u => { u with totpEnabled := true }

def disableTotp (id : Uuid) : Db → Db :=
  updateUser id fun u => { u with totpSecret := none, totpEnabled := false }

/-- `fetch_one` on the returned counter: no such user is an error, and so is a
counter that leaves `INT`. -/
def incrementLoginFailure (id : Uuid) (db : Db) : Except DbError (Int × Db) :=
  match getUserById id db with
  | none => .error .rowNotFound
  | some u =>
    if u.failedLoginAttempts + 1 ≤ i32Max then
      .ok (u.failedLoginAttempts + 1,
        updateUser id (fun u => { u with failedLoginAttempts := u.failedLoginAttempts + 1 }) db)
    else .error .outOfRange

def lockUser (id : Uuid) (until_ : DateTime) : Db → Db :=
  updateUser id fun u => { u with lockedUntil := some until_, failedLoginAttempts := 0 }

def resetLoginState (id : Uuid) : Db → Db :=
  updateUser id fun u => { u with failedLoginAttempts := 0, lockedUntil := none }

def markEmailVerified (id : Uuid) : Db → Db :=
  updateUser id fun u => { u with emailVerified := true }

def updatePassword (id : Uuid) (hash : String) : Db → Db :=
  updateUser id fun u => { u with passwordHash := hash }

/-! ## Assignments -/

/-- The key of the unique index `user_roles_unique`; a tenant-wide assignment
counts as the nil project. -/
def assignmentKey (ur : UserRole) : Uuid × Nat × Uuid × Uuid :=
  (ur.userId, ur.roleId, ur.tenantId, ur.projectId.getD 0)

def userRoleReferences (ur : UserRole) (db : Db) : Bool :=
  db.users.any (fun u => u.id == ur.userId) &&
  db.roles.any (fun r => r.id == ur.roleId) &&
  db.tenants.any (fun t => t.id == ur.tenantId) &&
  match ur.projectId with
  | none => true
  | some p => db.projects.any fun q => q.id == p

/-- `INSERT INTO user_roles ... ON CONFLICT DO NOTHING` for one row. -/
def insertUserRole (s : Session) (ur : UserRole) (db : Db) : Except DbError Db :=
  if !s.sees (some ur.tenantId) then .error .rowSecurity
  else if db.userRoles.any (fun x => assignmentKey x == assignmentKey ur) then .ok db
  else if !userRoleReferences ur db then .error .foreignKeyViolation
  else .ok { db with userRoles := db.userRoles ++ [ur] }

/-- The same for every role id an `INSERT ... SELECT` selects. -/
def insertUserRoles (s : Session) (userId tenantId : Uuid) (projectId : Option Uuid) :
    List Nat → Db → Except DbError Db
  | [], db => .ok db
  | r :: rs, db =>
    match insertUserRole s ⟨userId, r, tenantId, projectId⟩ db with
    | .ok db => insertUserRoles s userId tenantId projectId rs db
    | .error e => .error e

/-! ## Creation, deletion and the outbox -/

def insertUser (id : Uuid) (email passwordHash : String) (db : Db) : Except DbError Db :=
  if db.users.any fun u => u.id == id || u.email == email then .error .uniqueViolation
  else .ok { db with
    users := db.users ++
      [⟨id, email, passwordHash, "active", false, 0, none, none, false, none⟩] }

def insertOutbox (c : Choice) (aggregateId : Uuid) (eventType : String) (payload : EventPayload)
    (db : Db) : Except DbError Db :=
  if db.outbox.any fun o => o.id == c.uuid then .error .uniqueViolation
  else .ok { db with
    outbox := db.outbox ++ [⟨c.uuid, aggregateId, eventType, payload, c.now, none⟩] }

/-- `SELECT r.id FROM roles r WHERE r.name = $2`, which names no tenant. -/
def rolesNamed (s : Session) (name : String) (db : Db) : List Nat :=
  ((s.roles db).filter fun r => r.name == name).map (·.id)

/-- The transaction of bootstrap. `user_roles.tenant_id` takes its default. -/
def createUserWithRole (conn : DbRole) (c : Choice) (email passwordHash role : String)
    (db : Db) : Except DbError (Uuid × Db) := do
  let s := tenantGucTx conn defaultTenantId
  let db ← insertUser c.uuid email passwordHash db
  let db ← insertUserRoles s c.uuid defaultTenantId none (rolesNamed s role db) db
  return (c.uuid, db)

/-- The transaction of register: the same, and a `user.registered` event. -/
def createUserWithRoleEvent (conn : DbRole) (c : Choice) (id : Uuid)
    (email passwordHash role eventType : String) (payload : EventPayload) (db : Db) : Except DbError (Unit × Db) := do
  let s := tenantGucTx conn defaultTenantId
  let db ← insertUser id email passwordHash db
  let db ← insertUserRoles s id defaultTenantId none (rolesNamed s role db) db
  let db ← insertOutbox c id eventType payload db
  return ((), db)

/-- `DELETE FROM users` with its cascades. Authorization codes and consents have
no foreign key to users and stay. -/
def deleteUserRows (id : Uuid) (db : Db) : Db :=
  { db with
    users := deleteWhere (fun u => u.id == id) db.users
    refreshTokens := deleteWhere (fun t => t.userId == id) db.refreshTokens
    emailVerifications := deleteWhere (fun t => t.userId == id) db.emailVerifications
    passwordResets := deleteWhere (fun t => t.userId == id) db.passwordResets
    totpRecoveryCodes := deleteWhere (fun t => t.userId == id) db.totpRecoveryCodes
    apiKeys := deleteWhere (fun k => k.userId == id) db.apiKeys
    memberships := deleteWhere (fun m => m.userId == id) db.memberships
    userRoles := deleteWhere (fun ur => ur.userId == id) db.userRoles }

/-- `UPDATE refresh_tokens SET revoked_at = now() WHERE user_id = $1 AND
revoked_at IS NULL`. -/
def revokeAllUserRefreshTokens (c : Choice) (userId : Uuid) (db : Db) : Db :=
  { db with
    refreshTokens := updateWhere (fun t => t.userId == userId && t.revokedAt.isNone)
      (fun t => { t with revokedAt := some c.now }) db.refreshTokens }

def softDeleteUser (c : Choice) (id : Uuid) (db : Db) : Db :=
  revokeAllUserRefreshTokens c id
    { db with
      users := updateWhere (fun u => u.id == id && u.deletedAt.isNone)
        (fun u => { u with deletedAt := some c.now }) db.users }

def deleteUserEventSoft (c : Choice) (id : Uuid) (hard : Bool) (eventType : String)
    (payload : EventPayload) (db : Db) : Except DbError (Unit × Db) := do
  let db := if hard then deleteUserRows id db else softDeleteUser c id db
  let db ← insertOutbox c id eventType payload db
  return ((), db)

def restoreUserEvent (c : Choice) (id : Uuid) (eventType : String) (payload : EventPayload)
    (db : Db) : Except DbError (Unit × Db) := do
  let db := updateUser id (fun u => { u with deletedAt := none }) db
  let db ← insertOutbox c id eventType payload db
  return ((), db)

/-! ## Recovery codes -/

def insertRecoveryCode (userId : Uuid) (codeHash : String) (db : Db) : Except DbError (Unit × Db) :=
  if db.users.any fun u => u.id == userId then
    .ok ((), { db with
      totpRecoveryCodes := db.totpRecoveryCodes ++
        [⟨db.recoveryCodesIdSeq + 1, userId, codeHash, none⟩]
      recoveryCodesIdSeq := db.recoveryCodesIdSeq + 1 })
  else .error .foreignKeyViolation

def deleteRecoveryCodes (userId : Uuid) (db : Db) : Db :=
  { db with totpRecoveryCodes := deleteWhere (fun t => t.userId == userId) db.totpRecoveryCodes }

def unusedCode (userId : Uuid) (codeHash : String) (t : TotpRecoveryCode) : Bool :=
  t.userId == userId && t.codeHash == codeHash && t.usedAt.isNone

/-- True when some unused code was spent. -/
def consumeRecoveryCode (c : Choice) (userId : Uuid) (codeHash : String) (db : Db) : Bool × Db :=
  (db.totpRecoveryCodes.any (unusedCode userId codeHash),
    { db with
      totpRecoveryCodes := updateWhere (unusedCode userId codeHash)
        (fun t => { t with usedAt := some c.now }) db.totpRecoveryCodes })

end IamAuth.Repo
