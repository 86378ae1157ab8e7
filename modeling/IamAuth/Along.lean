import IamAuth.System

/-!
# Monitors over the handlers

How a monitor passes through the building blocks of the handlers, and that their
loops issue only Redis commands, audit events or the one statement they repeat.
-/

set_option autoImplicit false

namespace IamAuth

open Interleave

/-- Keeps the events of a call and asks nothing of them. -/
def eventMonitor : Monitor Resp (List (Event Resp)) := .history fun _ _ => True

/-! ## Monitors over single statements -/

section Along

variable {γ : Type} {m : Monitor Resp γ} {g : γ}

@[simp] theorem along_sys (s : Sys) (post : γ → Except Failure (SysReply s) → Prop) :
    @Prog.Along Op Resp Failure (no_index (SysReply s)) γ m (sys s) post g ↔
      ∀ r, m.ok g ⟨.sys s, r⟩ ∧ post (m.upd g ⟨.sys s, r⟩) (.ok r) := Iff.rfl

@[simp] theorem along_redis (c : RedisCmd) (post : γ → Except Failure (RedisReply c) → Prop) :
    @Prog.Along Op Resp Failure (no_index (RedisReply c)) γ m (redis c) post g ↔
      ∀ r, m.ok g ⟨.redis c, r⟩ ∧ post (m.upd g ⟨.redis c, r⟩) (.ok r) := Iff.rfl

@[simp] theorem along_attempt (s : Sql)
    (post : γ → Except Failure (Except DbError (Reply s)) → Prop) :
    @Prog.Along Op Resp Failure (no_index (Except DbError (Reply s))) γ m (attempt s) post g ↔
      ∀ r, m.ok g ⟨.sql s, r⟩ ∧ post (m.upd g ⟨.sql s, r⟩) (.ok r) := Iff.rfl

@[simp] theorem along_query (s : Sql) (e : Failure)
    (post : γ → Except Failure (Reply s) → Prop) :
    @Prog.Along Op Resp Failure (no_index (Reply s)) γ m (query s e) post g ↔
      (∀ r, m.ok g ⟨.sql s, .ok r⟩ ∧ post (m.upd g ⟨.sql s, .ok r⟩) (.ok r)) ∧
      ∀ d, m.ok g ⟨.sql s, .error d⟩ ∧ post (m.upd g ⟨.sql s, .error d⟩) (.error e) := by
  unfold query
  simp only [Prog.along_bind, along_attempt, Prog.then_ok]
  constructor
  · intro h
    exact ⟨fun r => h (.ok r), fun d => h (.error d)⟩
  · rintro ⟨hok, herr⟩ r
    cases r with
    | ok r => exact hok r
    | error d => exact herr d

@[simp] theorem along_ignore (s : Sql) (post : γ → Except Failure Unit → Prop) :
    (ignore s).Along m post g ↔
      ∀ r, m.ok g ⟨.sql s, r⟩ ∧ post (m.upd g ⟨.sql s, r⟩) (.ok ()) := Iff.rfl

@[simp] theorem along_addSeconds (now : DateTime) (n : Int)
    (post : γ → Except Failure DateTime → Prop) :
    (addSeconds now n).Along m post g ↔
      (FitsChrono now n → post g (.ok (now + seconds n))) ∧
      (¬FitsChrono now n → post g (.error .panic)) := by
  simp [addSeconds]

/-! ## Monitors over the guards -/

variable {cr : Crates} {svc : AuthSvc} {md : MetadataMap}

@[simp] theorem along_requirePerm (perm : String) (post : γ → Except Failure Unit → Prop) :
    (requirePerm md perm).Along m post g ↔
      (hasPerm md perm = false → post g (.error (permissionDenied ("permission denied: " ++ perm)))) ∧
      (hasPerm md perm = true → post g (.ok ())) := by
  simp [requirePerm]

@[simp] theorem along_callerUuid (post : γ → Except Failure Uuid → Prop) :
    (callerUuid cr md).Along m post g ↔
      (cr.parseUuid (metaOf md "x-user-id") = none →
        post g (.error (unauthenticated "missing or invalid caller identity"))) ∧
      ∀ a, cr.parseUuid (metaOf md "x-user-id") = some a → post g (.ok a) := by
  simp [callerUuid]

@[simp] theorem along_activeTenant (post : γ → Except Failure Uuid → Prop) :
    (activeTenant cr md).Along m post g ↔
      (metaOf md "x-tenant-id" = "" →
        post g (.error (failedPrecondition "no active tenant on token"))) ∧
      (metaOf md "x-tenant-id" ≠ "" → cr.parseUuid (metaOf md "x-tenant-id") = none →
        post g (.error (internal "invalid active tenant"))) ∧
      ∀ a, activeTenantOpt cr md = some a → post g (.ok a) := by
  by_cases h : metaOf md "x-tenant-id" = "" <;> simp [activeTenant, activeTenantOpt, h]

@[simp] theorem along_parseOptProject (s : String)
    (post : γ → Except Failure (Option Uuid) → Prop) :
    (parseOptProject cr s).Along m post g ↔
      (s = "" → post g (.ok none)) ∧
      (s ≠ "" → cr.parseUuid s = none → post g (.error (invalidArgument "invalid project id"))) ∧
      ∀ p, s ≠ "" → cr.parseUuid s = some p → post g (.ok (some p)) := by
  by_cases h : s = "" <;> simp [parseOptProject, h]

@[simp] theorem along_parseUserId (s : String) (post : γ → Except Failure Uuid → Prop) :
    (parseUserId cr s).Along m post g ↔
      (cr.parseUuid s = none → post g (.error (invalidArgument "invalid user id"))) ∧
      ∀ a, cr.parseUuid s = some a → post g (.ok a) := by
  simp [parseUserId]

@[simp] theorem along_auditAs (actorId actorEmail action target detail : String)
    (tenant : Option Uuid) (post : γ → Except Failure Unit → Prop) :
    (auditAs svc actorId actorEmail action target detail tenant).Along m post g ↔
      (svc.config.auditEnabled = true →
        ∀ r, m.ok g ⟨.sql (.insertAudit actorId actorEmail action target detail tenant), r⟩ ∧
          post (m.upd g ⟨.sql (.insertAudit actorId actorEmail action target detail tenant), r⟩)
            (.ok ())) ∧
      (svc.config.auditEnabled = false → post g (.ok ())) := by
  simp [auditAs]

@[simp] theorem along_callerUser (uid : Uuid) (missing : Failure)
    (post : γ → Except Failure UserRow → Prop) :
    (callerUser uid missing).Along m post g ↔
      (∀ user, m.ok g ⟨.sql (.getUserById uid), .ok (some user)⟩ ∧
        post (m.upd g ⟨.sql (.getUserById uid), .ok (some user)⟩) (.ok user)) ∧
      (m.ok g ⟨.sql (.getUserById uid), .ok none⟩ ∧
        post (m.upd g ⟨.sql (.getUserById uid), .ok none⟩) (.error missing)) ∧
      ∀ d, m.ok g ⟨.sql (.getUserById uid), .error d⟩ ∧
        post (m.upd g ⟨.sql (.getUserById uid), .error d⟩) (.error (internal "db error")) := by
  simp only [callerUser, Prog.along_bind, along_query, Prog.then_ok, Prog.then_error,
    Prog.along_okOr]
  constructor
  · rintro ⟨hok, herr⟩
    refine ⟨fun user => ⟨(hok _).1, (hok _).2.2 user rfl⟩, ⟨(hok _).1, (hok _).2.1 rfl⟩, herr⟩
  · rintro ⟨hsome, hnone, herr⟩
    refine ⟨fun found => ?_, herr⟩
    cases found with
    | none => exact ⟨hnone.1, by simpa using hnone.2⟩
    | some user =>
      refine ⟨(hsome user).1, by simp, ?_⟩
      rintro _ ⟨rfl⟩
      exact (hsome user).2

/-- Wrapping a result as a response issues nothing. -/
theorem along_wrap {α : Type} {p : Handler α} (f : α → Response)
    (hp : p.Along m (fun _ _ => True) g) :
    (p >>= fun a => pure (f a)).Along m (fun _ _ => True) g := by
  refine (Prog.along_bind _ _ _ p _).mpr (hp.mono ?_)
  rintro g (e | a) - <;> trivial

end Along

/-! ## Loops -/

section Loops

variable {P : Op → Prop} (hscan : ∀ cursor pattern, P (.redis (.scan cursor pattern)))
  (hdel : ∀ keys, P (.redis (.del keys)))

include hdel in
theorem emits_delKeys (keys : List String) : (delKeys keys).Emits P := by
  simp [Prog.Emits, delKeys, hdel]

include hscan hdel

theorem emits_scanLoop (pattern : String) (fuel cursor : Nat) :
    (scanLoop pattern fuel cursor).Emits P := by
  induction fuel generalizing cursor with
  | zero => trivial
  | succ fuel ih =>
    refine .bind (by simp [Prog.Emits, hscan]) ?_
    rintro (_ | ⟨next, keys⟩)
    · trivial
    · refine .bind (emits_delKeys hdel keys) fun _ => ?_
      split
      · trivial
      · exact ih next

theorem emits_invalidatePerms (svc : AuthSvc) (userId : String) :
    (invalidatePerms svc userId).Emits P := by
  unfold invalidatePerms
  split
  · exact emits_scanLoop hscan hdel _ _ _
  · trivial

theorem emits_assignEach (cr : Crates) (svc : AuthSvc) {roleName : String} {tenant : Uuid}
    {project : Option Uuid} (hsql : ∀ userId, P (.sql (.assignRole userId roleName tenant project)))
    (uids : List String) : (assignEach cr svc roleName tenant project uids).Emits P := by
  induction uids with
  | nil => trivial
  | cons uid rest ih =>
    refine .bind ?_ fun done => .bind ih fun out => ?_
    · unfold assignOne
      cases cr.parseUuid uid with
      | none => trivial
      | some userId =>
        refine .bind (by simp [Prog.Emits, hsql]) ?_
        rintro (_ | _)
        · trivial
        · exact .bind (emits_invalidatePerms hscan hdel svc uid) fun _ => trivial
    · cases done <;> trivial

end Loops

theorem emits_requireScopes {P : Op → Prop} (perms scopes : List String) :
    (requireScopes perms scopes).Emits P := by
  induction scopes with
  | nil => trivial
  | cons s rest ih => exact .bind (by simp [Prog.Emits]) fun _ => ih

/-! ## The last steps of a sign-in -/

/-- What the lockout and the code check consist of. -/
def Check : Op → Prop
  | .sql (.incrementLoginFailure _) => True
  | .sql (.lockUser ..) => True
  | .sql (.consumeRecoveryCode ..) => True
  | .sql (.insertAudit ..) => True
  | .sys .utcNow => True
  | .sys (.validateTotp ..) => True
  | _ => False

/-- These, and what the issuing of tokens consists of. -/
def SignIn : Op → Prop
  | .sql (.incrementLoginFailure _) => True
  | .sql (.lockUser ..) => True
  | .sql (.resetLoginState _) => True
  | .sql (.consumeRecoveryCode ..) => True
  | .sql (.listMemberships _) => True
  | .sql (.createRefreshToken ..) => True
  | .sql (.insertAudit ..) => True
  | .sql _ => False
  | _ => True

theorem Check.signIn (o : Op) (h : Check o) : SignIn o := by
  cases o with
  | sql s => cases s <;> first | exact h.elim | trivial
  | redis c => trivial
  | sys s => trivial

section SignIn

variable (cr : Crates) (svc : AuthSvc)

theorem check_refuseIfLocked (user : UserRow) : (refuseIfLocked user).Emits Check := by
  unfold refuseIfLocked
  cases user.lockedUntil <;> simp [Prog.Emits, Check]

theorem check_countFailure (id : Uuid) (email detail : String) :
    (countFailure cr svc id email detail).Emits Check := by
  unfold countFailure
  split
  · refine .bind (by simp [Prog.Emits, Check]) ?_
    rintro (_ | n)
    · trivial
    · simp [Prog.Emits, Check]
  · trivial

theorem check_checkCode (uid : Uuid) (secret : Option String) (code : String) :
    (checkCode cr uid secret code).Emits Check := by
  refine .bind (by cases secret <;> simp [checkTotp, Prog.Emits, Check]) fun valid => ?_
  cases valid <;> simp [Prog.Emits, Check]

theorem signIn_issueTokens (userId : Uuid) (email : String) (tenantId : Uuid)
    (projectId : Option Uuid) :
    (issueTokens cr svc userId email tenantId projectId).Emits SignIn := by
  simp [issueTokens, Prog.Emits, SignIn]

theorem signIn_issueForActiveTenant (userId : Uuid) (email : String) :
    (issueForActiveTenant cr svc userId email).Emits SignIn :=
  .bind (by simp [Prog.Emits, SignIn]) fun _ => signIn_issueTokens cr svc _ _ _ _

end SignIn

end IamAuth
