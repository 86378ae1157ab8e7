import IamAuth.Frame
import IamAuth.Issued

/-!
# What each call may write

One table: for every call the statements it may issue besides reads and audit events,
with what its metadata and its request say about their arguments.
-/

set_option autoImplicit false

namespace IamAuth

open Interleave

/-- A read, or an audit event. -/
def Sql.quiet (s : Sql) : Bool := s.writes == [] || s.writes == [.auditEvents]

/-- The user named by `x-user-id`. -/
def callerId (cr : Crates) (md : MetadataMap) : Option Uuid := cr.parseUuid (metaOf md "x-user-id")

def Rpc.MayWrite (cr : Crates) (md : MetadataMap) : Rpc → Sql → Prop
  | .register req => fun
    | .createUserWithRoleEvent _ email _ role _ _ => email = req.email ∧ role = defaultRole
    | .createMembership _ t => t = defaultTenantId
    | _ => False
  | .login _ => fun
    | .incrementLoginFailure _ | .lockUser .. | .resetLoginState _ => True
    | .createRefreshToken _ _ _ _ p => p = none
    | _ => False
  | .loginTotp _ => fun
    | .incrementLoginFailure _ | .lockUser .. | .resetLoginState _ | .consumeRecoveryCode .. => True
    | .createRefreshToken _ _ _ _ p => p = none
    | _ => False
  | .refresh req => fun
    | .createRefreshToken .. | .revokeAllUserRefreshTokens _ => True
    | .rotateRefreshToken h _ => h = hashToken cr req.refreshToken
    | _ => False
  | .logout req => fun
    | .revokeRefreshToken h => h = hashToken cr req.refreshToken
    | .revokeAccessJti .. => True
    | _ => False
  | .switchTenant req => fun
    | .createRefreshToken u _ _ t _ => callerId cr md = some u ∧ cr.parseUuid req.tenantId = some t
    | _ => False
  | .enrollTotp => fun
    | .setTotpSecret u _ | .deleteRecoveryCodes u | .insertRecoveryCode u _ => callerId cr md = some u
    | _ => False
  | .activateTotp _ => fun
    | .enableTotp u => callerId cr md = some u
    | _ => False
  | .disableTotp req => fun
    | .consumeRecoveryCode u h => callerId cr md = some u ∧ h = hashToken cr req.code
    | .disableTotp u | .deleteRecoveryCodes u => callerId cr md = some u
    | _ => False
  | .createApiKey req => fun
    | .createApiKey _ u _ _ scopes _ t _ => callerId cr md = some u ∧ activeTenantOpt cr md = some t ∧
      scopes = req.scopes
    | _ => False
  | .revokeApiKey req => fun
    | .revokeApiKey id u => callerId cr md = some u ∧ id = req.id
    | _ => False
  | .validateApiKey _ => fun
    | .touchApiKey _ => True
    | _ => False
  | .deleteUser req => fun
    | .deleteUserEventSoft u hard _ _ => hasPerm md "user:delete" = true ∧
      cr.parseUuid req.userId = some u ∧ hard = req.hard
    | _ => False
  | .restoreUser req => fun
    | .restoreUserEvent u _ _ => hasPerm md "user:delete" = true ∧ cr.parseUuid req.userId = some u
    | _ => False
  | .requestEmailVerification _ => fun
    | .createEmailVerification .. => True
    | _ => False
  | .verifyEmail req => fun
    | .consumeEmailVerification h => h = hashToken cr req.token
    | .markEmailVerified _ => True
    | _ => False
  | .requestPasswordReset _ => fun
    | .createPasswordReset .. => True
    | _ => False
  | .resetPassword req => fun
    | .consumePasswordReset h => h = hashToken cr req.token
    | .updatePassword .. | .revokeAllUserRefreshTokens _ => True
    | _ => False
  | .changePassword _ => fun
    | .updatePassword u _ | .revokeAllUserRefreshTokens u => callerId cr md = some u
    | _ => False
  | .createAuthorizationCode req => fun
    | .insertAuthorizationCode _ client u _ _ _ _ _ =>
      client = req.clientId ∧ cr.parseUuid req.userId = some u
    | _ => False
  | .saveConsent req => fun
    | .saveConsent u client _ => client = req.clientId ∧ cr.parseUuid req.userId = some u
    | _ => False
  | .exchangeAuthorizationCode req => fun
    | .claimAuthorizationCode h => h = hashToken cr req.code
    | .createRefreshToken _ _ _ _ p => p = none
    | _ => False
  | .registerClient _ => fun
    | .insertClient k => hasPerm md "role:write" = true ∧ activeTenantOpt cr md = some k.tenantId
    | _ => False
  | .createTenant _ => fun
    | .createTenantWithAdmin _ _ u => hasPerm md "tenant:write" = true ∧ callerId cr md = some u
    | _ => False
  | .createProject _ => fun
    | .createProject t _ _ => hasPerm md "project:write" = true ∧ activeTenantOpt cr md = some t
    | _ => False
  | .addMember _ => fun
    | .addMember _ t => hasPerm md "member:write" = true ∧ activeTenantOpt cr md = some t
    | _ => False
  | .removeMember req => fun
    | .removeMember u t => hasPerm md "member:write" = true ∧ activeTenantOpt cr md = some t ∧
      cr.parseUuid req.userId = some u
    | _ => False
  | .createRole req => fun
    | .createRole name _ t => hasPerm md "role:write" = true ∧ activeTenantOpt cr md = some t ∧
      name = req.name ∧ isBuiltinRole name = false
    | _ => False
  | .updateRole req => fun
    | .updateRole name _ t => hasPerm md "role:write" = true ∧ activeTenantOpt cr md = some t ∧
      name = req.name ∧ isBuiltinRole name = false
    | _ => False
  | .deleteRole req => fun
    | .deleteRole name t => hasPerm md "role:write" = true ∧ activeTenantOpt cr md = some t ∧
      name = req.name ∧ isBuiltinRole name = false
    | _ => False
  | .assignRole req => fun
    | .assignRole u name t _ => hasPerm md "role:assign" = true ∧ activeTenantOpt cr md = some t ∧
      name = req.roleName ∧ cr.parseUuid req.userId = some u
    | _ => False
  | .assignRoleBulk req => fun
    | .assignRole _ name t _ => hasPerm md "role:assign" = true ∧ activeTenantOpt cr md = some t ∧
      name = req.roleName
    | _ => False
  | .revokeRole req => fun
    | .revokeRole u name t _ => hasPerm md "role:assign" = true ∧ activeTenantOpt cr md = some t ∧
      name = req.roleName ∧ cr.parseUuid req.userId = some u
    | _ => False
  | .grantPermission req => fun
    | .grantPermission name perm t => hasPerm md "role:write" = true ∧
      activeTenantOpt cr md = some t ∧ name = req.roleName ∧ perm = req.permissionName
    | _ => False
  | .revokePermission req => fun
    | .revokePermission name perm t => hasPerm md "role:write" = true ∧
      activeTenantOpt cr md = some t ∧ name = req.roleName ∧ perm = req.permissionName
    | _ => False
  | _ => fun _ => False

def Call.MayWrite (cr : Crates) : Call → Sql → Prop
  | .rpc _ md r => r.MayWrite cr md
  | .start env => fun
    | .createUserWithRole email _ role =>
      (email = env.adminEmail ∧ role = "admin") ∨ (email = env.demoEmail ∧ role = "viewer")
    | .createMembership _ t => t = defaultTenantId
    | .insertConsoleClient k => k.clientId = env.consoleClientId ∧ k.tenantId = defaultTenantId
    | _ => False
  | .profileCreationFailed .. => fun _ => False

/-- The statements of a call: quiet ones, and the writes of the table. -/
def Call.Issues (cr : Crates) (k : Call) : Op → Prop
  | .sql s => s.quiet = true ∨ k.MayWrite cr s
  | _ => True

section

variable (cr : Crates) (svc : AuthSvc) (md : MetadataMap)

/-! ## Sessions -/

-- The equations of these tables are long, and every proof below uses them.
attribute [local simp] Sql.quiet Sql.writes Rpc.MayWrite Call.MayWrite Call.Issues in
theorem issues_register (req : RegisterRequest) :
    (register cr svc req).Emits ((Call.rpc svc md (.register req)).Issues cr) := by
  simp [register, Prog.Emits]

section SignIn

variable {k : Call}

theorem issues_refuseIfLocked (user : UserRow) : (refuseIfLocked user).Emits (k.Issues cr) := by
  unfold refuseIfLocked
  cases user.lockedUntil <;> simp [Prog.Emits, Call.Issues]

theorem issues_countFailure (hcount : ∀ u, k.MayWrite cr (.incrementLoginFailure u))
    (hlock : ∀ u t, k.MayWrite cr (.lockUser u t)) (id : Uuid) (email detail : String) :
    (countFailure cr svc id email detail).Emits (k.Issues cr) := by
  unfold countFailure
  split
  · refine .bind (by simp [Prog.Emits, Call.Issues, hcount]) ?_
    intro reply
    cases reply with
    | error e => trivial
    | ok n => simp [Prog.Emits, Call.Issues, Sql.quiet, Sql.writes, hlock]
  · trivial

theorem issues_checkCode {uid : Uuid} {code : String}
    (hk : k.MayWrite cr (.consumeRecoveryCode uid (hashToken cr code))) (secret : Option String) :
    (checkCode cr uid secret code).Emits (k.Issues cr) := by
  refine .bind (by cases secret <;> simp [checkTotp, Prog.Emits, Call.Issues]) ?_
  intro valid
  cases valid <;> simp [Prog.Emits, Call.Issues, hk]

theorem issues_issueTokens {userId tenantId : Uuid} {projectId : Option Uuid}
    (hk : ∀ h e, k.MayWrite cr (.createRefreshToken userId h e tenantId projectId))
    (email : String) : (issueTokens cr svc userId email tenantId projectId).Emits (k.Issues cr) := by
  simp [issueTokens, Prog.Emits, Call.Issues, hk]

theorem issues_issueForActiveTenant (hk : ∀ u h e t, k.MayWrite cr (.createRefreshToken u h e t none))
    (userId : Uuid) (email : String) :
    (issueForActiveTenant cr svc userId email).Emits (k.Issues cr) := by
  refine .bind (by simp [Prog.Emits, Call.Issues, Sql.quiet, Sql.writes]) fun _ => ?_
  exact issues_issueTokens cr svc (fun h e => hk _ h e _) email

end SignIn

theorem issues_login (req : LoginRequest) :
    (login cr svc req).Emits ((Call.rpc svc md (.login req)).Issues cr) := by
  refine .bind (by simp [Prog.Emits, Call.Issues, Sql.quiet, Sql.writes]) ?_
  intro found
  cases found with
  | none => simp [Prog.Emits, Call.Issues]
  | some user =>
    refine .bind (issues_refuseIfLocked cr user) fun _ => ?_
    refine .bind (by simp [Prog.Emits, Call.Issues]) fun ok => ?_
    split
    · refine .bind (issues_countFailure (k := .rpc svc md (.login req)) cr svc (fun _ => trivial) (fun _ _ => trivial) _ _ _)
        fun _ => ?_
      simp [Prog.Emits, Call.Issues, Sql.quiet, Sql.writes]
    · refine .bind (by simp [Prog.Emits]) fun _ => .bind (by simp [Prog.Emits]) fun _ => ?_
      refine .bind (by simp [Prog.Emits, Call.Issues, Call.MayWrite, Rpc.MayWrite]) fun _ => ?_
      split
      · simp [Prog.Emits, Call.Issues, Sql.quiet, Sql.writes]
      · refine .bind (by simp [Prog.Emits, Call.Issues, Sql.quiet, Sql.writes]) fun _ => ?_
        exact issues_issueForActiveTenant (k := .rpc svc md (.login req)) cr svc (fun _ _ _ _ => rfl) _ _

theorem issues_loginTotp (req : LoginTotpRequest) :
    (loginTotp cr svc req).Emits ((Call.rpc svc md (.loginTotp req)).Issues cr) := by
  refine .bind (by simp [Prog.Emits, Call.Issues]) fun _ => .bind (by simp [Prog.Emits]) fun _ => ?_
  refine .bind (by simp [Prog.Emits]) fun _ => .bind (by simp [Prog.Emits]) fun uid => ?_
  refine .bind (by simp [Prog.Emits, Call.Issues, Sql.quiet, Sql.writes]) fun _ => ?_
  refine .bind (by simp [Prog.Emits]) fun user => .bind (issues_refuseIfLocked cr user) fun _ => ?_
  refine .bind (issues_checkCode (k := .rpc svc md (.loginTotp req)) cr trivial _) fun ok => ?_
  split
  · refine .bind (issues_countFailure (k := .rpc svc md (.loginTotp req)) cr svc (fun _ => trivial) (fun _ _ => trivial) _ _ _) fun _ => ?_
    simp [Prog.Emits, Call.Issues, Sql.quiet, Sql.writes]
  · refine .bind (by simp [Prog.Emits, Call.Issues, Call.MayWrite, Rpc.MayWrite]) fun _ => ?_
    refine .bind (by simp [Prog.Emits, Call.Issues, Sql.quiet, Sql.writes]) fun _ => ?_
    exact issues_issueForActiveTenant (k := .rpc svc md (.loginTotp req)) cr svc (fun _ _ _ _ => rfl) _ _

section Refresh

variable {req : RefreshRequest}

theorem issues_reissue (row : RefreshTokenRow) :
    (reissue cr svc row).Emits ((Call.rpc svc md (.refresh req)).Issues cr) := by
  refine .bind (by simp [Prog.Emits, Call.Issues, Sql.quiet, Sql.writes]) fun _ => ?_
  exact .bind (by simp [Prog.Emits]) fun _ => issues_issueTokens (k := .rpc svc md (.refresh req)) cr svc (fun _ _ => trivial) _

theorem issues_wipeFamily (row : RefreshTokenRow) :
    (wipeFamily cr svc row).Emits ((Call.rpc svc md (.refresh req)).Issues cr) := by
  simp [wipeFamily, Prog.Emits, Call.Issues, Sql.quiet, Sql.writes, Call.MayWrite, Rpc.MayWrite]

variable (req)

theorem issues_refresh :
    (refresh cr svc req).Emits ((Call.rpc svc md (.refresh req)).Issues cr) := by
  refine .bind (by simp [Prog.Emits, Call.Issues, Sql.quiet, Sql.writes]) fun _ => ?_
  refine .bind (by simp [Prog.Emits]) fun row => ?_
  cases row.revokedAt with
  | none =>
    refine .bind (by simp [Prog.Emits, Call.Issues]) fun _ => .bind (by simp [Prog.Emits]) fun _ => ?_
    refine .bind (issues_reissue cr svc md row) fun _ => ?_
    simp [Prog.Emits, Call.Issues, Call.MayWrite, Rpc.MayWrite]
  | some revokedAt =>
    dsimp only
    split
    · refine .bind (by simp [Prog.Emits, Call.Issues]) fun _ => ?_
      split
      · exact issues_reissue cr svc md row
      · exact issues_wipeFamily cr svc md row
    · exact issues_wipeFamily cr svc md row

end Refresh

theorem issues_logout (req : LogoutRequest) :
    (logout cr svc md req).Emits ((Call.rpc svc md (.logout req)).Issues cr) := by
  refine .bind (by simp [Prog.Emits, Call.Issues, Call.MayWrite, Rpc.MayWrite]) fun _ => ?_
  refine .bind ?_ fun _ => ?_
  · unfold denyAccessToken
    split
    · trivial
    · refine .bind (by simp [Prog.Emits, Call.Issues]) ?_
      intro parsed
      cases parsed with
      | none => trivial
      | some claims =>
        refine .bind ?_ fun _ => .bind (by simp [Prog.Emits, Call.Issues]) fun _ => ?_
        · unfold recordRevoked
          cases fromTimestamp claims.exp <;>
            simp [Prog.Emits, Call.Issues, Call.MayWrite, Rpc.MayWrite]
        · simp [deny, Prog.Emits, Call.Issues]
  · simp [audit, Prog.Emits, Call.Issues, Sql.quiet, Sql.writes]

/-- The rest of a call whose first part is done. -/
theorem emits_then {α β : Type} {P : Op → Prop} {p : Handler α} {f : α → Handler β}
    (hp : p.Emits P) (hf : ∀ a, (f a).Emits P) :
    p.Along (Monitor.emitting P) (Prog.Then (Monitor.emitting P) (fun _ _ => True) f) () :=
  (Prog.along_bind _ _ _ p f).mp (hp.bind hf)

theorem issues_switchTenant (req : SwitchTenantRequest) :
    (switchTenant cr svc md req).Emits ((Call.rpc svc md (.switchTenant req)).Issues cr) := by
  simp only [switchTenant, Prog.Emits, Prog.along_bind, along_callerUuid, Prog.along_okOr,
    Prog.then_ok, Prog.then_error, implies_true, true_and]
  intro uid hcaller tenantId htenant
  refine emits_then (by simp [Prog.Emits, Call.Issues, Sql.quiet, Sql.writes]) fun _ => ?_
  refine .bind (by simp [Prog.Emits]) fun _ => .bind (.bind (by simp [Prog.Emits]) ?_) fun _ => ?_
  · intro project
    cases project <;> simp [Prog.Emits, Call.Issues, Sql.quiet, Sql.writes]
  · refine .bind (by simp [Prog.Emits, Call.Issues, Sql.quiet, Sql.writes]) fun _ => ?_
    refine .bind (by simp [Prog.Emits]) fun _ => ?_
    exact issues_issueTokens (k := .rpc svc md (.switchTenant req)) cr svc
      (fun _ _ => ⟨hcaller, htenant⟩) _

/-! ### validate_token -/

theorem issues_tokenPermissions {k : Call} (claims : Claims) (userId : Uuid)
    (tenant project : Option Uuid) :
    (tokenPermissions cr svc claims userId tenant project).Emits (k.Issues cr) := by
  refine .bind ?_ ?_
  · unfold getPerms
    split
    · refine .bind (by simp [Prog.Emits, Call.Issues]) ?_
      intro reply
      cases reply with
      | none => trivial
      | some v => cases v <;> trivial
    · trivial
  · intro cached
    cases cached with
    | some p => trivial
    | none =>
      refine .bind ?_ fun _ => ?_
      · cases tenant <;> simp [loadPermissions, Prog.Emits, Call.Issues, Sql.quiet, Sql.writes]
      · simp [setPerms, Prog.Emits, Call.Issues]

theorem issues_validateToken {k : Call} (req : ValidateTokenRequest) :
    (validateToken cr svc req).Emits (k.Issues cr) := by
  refine .bind (by simp [Prog.Emits, Call.Issues]) fun _ => .bind (by simp [Prog.Emits]) fun claims => ?_
  refine .bind (.bind (by simp [isDenied, Prog.Emits, Call.Issues]) ?_) fun _ => ?_
  · intro cached
    cases cached <;> simp [Prog.Emits, Call.Issues, Sql.quiet, Sql.writes]
  · refine .bind (by simp [Prog.Emits]) fun userId => ?_
    refine .bind (by simp [Prog.Emits, Call.Issues, Sql.quiet, Sql.writes]) fun _ => ?_
    refine .bind (by simp [Prog.Emits]) fun _ => ?_
    refine .bind (by simp [tokenTenant, Prog.Emits, Call.Issues, Sql.quiet, Sql.writes]) fun tenant => ?_
    refine .bind (by simp [tokenProject, Prog.Emits]) fun project => ?_
    refine .bind ?_ fun _ => .bind (issues_tokenPermissions cr svc _ _ _ _) fun _ => trivial
    cases tenant <;> simp [tokenRoles, Prog.Emits, Call.Issues, Sql.quiet, Sql.writes]

/-! ## Accounts -/

theorem issues_enrollTotp :
    (enrollTotp cr svc md).Emits ((Call.rpc svc md .enrollTotp).Issues cr) := by
  simp only [enrollTotp, Prog.Emits, Prog.along_bind, along_callerUuid, Prog.then_ok,
    Prog.then_error, implies_true, true_and]
  intro uid hcaller
  have hcaller : callerId cr md = some uid := hcaller
  refine emits_then (by simp [Prog.Emits, Call.Issues, Sql.quiet, Sql.writes]) fun _ => ?_
  refine .bind (by simp [Prog.Emits]) fun _ => .bind (by simp [Prog.Emits, Call.Issues]) fun _ => ?_
  refine .bind (by simp [Prog.Emits]) fun _ => .bind (by simp [Prog.Emits, Call.Issues]) fun _ => ?_
  refine .bind (by simp [Prog.Emits, Call.Issues]) fun _ => .bind (by simp [Prog.Emits]) fun _ => ?_
  refine .bind (by simp [Prog.Emits, Call.Issues, Call.MayWrite, Rpc.MayWrite, hcaller]) fun _ => ?_
  refine .bind (by simp [Prog.Emits, Call.Issues, Call.MayWrite, Rpc.MayWrite, hcaller]) fun _ => ?_
  refine .bind (Prog.emits_forEach (fun code => ?_) _) fun _ => ?_
  · simp [Prog.Emits, Call.Issues, Call.MayWrite, Rpc.MayWrite, hcaller]
  · simp [audit, Prog.Emits, Call.Issues, Sql.quiet, Sql.writes]

theorem issues_activateTotp (req : CodeRequest) :
    (activateTotp cr svc md req).Emits ((Call.rpc svc md (.activateTotp req)).Issues cr) := by
  simp +contextual [activateTotp, audit, Prog.Emits, Call.Issues, Sql.quiet, Sql.writes,
    Call.MayWrite, Rpc.MayWrite, callerId]

theorem issues_disableTotp (req : CodeRequest) :
    (disableTotp cr svc md req).Emits ((Call.rpc svc md (.disableTotp req)).Issues cr) := by
  simp only [disableTotp, Prog.Emits, Prog.along_bind, along_callerUuid, Prog.then_ok,
    Prog.then_error, implies_true, true_and]
  intro uid hcaller
  have hcaller : callerId cr md = some uid := hcaller
  refine emits_then (by simp [Prog.Emits, Call.Issues, Sql.quiet, Sql.writes]) fun user => ?_
  split
  · trivial
  · refine .bind (issues_checkCode (k := .rpc svc md (.disableTotp req)) cr ⟨hcaller, rfl⟩ _) fun _ => ?_
    simp [audit, Prog.Emits, Call.Issues, Sql.quiet, Sql.writes, Call.MayWrite, Rpc.MayWrite, hcaller]

theorem issues_createApiKey (req : CreateApiKeyRequest) :
    (createApiKey cr svc md req).Emits ((Call.rpc svc md (.createApiKey req)).Issues cr) := by
  simp only [createApiKey, Prog.Emits, Prog.along_bind, along_callerUuid, Prog.then_ok,
    Prog.then_error, implies_true, true_and]
  intro uid hcaller
  have hcaller : callerId cr md = some uid := hcaller
  refine emits_then (by simp [Prog.Emits]) fun _ => .bind (emits_requireScopes _ _) fun _ => ?_
  refine .bind (by simp [Prog.Emits, Call.Issues]) fun _ => ?_
  refine .bind (by simp [Prog.Emits, Call.Issues]) fun _ => ?_
  refine .bind ?_ fun _ => ?_
  · unfold apiKeyExpiry addSeconds
    simp [Prog.Emits, Call.Issues]
  · simp +contextual [audit, Prog.Emits, Call.Issues, Sql.quiet, Sql.writes, Call.MayWrite,
      Rpc.MayWrite, hcaller]

theorem issues_revokeApiKey (req : RevokeApiKeyRequest) :
    (revokeApiKey cr svc md req).Emits ((Call.rpc svc md (.revokeApiKey req)).Issues cr) := by
  simp +contextual [revokeApiKey, audit, Prog.Emits, Call.Issues, Sql.quiet, Sql.writes,
    Call.MayWrite, Rpc.MayWrite, callerId]

theorem issues_validateApiKey (req : ValidateApiKeyRequest) :
    (validateApiKey cr req).Emits ((Call.rpc svc md (.validateApiKey req)).Issues cr) := by
  refine .bind (by simp [Prog.Emits, Call.Issues, Sql.quiet, Sql.writes]) fun _ => ?_
  refine .bind (by simp [Prog.Emits]) fun row => .bind (by simp [Prog.Emits]) fun _ => ?_
  refine .bind ?_ fun _ => ?_
  · unfold refuseIfExpired
    cases row.expiresAt <;> simp [Prog.Emits, Call.Issues]
  · simp [Prog.Emits, Call.Issues, Sql.quiet, Sql.writes, Call.MayWrite, Rpc.MayWrite]

theorem issues_deleteUser (req : DeleteUserRequest) :
    (deleteUser cr svc md req).Emits ((Call.rpc svc md (.deleteUser req)).Issues cr) := by
  simp +contextual [deleteUser, audit, Prog.Emits, Call.Issues, Sql.quiet, Sql.writes,
    Call.MayWrite, Rpc.MayWrite]

theorem issues_restoreUser (req : RestoreUserRequest) :
    (restoreUser cr svc md req).Emits ((Call.rpc svc md (.restoreUser req)).Issues cr) := by
  simp +contextual [restoreUser, audit, Prog.Emits, Call.Issues, Sql.quiet, Sql.writes,
    Call.MayWrite, Rpc.MayWrite]

theorem issues_requestToken {k : Call} (email : String) (lifetimeSecs : Int)
    {store : String → Uuid → DateTime → Sql} (failed : Failure) (action : String)
    (hstore : ∀ h u t, k.MayWrite cr (store h u t)) :
    (requestToken cr svc email lifetimeSecs store failed action).Emits (k.Issues cr) := by
  refine .bind (by simp [Prog.Emits, Call.Issues, Sql.quiet, Sql.writes]) ?_
  intro reply
  cases reply with
  | error e => trivial
  | ok found =>
    cases found with
    | none => trivial
    | some user => simp [Prog.Emits, Call.Issues, Sql.quiet, Sql.writes, hstore]

theorem issues_verifyEmail (req : TokenRequest) :
    (verifyEmail cr svc req).Emits ((Call.rpc svc md (.verifyEmail req)).Issues cr) := by
  simp +contextual [verifyEmail, Prog.Emits, Call.Issues, Sql.quiet, Sql.writes, Call.MayWrite,
    Rpc.MayWrite]

theorem issues_resetPassword (req : ResetPasswordRequest) :
    (resetPassword cr svc req).Emits ((Call.rpc svc md (.resetPassword req)).Issues cr) := by
  simp +contextual [resetPassword, storePassword, Prog.Emits, Call.Issues, Sql.quiet, Sql.writes,
    Call.MayWrite, Rpc.MayWrite]

theorem issues_changePassword (req : ChangePasswordRequest) :
    (changePassword cr svc md req).Emits ((Call.rpc svc md (.changePassword req)).Issues cr) := by
  simp +contextual [changePassword, storePassword, Prog.Emits, Call.Issues, Sql.quiet,
    Sql.writes, Call.MayWrite, Rpc.MayWrite, callerId]

theorem issues_createAuthorizationCode (req : CreateAuthorizationCodeRequest) :
    (createAuthorizationCode cr req).Emits ((Call.rpc svc md (.createAuthorizationCode req)).Issues cr) := by
  simp +contextual [createAuthorizationCode, Prog.Emits, Call.Issues, Sql.quiet, Sql.writes,
    Call.MayWrite, Rpc.MayWrite]

theorem issues_saveConsent (req : SaveConsentRequest) :
    (saveConsent cr req).Emits ((Call.rpc svc md (.saveConsent req)).Issues cr) := by
  simp +contextual [saveConsent, Prog.Emits, Call.Issues, Sql.quiet, Sql.writes, Call.MayWrite,
    Rpc.MayWrite]

theorem issues_exchangeAuthorizationCode (req : ExchangeRequest) :
    (exchangeAuthorizationCode cr svc req).Emits
      ((Call.rpc svc md (.exchangeAuthorizationCode req)).Issues cr) := by
  refine .bind (by simp [Prog.Emits, Call.Issues, Sql.quiet, Sql.writes]) fun _ => ?_
  refine .bind (by simp [Prog.Emits]) fun out => .bind (by simp [Prog.Emits]) fun _ => ?_
  refine .bind (.bind (by simp [Prog.Emits, Call.Issues, Call.MayWrite, Rpc.MayWrite]) ?_) ?_
  · intro reply
    cases reply <;> trivial
  · intro claimed
    refine .bind (by simp [Prog.Emits]) fun _ => .bind (by simp [Prog.Emits]) fun _ => ?_
    refine .bind ?_ fun _ => ?_
    · simp [authenticateClient, Prog.Emits, Call.Issues, Sql.quiet, Sql.writes]
    · simp [issueForCode, issueTokens, Prog.Emits, Call.Issues, Sql.quiet, Sql.writes,
        Call.MayWrite, Rpc.MayWrite]

theorem issues_registerClient (req : RegisterClientRequest) :
    (registerClient cr md req).Emits ((Call.rpc svc md (.registerClient req)).Issues cr) := by
  simp +contextual [registerClient, newClientSecret, Prog.Emits, Call.Issues, Sql.quiet,
    Sql.writes, Call.MayWrite, Rpc.MayWrite]

theorem issues_createTenant (req : CreateTenantRequest) :
    (createTenant cr svc md req).Emits ((Call.rpc svc md (.createTenant req)).Issues cr) := by
  simp +contextual [createTenant, Prog.Emits, Call.Issues, Sql.quiet, Sql.writes, Call.MayWrite,
    Rpc.MayWrite, callerId]

theorem issues_createProject (req : CreateProjectRequest) :
    (createProject cr md req).Emits ((Call.rpc svc md (.createProject req)).Issues cr) := by
  simp +contextual [createProject, Prog.Emits, Call.Issues, Sql.quiet, Sql.writes, Call.MayWrite,
    Rpc.MayWrite]

theorem issues_addMember (req : EmailRequest) :
    (addMember cr svc md req).Emits ((Call.rpc svc md (.addMember req)).Issues cr) := by
  simp +contextual [addMember, Prog.Emits, Call.Issues, Sql.quiet, Sql.writes, Call.MayWrite,
    Rpc.MayWrite]

theorem issues_removeMember (req : UserIdRequest) :
    (removeMember cr svc md req).Emits ((Call.rpc svc md (.removeMember req)).Issues cr) := by
  simp +contextual [removeMember, Prog.Emits, Call.Issues, Sql.quiet, Sql.writes, Call.MayWrite,
    Rpc.MayWrite]

theorem issues_createRole (req : RoleRequest) :
    (createRole cr svc md req).Emits ((Call.rpc svc md (.createRole req)).Issues cr) := by
  simp +contextual [createRole, audit, Prog.Emits, Call.Issues, Sql.quiet, Sql.writes,
    Call.MayWrite, Rpc.MayWrite]

theorem issues_updateRole (req : RoleRequest) :
    (updateRole cr md req).Emits ((Call.rpc svc md (.updateRole req)).Issues cr) := by
  simp +contextual [updateRole, Prog.Emits, Call.Issues, Sql.quiet, Sql.writes, Call.MayWrite,
    Rpc.MayWrite]

theorem issues_deleteRole (req : DeleteRoleRequest) :
    (deleteRole cr svc md req).Emits ((Call.rpc svc md (.deleteRole req)).Issues cr) := by
  simp +contextual [deleteRole, audit, Prog.Emits, Call.Issues, Sql.quiet, Sql.writes,
    Call.MayWrite, Rpc.MayWrite]

theorem issues_validateAssign {k : Call} (roleName projectId : String) (tenant : Uuid) :
    (validateAssign cr roleName projectId tenant).Emits (k.Issues cr) := by
  refine .bind (by simp [Prog.Emits, Call.Issues, Sql.quiet, Sql.writes]) fun _ => ?_
  refine .bind (by simp [Prog.Emits]) fun _ => .bind (by simp [Prog.Emits]) ?_
  intro project
  cases project <;> simp [Prog.Emits, Call.Issues, Sql.quiet, Sql.writes]

theorem issues_assignRole (req : AssignRoleRequest) :
    (assignRole cr svc md req).Emits ((Call.rpc svc md (.assignRole req)).Issues cr) := by
  simp only [assignRole, Prog.Emits, Prog.along_bind, along_requirePerm, along_activeTenant,
    along_parseUserId, Prog.then_ok, Prog.then_error, implies_true, true_and]
  intro hperm tenant htenant userId huser
  refine emits_then (issues_validateAssign cr _ _ _) fun _ => ?_
  refine .bind (by simp [Prog.Emits, Call.Issues, Call.MayWrite, Rpc.MayWrite, hperm, htenant, huser])
    fun _ => ?_
  refine .bind (emits_invalidatePerms (fun _ _ => trivial) (fun _ => trivial) svc _) fun _ => ?_
  simp [audit, Prog.Emits, Call.Issues, Sql.quiet, Sql.writes]

theorem issues_assignRoleBulk (req : AssignRoleBulkRequest) :
    (assignRoleBulk cr svc md req).Emits ((Call.rpc svc md (.assignRoleBulk req)).Issues cr) := by
  simp only [assignRoleBulk, Prog.Emits, Prog.along_bind, along_requirePerm, along_activeTenant,
    Prog.then_ok, Prog.then_error, implies_true, true_and]
  intro hperm tenant htenant
  refine emits_then (issues_validateAssign cr _ _ _) fun _ => ?_
  refine .bind (emits_assignEach (fun _ _ => trivial) (fun _ => trivial) cr svc
    (fun _ => .inr ⟨hperm, htenant, rfl⟩) _) fun _ => ?_
  simp [audit, Prog.Emits, Call.Issues, Sql.quiet, Sql.writes]

theorem issues_revokeRole (req : AssignRoleRequest) :
    (revokeRole cr svc md req).Emits ((Call.rpc svc md (.revokeRole req)).Issues cr) := by
  simp only [revokeRole, Prog.Emits, Prog.along_bind, along_requirePerm, along_activeTenant,
    along_parseUserId, Prog.then_ok, Prog.then_error, implies_true, true_and]
  intro hperm tenant htenant userId huser
  refine emits_then (by simp [Prog.Emits, Call.Issues, Sql.quiet, Sql.writes]) fun _ => ?_
  refine .bind (by simp [Prog.Emits]) fun _ => .bind (by simp [Prog.Emits]) fun _ => ?_
  refine .bind (by simp [Prog.Emits, Call.Issues, Call.MayWrite, Rpc.MayWrite, hperm, htenant, huser])
    fun _ => ?_
  refine .bind (emits_invalidatePerms (fun _ _ => trivial) (fun _ => trivial) svc _) fun _ => ?_
  simp [audit, Prog.Emits, Call.Issues, Sql.quiet, Sql.writes]

theorem issues_grantPermission (req : PermissionRequest) :
    (grantPermission cr svc md req).Emits ((Call.rpc svc md (.grantPermission req)).Issues cr) := by
  simp +contextual [grantPermission, permRoleGuard, audit, Prog.Emits, Call.Issues, Sql.quiet,
    Sql.writes, Call.MayWrite, Rpc.MayWrite]

theorem issues_revokePermission (req : PermissionRequest) :
    (revokePermission cr svc md req).Emits ((Call.rpc svc md (.revokePermission req)).Issues cr) := by
  simp +contextual [revokePermission, permRoleGuard, audit, Prog.Emits, Call.Issues, Sql.quiet,
    Sql.writes, Call.MayWrite, Rpc.MayWrite]

/-! ## Every call -/

theorem issues_bootstrapUser {k : Call} {email role : String} (pass : String)
    (hcreate : ∀ hash, k.MayWrite cr (.createUserWithRole email hash role))
    (hmember : ∀ u, k.MayWrite cr (.createMembership u defaultTenantId)) :
    (bootstrapUser email pass role).Emits (k.Issues cr) := by
  unfold bootstrapUser
  split
  · trivial
  · refine .bind (by simp [Prog.Emits, Call.Issues, Sql.quiet, Sql.writes]) ?_
    intro found
    cases found with
    | none => simp [Prog.Emits, Call.Issues, hcreate, hmember]
    | some user => trivial

theorem issues_start (env : BootstrapEnv) :
    (bootstrap cr env).Emits ((Call.start env).Issues cr) := by
  refine .bind (issues_bootstrapUser (k := .start env) cr _ (fun _ => .inl ⟨rfl, rfl⟩) fun _ => rfl)
    fun _ => ?_
  refine .bind (by simp [bootstrapOidcClient, Prog.Emits, Call.Issues, Call.MayWrite]) fun _ => ?_
  exact issues_bootstrapUser (k := .start env) cr _ (fun _ => .inr ⟨rfl, rfl⟩) fun _ => rfl

theorem issues_profileCreationFailed {k : Call} (userId reason : String) :
    (profileCreationFailed cr userId reason).Emits (k.Issues cr) := by
  unfold profileCreationFailed
  cases cr.parseUuid userId <;> simp [Prog.Emits, Call.Issues, Sql.quiet, Sql.writes]

/-- Every statement of a call is quiet or in the table. -/
theorem issues_body (k : Call) : (k.body cr).Emits (k.Issues cr) := by
  cases k with
  | start env => exact .bind (issues_start cr env) fun _ => trivial
  | profileCreationFailed userId reason =>
    exact .bind (issues_profileCreationFailed cr userId reason) fun _ => trivial
  | rpc svc md r =>
    cases r
    case register req => exact .bind (issues_register cr svc md req) fun _ => trivial
    case login req => exact .bind (issues_login cr svc md req) fun _ => trivial
    case loginTotp req => exact .bind (issues_loginTotp cr svc md req) fun _ => trivial
    case refresh req => exact .bind (issues_refresh cr svc md req) fun _ => trivial
    case logout req => exact .bind (issues_logout cr svc md req) fun _ => trivial
    case validateToken req => exact .bind (issues_validateToken cr svc req) fun _ => trivial
    case switchTenant req => exact .bind (issues_switchTenant cr svc md req) fun _ => trivial
    case enrollTotp => exact .bind (issues_enrollTotp cr svc md) fun _ => trivial
    case activateTotp req => exact .bind (issues_activateTotp cr svc md req) fun _ => trivial
    case disableTotp req => exact .bind (issues_disableTotp cr svc md req) fun _ => trivial
    case createApiKey req => exact .bind (issues_createApiKey cr svc md req) fun _ => trivial
    case revokeApiKey req => exact .bind (issues_revokeApiKey cr svc md req) fun _ => trivial
    case validateApiKey req => exact .bind (issues_validateApiKey cr svc md req) fun _ => trivial
    case deleteUser req => exact .bind (issues_deleteUser cr svc md req) fun _ => trivial
    case restoreUser req => exact .bind (issues_restoreUser cr svc md req) fun _ => trivial
    case requestEmailVerification req =>
      exact .bind (issues_requestToken cr svc _ _ _ _ fun _ _ _ => trivial) fun _ => trivial
    case requestPasswordReset req =>
      exact .bind (issues_requestToken cr svc _ _ _ _ fun _ _ _ => trivial) fun _ => trivial
    case verifyEmail req => exact .bind (issues_verifyEmail cr svc md req) fun _ => trivial
    case resetPassword req => exact .bind (issues_resetPassword cr svc md req) fun _ => trivial
    case changePassword req => exact .bind (issues_changePassword cr svc md req) fun _ => trivial
    case createAuthorizationCode req =>
      exact .bind (issues_createAuthorizationCode cr svc md req) fun _ => trivial
    case saveConsent req => exact .bind (issues_saveConsent cr svc md req) fun _ => trivial
    case exchangeAuthorizationCode req =>
      exact .bind (issues_exchangeAuthorizationCode cr svc md req) fun _ => trivial
    case registerClient req => exact .bind (issues_registerClient cr svc md req) fun _ => trivial
    case createTenant req => exact .bind (issues_createTenant cr svc md req) fun _ => trivial
    case createProject req => exact .bind (issues_createProject cr svc md req) fun _ => trivial
    case addMember req => exact .bind (issues_addMember cr svc md req) fun _ => trivial
    case removeMember req => exact .bind (issues_removeMember cr svc md req) fun _ => trivial
    case createRole req => exact .bind (issues_createRole cr svc md req) fun _ => trivial
    case updateRole req => exact .bind (issues_updateRole cr svc md req) fun _ => trivial
    case deleteRole req => exact .bind (issues_deleteRole cr svc md req) fun _ => trivial
    case assignRole req => exact .bind (issues_assignRole cr svc md req) fun _ => trivial
    case assignRoleBulk req => exact .bind (issues_assignRoleBulk cr svc md req) fun _ => trivial
    case revokeRole req => exact .bind (issues_revokeRole cr svc md req) fun _ => trivial
    case grantPermission req => exact .bind (issues_grantPermission cr svc md req) fun _ => trivial
    case revokePermission req => exact .bind (issues_revokePermission cr svc md req) fun _ => trivial
    -- The others only read.
    all_goals
      simp [Call.body, Rpc.handle, listMyMemberships, getTotpStatus, listApiKeys, getClient,
        getConsent, listTenants, listProjects, listMembers, listRoles, getUserRoleAssignments,
        listPermissions, listAuditEvents, Prog.Emits, Call.Issues, Sql.quiet, Sql.writes]

end

/-- A statement that is about to be issued is one of its call. -/
theorem pending_issues {cr : Crates} {conn : DbRole} {st : State} {ls : List Act} {i : Nat} {o : Op}
    (hp : (runFrom cr conn st ls).pending i = some o) (c : Choice) :
    ∃ k, (runFrom cr conn st ls).callOf i = some k ∧ k.Issues cr o := by
  have ht : Pool.Tracks (fun k => Monitor.emitting (k.Issues cr)) (fun _ _ _ => True)
      (fun _ => ()) (runFrom cr conn st ls) := Pool.tracks_run (issues_body cr) st ls
  exact ht.pending hp ((machine cr conn).exec o c (runFrom cr conn st ls).state).1

end IamAuth
