import IamAuth.Along

/-!
# What every statement of the service satisfies

`Issued` bounds the names under which roles are created and the names by which
new users get their role. Every call of the service issues only such statements.
`Unrotated`, `Unbound` and `Plain` are narrower, for the calls that issue no
more than these.
-/

set_option autoImplicit false

namespace IamAuth

open Interleave

/-- No created role is named like a reserved template, and a new user gets its
role by one of the template names. -/
def Issued : Op → Prop
  | .sql (.createRole name _ _) => isBuiltinRole name = false
  | .sql (.createUserWithRole _ _ role) => role = "admin" ∨ role = "viewer"
  | .sql (.createUserWithRoleEvent _ _ _ role _ _) => role = defaultRole
  | _ => True

/-- The same, and no refresh token is rotated. -/
def Unrotated : Op → Prop
  | .sql (.rotateRefreshToken ..) => False
  | o => Issued o

/-- The same, and no token, key or assignment names a project. -/
def Unbound : Op → Prop
  | .sql (.createRefreshToken _ _ _ _ projectId) => projectId = none
  | .sql (.assignRole ..) => False
  | .sql (.createApiKey ..) => False
  | .sys (.jwtIssue _ _ _ projectId) => projectId = ""
  | o => Unrotated o

/-- No user, role or assignment is created, and no token or key issued. -/
def Plain : Op → Prop
  | .sql (.createUserWithRole ..) => False
  | .sql (.createUserWithRoleEvent ..) => False
  | .sql (.createRole ..) => False
  | .sql (.assignRole ..) => False
  | .sql (.createRefreshToken ..) => False
  | .sql (.rotateRefreshToken ..) => False
  | .sql (.createApiKey ..) => False
  | .sys (.jwtIssue ..) => False
  | .sys (.jwtIssueMfa ..) => False
  | .sys (.jwtIssueIdToken ..) => False
  | _ => True

attribute [local simp] Issued Unrotated Unbound Plain

theorem Unrotated.issued (o : Op) (h : Unrotated o) : Issued o := by
  cases o with
  | sql s => cases s <;> first | exact h.elim | exact h
  | redis c => trivial
  | sys s => trivial

theorem Unbound.unrotated (o : Op) (h : Unbound o) : Unrotated o := by
  cases o with
  | sql s => cases s <;> first | exact h.elim | exact h | trivial
  | redis c => trivial
  | sys s => trivial

theorem Plain.unbound (o : Op) (h : Plain o) : Unbound o := by
  cases o with
  | sql s => cases s <;> first | exact h.elim | trivial
  | redis c => trivial
  | sys s => cases s <;> first | exact h.elim | trivial

theorem Plain.unrotated (o : Op) (h : Plain o) : Unrotated o := (h.unbound o).unrotated o

theorem Plain.issued (o : Op) (h : Plain o) : Issued o := (h.unrotated o).issued o

theorem SignIn.unrotated (o : Op) (h : SignIn o) : Unrotated o := by
  cases o with
  | sql s => cases s <;> first | exact h.elim | trivial
  | redis c => trivial
  | sys s => trivial

theorem Check.plain (o : Op) (h : Check o) : Plain o := by
  cases o with
  | sql s => cases s <;> first | exact h.elim | trivial
  | redis c => trivial
  | sys s => cases s <;> first | exact h.elim | trivial

theorem Check.unbound (o : Op) (h : Check o) : Unbound o := (h.plain o).unbound o

section

variable (cr : Crates) (svc : AuthSvc) (md : MetadataMap)

/-! ## Sessions -/

theorem unbound_register (req : RegisterRequest) : (register cr svc req).Emits Unbound := by
  simp [register, Prog.Emits, Unbound, Unrotated, Issued]

theorem unbound_issueTokens (userId : Uuid) (email : String) (tenantId : Uuid) :
    (issueTokens cr svc userId email tenantId none).Emits Unbound := by
  simp [issueTokens, Prog.Emits, Unbound, Unrotated, Issued]

theorem unbound_issueForActiveTenant (userId : Uuid) (email : String) :
    (issueForActiveTenant cr svc userId email).Emits Unbound :=
  .bind (by simp [Prog.Emits, Unbound, Unrotated, Issued]) fun _ =>
    unbound_issueTokens cr svc _ _ _

theorem unbound_login (req : LoginRequest) : (login cr svc req).Emits Unbound := by
  refine .bind (by simp [Prog.Emits, Unbound, Unrotated, Issued]) ?_
  rintro (_ | user)
  · simp [Prog.Emits, Unbound, Unrotated, Issued]
  · refine .bind ((check_refuseIfLocked user).imp Check.unbound) fun _ => ?_
    refine .bind (by simp [Prog.Emits, Unbound, Unrotated, Issued]) fun ok => ?_
    split
    · refine .bind ((check_countFailure cr svc _ _ _).imp Check.unbound) fun _ => ?_
      simp [Prog.Emits, Unbound, Unrotated, Issued]
    · refine .bind (by simp [Prog.Emits]) fun _ => ?_
      refine .bind (by simp [Prog.Emits]) fun _ => ?_
      refine .bind (by simp [Prog.Emits, Unbound, Unrotated, Issued]) fun _ => ?_
      split
      · simp [Prog.Emits, Unbound, Unrotated, Issued]
      · refine .bind (by simp [Prog.Emits, Unbound, Unrotated, Issued]) fun _ => ?_
        exact unbound_issueForActiveTenant cr svc _ _

theorem issued_reissue (row : RefreshTokenRow) : (reissue cr svc row).Emits Issued := by
  refine .bind (by simp [Prog.Emits, Issued]) fun _ => ?_
  exact .bind (by simp [Prog.Emits]) fun _ => (signIn_issueTokens cr svc _ _ _ _).imp fun o h => (h.unrotated o).issued o

theorem plain_wipeFamily (row : RefreshTokenRow) : (wipeFamily cr svc row).Emits Plain := by
  simp [wipeFamily, Prog.Emits, Plain]

theorem issued_refresh (req : RefreshRequest) : (refresh cr svc req).Emits Issued := by
  refine .bind (by simp [Prog.Emits, Issued]) fun _ => ?_
  refine .bind (by simp [Prog.Emits]) fun row => ?_
  cases row.revokedAt with
  | none =>
    refine .bind (by simp [Prog.Emits, Issued]) fun _ => .bind (by simp [Prog.Emits]) fun _ => ?_
    exact .bind (issued_reissue cr svc row) fun _ => by simp [Prog.Emits, Issued]
  | some revokedAt =>
    dsimp only
    split
    · refine .bind (by simp [Prog.Emits, Issued]) fun _ => ?_
      split
      · exact issued_reissue cr svc row
      · exact (plain_wipeFamily cr svc row).imp Plain.issued
    · exact (plain_wipeFamily cr svc row).imp Plain.issued

theorem plain_deny (jti : String) (ttl : Int) : (deny svc jti ttl).Emits Plain := by
  simp [deny, Prog.Emits, Plain]

theorem plain_denyAccessToken (token : String) : (denyAccessToken svc token).Emits Plain := by
  unfold denyAccessToken
  split
  · trivial
  · refine .bind (by simp [Prog.Emits, Plain]) ?_
    rintro (_ | claims)
    · trivial
    · refine .bind ?_ fun _ => .bind (by simp [Prog.Emits, Plain]) fun _ => plain_deny svc _ _
      unfold recordRevoked
      cases fromTimestamp claims.exp <;> simp [Prog.Emits, Plain]

theorem plain_logout (req : LogoutRequest) : (logout cr svc md req).Emits Plain := by
  refine .bind (by simp [Prog.Emits, Plain]) fun _ => ?_
  refine .bind (plain_denyAccessToken svc _) fun _ => ?_
  simp [audit, Prog.Emits, Plain]

theorem plain_tokenPermissions (claims : Claims) (userId : Uuid) (tenant project : Option Uuid) :
    (tokenPermissions cr svc claims userId tenant project).Emits Plain := by
  refine .bind ?_ ?_
  · unfold getPerms
    split
    · refine .bind (by simp [Prog.Emits, Plain]) ?_
      rintro (_ | _ | v) <;> trivial
    · trivial
  · rintro (_ | p)
    · refine .bind (by cases tenant <;> simp [loadPermissions, Prog.Emits, Plain]) fun _ => ?_
      simp [setPerms, Prog.Emits, Plain]
    · trivial

theorem plain_refuseIfDenied (jti : String) : (refuseIfDenied svc jti).Emits Plain := by
  refine .bind (by simp [isDenied, Prog.Emits, Plain]) ?_
  rintro (_ | d) <;> simp [Prog.Emits, Plain]

theorem plain_tokenTenant (userId : Uuid) (claims : Claims) :
    (tokenTenant cr userId claims).Emits Plain := by
  simp [tokenTenant, Prog.Emits, Plain]

theorem plain_tokenRoles (userId : Uuid) (tenant project : Option Uuid) :
    (tokenRoles userId tenant project).Emits Plain := by
  cases tenant <;> simp [tokenRoles, Prog.Emits, Plain]

theorem plain_validateToken (req : ValidateTokenRequest) :
    (validateToken cr svc req).Emits Plain := by
  refine .bind (by simp [Prog.Emits, Plain]) fun _ => .bind (by simp [Prog.Emits]) fun claims => ?_
  refine .bind (plain_refuseIfDenied svc _) fun _ => .bind (by simp [Prog.Emits]) fun userId => ?_
  refine .bind (by simp [Prog.Emits, Plain]) fun _ => .bind (by simp [Prog.Emits]) fun _ => ?_
  refine .bind (plain_tokenTenant cr _ _) fun tenant => ?_
  refine .bind (by simp [tokenProject, Prog.Emits]) fun project => ?_
  refine .bind (plain_tokenRoles _ _ _) fun _ => ?_
  exact .bind (plain_tokenPermissions cr svc _ _ _ _) fun _ => trivial

theorem plain_listMyMemberships : (listMyMemberships cr md).Emits Plain := by
  simp [listMyMemberships, Prog.Emits, Plain]

theorem unrotated_switchTenant (req : SwitchTenantRequest) :
    (switchTenant cr svc md req).Emits Unrotated := by
  refine .bind (by simp [Prog.Emits]) fun _ => .bind (by simp [Prog.Emits]) fun _ => ?_
  refine .bind (by simp [Prog.Emits, Unrotated, Issued]) fun _ => .bind (by simp [Prog.Emits]) fun _ => ?_
  refine .bind (.bind (by simp [Prog.Emits]) ?_) fun _ => ?_
  · rintro (_ | pid)
    · trivial
    · simp [Prog.Emits, Unrotated, Issued]
  · refine .bind (by simp [Prog.Emits, Unrotated, Issued]) fun _ => .bind (by simp [Prog.Emits]) fun _ => ?_
    exact (signIn_issueTokens cr svc _ _ _ _).imp SignIn.unrotated

/-! ## The account of the caller -/

theorem plain_enrollTotp : (enrollTotp cr svc md).Emits Plain := by
  refine .bind (by simp [Prog.Emits]) fun uid => .bind (by simp [Prog.Emits, Plain]) fun _ => ?_
  refine .bind (by simp [Prog.Emits]) fun _ => .bind (by simp [Prog.Emits, Plain]) fun _ => ?_
  refine .bind (by simp [Prog.Emits]) fun _ => .bind (by simp [Prog.Emits, Plain]) fun _ => ?_
  refine .bind (by simp [Prog.Emits, Plain]) fun _ => .bind (by simp [Prog.Emits]) fun _ => ?_
  refine .bind (by simp [Prog.Emits, Plain]) fun _ => .bind (by simp [Prog.Emits, Plain]) fun _ => ?_
  refine .bind (Prog.emits_forEach (fun code => ?_) _) fun _ => ?_
  · simp [Prog.Emits, Plain]
  · simp [audit, Prog.Emits, Plain]

theorem plain_getTotpStatus : (getTotpStatus cr md).Emits Plain := by
  simp [getTotpStatus, Prog.Emits, Plain]

theorem plain_activateTotp (req : CodeRequest) : (activateTotp cr svc md req).Emits Plain := by
  simp [activateTotp, audit, Prog.Emits, Plain]

theorem plain_disableTotp (req : CodeRequest) : (disableTotp cr svc md req).Emits Plain := by
  refine .bind (by simp [Prog.Emits]) fun uid => .bind (by simp [Prog.Emits, Plain]) fun user => ?_
  split
  · trivial
  · refine .bind ((check_checkCode cr _ _ _).imp Check.plain) fun _ => ?_
    simp [audit, Prog.Emits, Plain]

theorem unbound_loginTotp (req : LoginTotpRequest) : (loginTotp cr svc req).Emits Unbound := by
  refine .bind (by simp [Prog.Emits, Unbound, Unrotated, Issued]) fun _ => .bind (by simp [Prog.Emits]) fun _ => ?_
  refine .bind (by simp [Prog.Emits]) fun _ => .bind (by simp [Prog.Emits]) fun uid => ?_
  refine .bind (by simp [Prog.Emits, Unbound, Unrotated, Issued]) fun _ => .bind (by simp [Prog.Emits]) fun user => ?_
  refine .bind ((check_refuseIfLocked user).imp Check.unbound) fun _ => ?_
  refine .bind ((check_checkCode cr _ _ _).imp Check.unbound) fun ok => ?_
  split
  · refine .bind ((check_countFailure cr svc _ _ _).imp Check.unbound) fun _ => ?_
    simp [Prog.Emits, Unbound, Unrotated, Issued]
  · refine .bind (by simp [Prog.Emits, Unbound, Unrotated, Issued]) fun _ => ?_
    refine .bind (by simp [Prog.Emits, Unbound, Unrotated, Issued]) fun _ => ?_
    exact unbound_issueForActiveTenant cr svc _ _

theorem unrotated_createApiKey (req : CreateApiKeyRequest) :
    (createApiKey cr svc md req).Emits Unrotated := by
  refine .bind (by simp [Prog.Emits]) fun _ => .bind (by simp [Prog.Emits]) fun _ => ?_
  refine .bind (emits_requireScopes _ _) fun _ => ?_
  refine .bind (by simp [Prog.Emits, Unrotated, Issued]) fun _ => .bind (by simp [Prog.Emits, Unrotated, Issued]) fun _ => ?_
  refine .bind ?_ fun _ => by simp [audit, Prog.Emits, Unrotated, Issued]
  unfold apiKeyExpiry addSeconds
  simp [Prog.Emits, Unrotated, Issued]

theorem plain_listApiKeys : (listApiKeys cr md).Emits Plain := by
  simp [listApiKeys, Prog.Emits, Plain]

theorem plain_revokeApiKey (req : RevokeApiKeyRequest) :
    (revokeApiKey cr svc md req).Emits Plain := by
  simp [revokeApiKey, audit, Prog.Emits, Plain]

theorem plain_validateApiKey (req : ValidateApiKeyRequest) :
    (validateApiKey cr req).Emits Plain := by
  refine .bind (by simp [Prog.Emits, Plain]) fun _ => .bind (by simp [Prog.Emits]) fun row => ?_
  refine .bind (by simp [Prog.Emits]) fun _ => .bind ?_ fun _ => by simp [Prog.Emits, Plain]
  unfold refuseIfExpired
  cases row.expiresAt <;> simp [Prog.Emits, Plain]

theorem plain_deleteUser (req : DeleteUserRequest) : (deleteUser cr svc md req).Emits Plain := by
  simp [deleteUser, audit, Prog.Emits, Plain]

theorem plain_restoreUser (req : RestoreUserRequest) :
    (restoreUser cr svc md req).Emits Plain := by
  simp [restoreUser, audit, Prog.Emits, Plain]

theorem plain_requestEmailVerification (req : EmailRequest) :
    (requestEmailVerification cr svc req).Emits Plain := by
  refine .bind (by simp [Prog.Emits, Plain]) ?_
  rintro (_ | _ | user) <;> simp [Prog.Emits, Plain]

theorem plain_requestPasswordReset (req : EmailRequest) :
    (requestPasswordReset cr svc req).Emits Plain := by
  refine .bind (by simp [Prog.Emits, Plain]) ?_
  rintro (_ | _ | user) <;> simp [Prog.Emits, Plain]

theorem plain_verifyEmail (req : TokenRequest) : (verifyEmail cr svc req).Emits Plain := by
  simp [verifyEmail, Prog.Emits, Plain]

theorem plain_storePassword (uid : Uuid) (newPassword : String) :
    (storePassword uid newPassword).Emits Plain := by
  simp [storePassword, Prog.Emits, Plain]

theorem plain_resetPassword (req : ResetPasswordRequest) :
    (resetPassword cr svc req).Emits Plain := by
  refine .bind (by simp [Prog.Emits]) fun _ => .bind (by simp [Prog.Emits, Plain]) fun _ => ?_
  refine .bind (by simp [Prog.Emits]) fun uid => .bind (plain_storePassword _ _) fun _ => ?_
  simp [Prog.Emits, Plain]

theorem plain_changePassword (req : ChangePasswordRequest) :
    (changePassword cr svc md req).Emits Plain := by
  refine .bind (by simp [Prog.Emits]) fun _ => .bind (by simp [Prog.Emits]) fun _ => ?_
  refine .bind (by simp [Prog.Emits, Plain]) fun _ => .bind (by simp [Prog.Emits, Plain]) fun _ => ?_
  refine .bind (by simp [Prog.Emits]) fun _ => .bind (plain_storePassword _ _) fun _ => ?_
  simp [Prog.Emits, Plain]

/-! ## OAuth -/

theorem plain_getClient (req : ClientRequest) : (getClient req).Emits Plain := by
  simp [getClient, Prog.Emits, Plain]

theorem plain_createAuthorizationCode (req : CreateAuthorizationCodeRequest) :
    (createAuthorizationCode cr req).Emits Plain := by
  simp [createAuthorizationCode, Prog.Emits, Plain]

theorem plain_getConsent (req : GetConsentRequest) : (getConsent cr req).Emits Plain := by
  simp [getConsent, Prog.Emits, Plain]

theorem plain_saveConsent (req : SaveConsentRequest) : (saveConsent cr req).Emits Plain := by
  simp [saveConsent, Prog.Emits, Plain]

theorem unbound_exchangeAuthorizationCode (req : ExchangeRequest) :
    (exchangeAuthorizationCode cr svc req).Emits Unbound := by
  refine .bind (by simp [Prog.Emits, Unbound, Unrotated, Issued]) fun _ => .bind (by simp [Prog.Emits]) fun out => ?_
  refine .bind (by simp [Prog.Emits]) fun _ => .bind (.bind (by simp [Prog.Emits, Unbound, Unrotated, Issued]) ?_) ?_
  · rintro (_ | n) <;> trivial
  · intro claimed
    refine .bind (by simp [Prog.Emits]) fun _ => .bind (by simp [Prog.Emits]) fun _ => ?_
    refine .bind (by simp [authenticateClient, Prog.Emits, Unbound, Unrotated, Issued]) fun _ => ?_
    simp [issueForCode, issueTokens, Prog.Emits, Unbound, Unrotated, Issued]

theorem plain_registerClient (req : RegisterClientRequest) :
    (registerClient cr md req).Emits Plain := by
  simp [registerClient, newClientSecret, Prog.Emits, Plain]

/-! ## Administration -/

theorem plain_createTenant (req : CreateTenantRequest) :
    (createTenant cr svc md req).Emits Plain := by
  simp [createTenant, Prog.Emits, Plain]

theorem plain_listTenants : (listTenants cr md).Emits Plain := by
  simp [listTenants, Prog.Emits, Plain]

theorem plain_createProject (req : CreateProjectRequest) :
    (createProject cr md req).Emits Plain := by
  simp [createProject, Prog.Emits, Plain]

theorem plain_listProjects : (listProjects cr md).Emits Plain := by
  simp [listProjects, Prog.Emits, Plain]

theorem plain_addMember (req : EmailRequest) : (addMember cr svc md req).Emits Plain := by
  simp [addMember, Prog.Emits, Plain]

theorem plain_removeMember (req : UserIdRequest) : (removeMember cr svc md req).Emits Plain := by
  simp [removeMember, Prog.Emits, Plain]

theorem plain_listMembers : (listMembers cr md).Emits Plain := by
  simp [listMembers, Prog.Emits, Plain]

theorem unbound_createRole (req : RoleRequest) : (createRole cr svc md req).Emits Unbound := by
  simp +contextual [createRole, audit, Prog.Emits, Unbound, Unrotated, Issued]

theorem plain_updateRole (req : RoleRequest) : (updateRole cr md req).Emits Plain := by
  simp [updateRole, Prog.Emits, Plain]

theorem plain_deleteRole (req : DeleteRoleRequest) : (deleteRole cr svc md req).Emits Plain := by
  simp [deleteRole, audit, Prog.Emits, Plain]

theorem plain_listRoles : (listRoles cr md).Emits Plain := by
  simp [listRoles, Prog.Emits, Plain]

theorem plain_validateAssign (roleName projectId : String) (tenant : Uuid) :
    (validateAssign cr roleName projectId tenant).Emits Plain := by
  refine .bind (by simp [Prog.Emits, Plain]) fun _ => .bind (by simp [Prog.Emits]) fun _ => ?_
  refine .bind (by simp [Prog.Emits]) ?_
  rintro (_ | pid) <;> simp [Prog.Emits, Plain]

theorem unrotated_assignRole (req : AssignRoleRequest) : (assignRole cr svc md req).Emits Unrotated := by
  refine .bind (by simp [Prog.Emits]) fun _ => .bind (by simp [Prog.Emits]) fun _ => ?_
  refine .bind (by simp [Prog.Emits]) fun _ => ?_
  refine .bind ((plain_validateAssign cr _ _ _).imp Plain.unrotated) fun _ => ?_
  refine .bind (by simp [Prog.Emits, Unrotated, Issued]) fun _ => ?_
  refine .bind (emits_invalidatePerms (fun _ _ => trivial) (fun _ => trivial) svc _) fun _ => ?_
  simp [audit, Prog.Emits, Unrotated, Issued]

theorem unrotated_assignRoleBulk (req : AssignRoleBulkRequest) :
    (assignRoleBulk cr svc md req).Emits Unrotated := by
  refine .bind (by simp [Prog.Emits]) fun _ => .bind (by simp [Prog.Emits]) fun _ => ?_
  refine .bind ((plain_validateAssign cr _ _ _).imp Plain.unrotated) fun _ => ?_
  refine .bind (emits_assignEach (fun _ _ => trivial) (fun _ => trivial) cr svc (fun _ => trivial) _) fun _ => ?_
  simp [audit, Prog.Emits, Unrotated, Issued]

theorem plain_revokeRole (req : AssignRoleRequest) : (revokeRole cr svc md req).Emits Plain := by
  refine .bind (by simp [Prog.Emits]) fun _ => .bind (by simp [Prog.Emits]) fun _ => ?_
  refine .bind (by simp [Prog.Emits]) fun _ => .bind (by simp [Prog.Emits, Plain]) fun _ => ?_
  refine .bind (by simp [Prog.Emits]) fun _ => .bind (by simp [Prog.Emits]) fun _ => ?_
  refine .bind (by simp [Prog.Emits, Plain]) fun _ => ?_
  refine .bind (emits_invalidatePerms (fun _ _ => trivial) (fun _ => trivial) svc _) fun _ => ?_
  simp [audit, Prog.Emits, Plain]

theorem plain_getUserRoleAssignments (req : UserIdRequest) :
    (getUserRoleAssignments cr md req).Emits Plain := by
  simp [getUserRoleAssignments, Prog.Emits, Plain]

theorem plain_listPermissions : (listPermissions md).Emits Plain := by
  simp [listPermissions, Prog.Emits, Plain]

theorem plain_grantPermission (req : PermissionRequest) :
    (grantPermission cr svc md req).Emits Plain := by
  simp [grantPermission, permRoleGuard, audit, Prog.Emits, Plain]

theorem plain_revokePermission (req : PermissionRequest) :
    (revokePermission cr svc md req).Emits Plain := by
  simp [revokePermission, permRoleGuard, audit, Prog.Emits, Plain]

theorem plain_listAuditEvents (req : ListAuditEventsRequest) :
    (listAuditEvents cr md req).Emits Plain := by
  simp [listAuditEvents, Prog.Emits, Plain]

/-! ## Starts and the saga -/

theorem unbound_bootstrapUser (email pass role : String) (h : role = "admin" ∨ role = "viewer") :
    (bootstrapUser email pass role).Emits Unbound := by
  unfold bootstrapUser
  split
  · trivial
  · refine .bind (by simp [Prog.Emits, Unbound, Unrotated, Issued]) ?_
    rintro (_ | user)
    · simp [Prog.Emits, Unbound, Unrotated, Issued, h]
    · trivial

theorem unbound_bootstrap (e : BootstrapEnv) : (bootstrap cr e).Emits Unbound := by
  refine .bind (unbound_bootstrapUser _ _ _ (.inl rfl)) fun _ => ?_
  refine .bind (by simp [bootstrapOidcClient, Prog.Emits, Unbound, Unrotated, Issued]) fun _ => ?_
  exact unbound_bootstrapUser _ _ _ (.inr rfl)

theorem plain_profileCreationFailed (userId reason : String) :
    (profileCreationFailed cr userId reason).Emits Plain := by
  unfold profileCreationFailed
  cases cr.parseUuid userId <;> simp [Prog.Emits, Plain]

/-! ## Every call -/

/-- The RPCs of plain statements. -/
def Rpc.plain : Rpc → Bool
  | .register _ | .login _ | .loginTotp _ | .refresh _ | .switchTenant _ => false
  | .exchangeAuthorizationCode _ | .createApiKey _ => false
  | .createRole _ | .assignRole _ | .assignRoleBulk _ => false
  | _ => true

def Call.plain : Call → Bool
  | .rpc _ _ r => r.plain
  | .start _ => false
  | .profileCreationFailed .. => true

theorem plain_handle (r : Rpc) (h : r.plain = true) : (r.handle cr svc md).Emits Plain := by
  cases r with
  | logout req => exact .bind (plain_logout cr svc md req) fun _ => trivial
  | validateToken req => exact .bind (plain_validateToken cr svc req) fun _ => trivial
  | listMyMemberships => exact .bind (plain_listMyMemberships cr md) fun _ => trivial
  | enrollTotp => exact .bind (plain_enrollTotp cr svc md) fun _ => trivial
  | getTotpStatus => exact .bind (plain_getTotpStatus cr md) fun _ => trivial
  | activateTotp req => exact .bind (plain_activateTotp cr svc md req) fun _ => trivial
  | disableTotp req => exact .bind (plain_disableTotp cr svc md req) fun _ => trivial
  | listApiKeys => exact .bind (plain_listApiKeys cr md) fun _ => trivial
  | revokeApiKey req => exact .bind (plain_revokeApiKey cr svc md req) fun _ => trivial
  | validateApiKey req => exact .bind (plain_validateApiKey cr req) fun _ => trivial
  | deleteUser req => exact .bind (plain_deleteUser cr svc md req) fun _ => trivial
  | restoreUser req => exact .bind (plain_restoreUser cr svc md req) fun _ => trivial
  | requestEmailVerification req =>
    exact .bind (plain_requestEmailVerification cr svc req) fun _ => trivial
  | verifyEmail req => exact .bind (plain_verifyEmail cr svc req) fun _ => trivial
  | requestPasswordReset req =>
    exact .bind (plain_requestPasswordReset cr svc req) fun _ => trivial
  | resetPassword req => exact .bind (plain_resetPassword cr svc req) fun _ => trivial
  | changePassword req => exact .bind (plain_changePassword cr svc md req) fun _ => trivial
  | getClient req => exact .bind (plain_getClient req) fun _ => trivial
  | createAuthorizationCode req =>
    exact .bind (plain_createAuthorizationCode cr req) fun _ => trivial
  | getConsent req => exact .bind (plain_getConsent cr req) fun _ => trivial
  | saveConsent req => exact .bind (plain_saveConsent cr req) fun _ => trivial
  | registerClient req => exact .bind (plain_registerClient cr md req) fun _ => trivial
  | createTenant req => exact .bind (plain_createTenant cr svc md req) fun _ => trivial
  | listTenants => exact .bind (plain_listTenants cr md) fun _ => trivial
  | createProject req => exact .bind (plain_createProject cr md req) fun _ => trivial
  | listProjects => exact .bind (plain_listProjects cr md) fun _ => trivial
  | addMember req => exact .bind (plain_addMember cr svc md req) fun _ => trivial
  | removeMember req => exact .bind (plain_removeMember cr svc md req) fun _ => trivial
  | listMembers => exact .bind (plain_listMembers cr md) fun _ => trivial
  | updateRole req => exact .bind (plain_updateRole cr md req) fun _ => trivial
  | deleteRole req => exact .bind (plain_deleteRole cr svc md req) fun _ => trivial
  | listRoles => exact .bind (plain_listRoles cr md) fun _ => trivial
  | revokeRole req => exact .bind (plain_revokeRole cr svc md req) fun _ => trivial
  | getUserRoleAssignments req =>
    exact .bind (plain_getUserRoleAssignments cr md req) fun _ => trivial
  | listPermissions => exact .bind (plain_listPermissions md) fun _ => trivial
  | grantPermission req => exact .bind (plain_grantPermission cr svc md req) fun _ => trivial
  | revokePermission req => exact .bind (plain_revokePermission cr svc md req) fun _ => trivial
  | listAuditEvents req => exact .bind (plain_listAuditEvents cr md req) fun _ => trivial
  | register req => cases h
  | login req => cases h
  | loginTotp req => cases h
  | refresh req => cases h
  | switchTenant req => cases h
  | createApiKey req => cases h
  | exchangeAuthorizationCode req => cases h
  | createRole req => cases h
  | assignRole req => cases h
  | assignRoleBulk req => cases h

theorem plain_body (k : Call) (h : k.plain = true) : (k.body cr).Emits Plain := by
  cases k with
  | rpc svc md r => exact plain_handle cr svc md r h
  | start env => cases h
  | profileCreationFailed userId reason =>
    exact .bind (plain_profileCreationFailed cr userId reason) fun _ => trivial

/-- The calls that may name a project. -/
def Call.binds : Call → Bool
  | .rpc _ _ (.refresh _) => true
  | .rpc _ _ (.switchTenant _) => true
  | .rpc _ _ (.createApiKey _) => true
  | .rpc _ _ (.assignRole _) => true
  | .rpc _ _ (.assignRoleBulk _) => true
  | _ => false

theorem unbound_body (k : Call) (h : k.binds = false) : (k.body cr).Emits Unbound := by
  by_cases hplain : k.plain = true
  · exact (plain_body cr k hplain).imp Plain.unbound
  · cases k with
    | rpc svc md r =>
      cases r
      case register req => exact .bind (unbound_register cr svc req) fun _ => trivial
      case login req => exact .bind (unbound_login cr svc req) fun _ => trivial
      case loginTotp req => exact .bind (unbound_loginTotp cr svc req) fun _ => trivial
      case exchangeAuthorizationCode req =>
        exact .bind (unbound_exchangeAuthorizationCode cr svc req) fun _ => trivial
      case createRole req => exact .bind (unbound_createRole cr svc md req) fun _ => trivial
      all_goals first | exact absurd rfl hplain | cases h
    | start env => exact .bind (unbound_bootstrap cr env) fun _ => trivial
    | profileCreationFailed userId reason => exact absurd rfl hplain

/-- Only refresh rotates. -/
def Call.rotates : Call → Bool
  | .rpc _ _ (.refresh _) => true
  | _ => false

theorem unrotated_body (k : Call) (h : k.rotates = false) : (k.body cr).Emits Unrotated := by
  by_cases hbinds : k.binds = false
  · exact (unbound_body cr k hbinds).imp Unbound.unrotated
  · cases k with
    | rpc svc md r =>
      cases r
      case switchTenant req => exact .bind (unrotated_switchTenant cr svc md req) fun _ => trivial
      case createApiKey req => exact .bind (unrotated_createApiKey cr svc md req) fun _ => trivial
      case assignRole req => exact .bind (unrotated_assignRole cr svc md req) fun _ => trivial
      case assignRoleBulk req =>
        exact .bind (unrotated_assignRoleBulk cr svc md req) fun _ => trivial
      all_goals first | exact absurd rfl hbinds | cases h
    | start env => exact absurd rfl hbinds
    | profileCreationFailed userId reason => exact absurd rfl hbinds

theorem issued_body (k : Call) : (k.body cr).Emits Issued := by
  by_cases h : k.rotates = false
  · exact (unrotated_body cr k h).imp Unrotated.issued
  · cases k with
    | rpc svc md r =>
      cases r
      case refresh req => exact .bind (issued_refresh cr svc req) fun _ => trivial
      all_goals exact absurd rfl h
    | start env => exact absurd rfl h
    | profileCreationFailed userId reason => exact absurd rfl h

end

end IamAuth
