import IamAuth.Coherence

/-!
# What is written to the permission cache

Two statements of the service write a key of Redis: the entry that logout makes
for a token, under a key of its own, and the permissions that validate_token has
just read from the database.
-/

set_option autoImplicit false

namespace IamAuth

open Interleave

/-- No key of Redis is written. -/
def Unwritten : Op → Prop
  | .redis (.setEx ..) => False
  | _ => True

theorem Check.unwritten (o : Op) (h : Check o) : Unwritten o := by
  cases o with
  | sql s => trivial
  | redis c => exact h.elim
  | sys s => trivial

section Handlers

variable (cr : Crates) (svc : AuthSvc) (md : MetadataMap)

theorem unwritten_issueTokens (userId : Uuid) (email : String) (tenantId : Uuid)
    (projectId : Option Uuid) :
    (issueTokens cr svc userId email tenantId projectId).Emits Unwritten := by
  simp [issueTokens, Prog.Emits, Unwritten]

theorem unwritten_issueForActiveTenant (userId : Uuid) (email : String) :
    (issueForActiveTenant cr svc userId email).Emits Unwritten :=
  .bind (by simp [Prog.Emits, Unwritten]) fun _ => unwritten_issueTokens cr svc _ _ _ _

theorem unwritten_login (req : LoginRequest) : (login cr svc req).Emits Unwritten := by
  refine .bind (by simp [Prog.Emits, Unwritten]) ?_
  rintro (_ | user)
  · simp [Prog.Emits, Unwritten]
  · refine .bind ((check_refuseIfLocked user).imp Check.unwritten) fun _ => ?_
    refine .bind (by simp [Prog.Emits, Unwritten]) fun ok => ?_
    split
    · refine .bind ((check_countFailure cr svc _ _ _).imp Check.unwritten) fun _ => ?_
      simp [Prog.Emits, Unwritten]
    · refine .bind (by simp [Prog.Emits]) fun _ => .bind (by simp [Prog.Emits]) fun _ => ?_
      refine .bind (by simp [Prog.Emits, Unwritten]) fun _ => ?_
      split
      · simp [Prog.Emits, Unwritten]
      · exact .bind (by simp [Prog.Emits, Unwritten]) fun _ =>
          unwritten_issueForActiveTenant cr svc _ _

theorem unwritten_loginTotp (req : LoginTotpRequest) : (loginTotp cr svc req).Emits Unwritten := by
  refine .bind (by simp [Prog.Emits, Unwritten]) fun _ => .bind (by simp [Prog.Emits]) fun _ => ?_
  refine .bind (by simp [Prog.Emits]) fun _ => .bind (by simp [Prog.Emits]) fun uid => ?_
  refine .bind (by simp [Prog.Emits, Unwritten]) fun _ => .bind (by simp [Prog.Emits]) fun user => ?_
  refine .bind ((check_refuseIfLocked user).imp Check.unwritten) fun _ => ?_
  refine .bind ((check_checkCode cr _ _ _).imp Check.unwritten) fun ok => ?_
  split
  · refine .bind ((check_countFailure cr svc _ _ _).imp Check.unwritten) fun _ => ?_
    simp [Prog.Emits, Unwritten]
  · refine .bind (by simp [Prog.Emits, Unwritten]) fun _ => ?_
    exact .bind (by simp [Prog.Emits, Unwritten]) fun _ =>
      unwritten_issueForActiveTenant cr svc _ _

theorem unwritten_reissue (row : RefreshTokenRow) : (reissue cr svc row).Emits Unwritten := by
  refine .bind (by simp [Prog.Emits, Unwritten]) fun _ => .bind (by simp [Prog.Emits]) fun _ => ?_
  exact unwritten_issueTokens cr svc _ _ _ _

theorem unwritten_refresh (req : RefreshRequest) : (refresh cr svc req).Emits Unwritten := by
  have hwipe : ∀ row, (wipeFamily cr svc row).Emits Unwritten := by
    simp [wipeFamily, Prog.Emits, Unwritten]
  refine .bind (by simp [Prog.Emits, Unwritten]) fun _ => .bind (by simp [Prog.Emits]) fun row => ?_
  cases row.revokedAt with
  | none =>
    refine .bind (by simp [Prog.Emits, Unwritten]) fun _ => .bind (by simp [Prog.Emits]) fun _ => ?_
    exact .bind (unwritten_reissue cr svc row) fun _ => by simp [Prog.Emits, Unwritten]
  | some revokedAt =>
    dsimp only
    split
    · refine .bind (by simp [Prog.Emits, Unwritten]) fun _ => ?_
      split
      · exact unwritten_reissue cr svc row
      · exact hwipe row
    · exact hwipe row

theorem unwritten_switchTenant (req : SwitchTenantRequest) :
    (switchTenant cr svc md req).Emits Unwritten := by
  refine .bind (by simp [Prog.Emits]) fun _ => .bind (by simp [Prog.Emits]) fun _ => ?_
  refine .bind (by simp [Prog.Emits, Unwritten]) fun _ => .bind (by simp [Prog.Emits]) fun _ => ?_
  refine .bind (.bind (by simp [Prog.Emits]) ?_) fun _ => ?_
  · rintro (_ | pid) <;> simp [Prog.Emits, Unwritten]
  · refine .bind (by simp [Prog.Emits, Unwritten]) fun _ => .bind (by simp [Prog.Emits]) fun _ => ?_
    exact unwritten_issueTokens cr svc _ _ _ _

theorem unwritten_enrollTotp : (enrollTotp cr svc md).Emits Unwritten := by
  refine .bind (by simp [Prog.Emits]) fun uid => .bind (by simp [Prog.Emits, Unwritten]) fun _ => ?_
  refine .bind (by simp [Prog.Emits]) fun _ => .bind (by simp [Prog.Emits, Unwritten]) fun _ => ?_
  refine .bind (by simp [Prog.Emits]) fun _ => .bind (by simp [Prog.Emits, Unwritten]) fun _ => ?_
  refine .bind (by simp [Prog.Emits, Unwritten]) fun _ => .bind (by simp [Prog.Emits]) fun _ => ?_
  refine .bind (by simp [Prog.Emits, Unwritten]) fun _ => ?_
  refine .bind (by simp [Prog.Emits, Unwritten]) fun _ => ?_
  refine .bind (Prog.emits_forEach (fun code => ?_) _) fun _ => ?_
  · simp [Prog.Emits, Unwritten]
  · simp [audit, Prog.Emits, Unwritten]

theorem unwritten_disableTotp (req : CodeRequest) : (disableTotp cr svc md req).Emits Unwritten := by
  refine .bind (by simp [Prog.Emits]) fun _ => .bind (by simp [Prog.Emits, Unwritten]) fun user => ?_
  split
  · trivial
  · refine .bind ((check_checkCode cr _ _ _).imp Check.unwritten) fun _ => ?_
    simp [audit, Prog.Emits, Unwritten]

theorem unwritten_createApiKey (req : CreateApiKeyRequest) :
    (createApiKey cr svc md req).Emits Unwritten := by
  refine .bind (by simp [Prog.Emits]) fun _ => .bind (by simp [Prog.Emits]) fun _ => ?_
  refine .bind (emits_requireScopes _ _) fun _ => .bind (by simp [Prog.Emits, Unwritten]) fun _ => ?_
  refine .bind (by simp [Prog.Emits, Unwritten]) fun _ => ?_
  refine .bind ?_ fun _ => by simp [audit, Prog.Emits, Unwritten]
  unfold apiKeyExpiry addSeconds
  simp [Prog.Emits, Unwritten]

theorem unwritten_validateApiKey (req : ValidateApiKeyRequest) :
    (validateApiKey cr req).Emits Unwritten := by
  refine .bind (by simp [Prog.Emits, Unwritten]) fun _ => .bind (by simp [Prog.Emits]) fun row => ?_
  refine .bind (by simp [Prog.Emits]) fun _ => .bind ?_ fun _ => by simp [Prog.Emits, Unwritten]
  unfold refuseIfExpired
  cases row.expiresAt <;> simp [Prog.Emits, Unwritten]

theorem unwritten_requestEmailVerification (req : EmailRequest) :
    (requestEmailVerification cr svc req).Emits Unwritten := by
  refine .bind (by simp [Prog.Emits, Unwritten]) ?_
  rintro (_ | _ | user) <;> simp [Prog.Emits, Unwritten]

theorem unwritten_requestPasswordReset (req : EmailRequest) :
    (requestPasswordReset cr svc req).Emits Unwritten := by
  refine .bind (by simp [Prog.Emits, Unwritten]) ?_
  rintro (_ | _ | user) <;> simp [Prog.Emits, Unwritten]

theorem unwritten_exchangeAuthorizationCode (req : ExchangeRequest) :
    (exchangeAuthorizationCode cr svc req).Emits Unwritten := by
  refine .bind (by simp [Prog.Emits, Unwritten]) fun _ => .bind (by simp [Prog.Emits]) fun _ => ?_
  refine .bind (by simp [Prog.Emits]) fun _ => .bind (.bind (by simp [Prog.Emits, Unwritten]) ?_) ?_
  · rintro (_ | n) <;> trivial
  · intro claimed
    refine .bind (by simp [Prog.Emits]) fun _ => .bind (by simp [Prog.Emits]) fun _ => ?_
    refine .bind (by simp [authenticateClient, Prog.Emits, Unwritten]) fun _ => ?_
    simp [issueForCode, issueTokens, Prog.Emits, Unwritten]

theorem unwritten_validateAssign (roleName projectId : String) (tenant : Uuid) :
    (validateAssign cr roleName projectId tenant).Emits Unwritten := by
  refine .bind (by simp [Prog.Emits, Unwritten]) fun _ => .bind (by simp [Prog.Emits]) fun _ => ?_
  refine .bind (by simp [Prog.Emits]) ?_
  rintro (_ | pid) <;> simp [Prog.Emits, Unwritten]

theorem unwritten_assignRole (req : AssignRoleRequest) : (assignRole cr svc md req).Emits Unwritten := by
  refine .bind (by simp [Prog.Emits]) fun _ => .bind (by simp [Prog.Emits]) fun _ => ?_
  refine .bind (by simp [Prog.Emits]) fun _ => .bind (unwritten_validateAssign cr _ _ _) fun _ => ?_
  refine .bind (by simp [Prog.Emits, Unwritten]) fun _ => ?_
  refine .bind (emits_invalidatePerms (fun _ _ => trivial) (fun _ => trivial) svc _) fun _ => ?_
  simp [audit, Prog.Emits, Unwritten]

theorem unwritten_assignRoleBulk (req : AssignRoleBulkRequest) :
    (assignRoleBulk cr svc md req).Emits Unwritten := by
  refine .bind (by simp [Prog.Emits]) fun _ => .bind (by simp [Prog.Emits]) fun _ => ?_
  refine .bind (unwritten_validateAssign cr _ _ _) fun _ => ?_
  refine .bind (emits_assignEach (fun _ _ => trivial) (fun _ => trivial) cr svc (fun _ => trivial) _)
    fun _ => ?_
  simp [audit, Prog.Emits, Unwritten]

theorem unwritten_revokeRole (req : AssignRoleRequest) : (revokeRole cr svc md req).Emits Unwritten := by
  refine .bind (by simp [Prog.Emits]) fun _ => .bind (by simp [Prog.Emits]) fun _ => ?_
  refine .bind (by simp [Prog.Emits]) fun _ => .bind (by simp [Prog.Emits, Unwritten]) fun _ => ?_
  refine .bind (by simp [Prog.Emits]) fun _ => .bind (by simp [Prog.Emits]) fun _ => ?_
  refine .bind (by simp [Prog.Emits, Unwritten]) fun _ => ?_
  refine .bind (emits_invalidatePerms (fun _ _ => trivial) (fun _ => trivial) svc _) fun _ => ?_
  simp [audit, Prog.Emits, Unwritten]

theorem unwritten_refuseIfDenied (jti : String) : (refuseIfDenied svc jti).Emits Unwritten := by
  refine .bind (by simp [isDenied, Prog.Emits, Unwritten]) ?_
  rintro (_ | d) <;> simp [Prog.Emits, Unwritten]

theorem unwritten_bootstrap (e : BootstrapEnv) : (bootstrap cr e).Emits Unwritten := by
  have huser : ∀ email pass role, (bootstrapUser email pass role).Emits Unwritten := by
    intro email pass role
    unfold bootstrapUser
    split
    · trivial
    · refine .bind (by simp [Prog.Emits, Unwritten]) ?_
      rintro (_ | user) <;> simp [Prog.Emits, Unwritten]
  refine .bind (huser _ _ _) fun _ => .bind ?_ fun _ => huser _ _ _
  simp [bootstrapOidcClient, Prog.Emits, Unwritten]

theorem unwritten_changePassword (req : ChangePasswordRequest) :
    (changePassword cr svc md req).Emits Unwritten := by
  refine .bind (by simp [Prog.Emits]) fun _ => .bind (by simp [Prog.Emits]) fun _ => ?_
  refine .bind (by simp [Prog.Emits, Unwritten]) fun _ => ?_
  refine .bind (by simp [Prog.Emits, Unwritten]) fun _ => .bind (by simp [Prog.Emits]) fun _ => ?_
  simp [storePassword, Prog.Emits, Unwritten]

theorem unwritten_resetPassword (req : ResetPasswordRequest) :
    (resetPassword cr svc req).Emits Unwritten := by
  refine .bind (by simp [Prog.Emits]) fun _ => .bind (by simp [Prog.Emits, Unwritten]) fun _ => ?_
  refine .bind (by simp [Prog.Emits]) fun uid => ?_
  simp [storePassword, Prog.Emits, Unwritten]

/-- The RPCs that write no key of Redis. -/
def Rpc.unwritten : Rpc → Bool
  | .logout _ | .validateToken _ => false
  | _ => true

theorem unwritten_handle (r : Rpc) (h : r.unwritten = true) :
    (r.handle cr svc md).Emits Unwritten := by
  cases r with
  | logout req => cases h
  | validateToken req => cases h
  | login req => exact .bind (unwritten_login cr svc req) fun _ => trivial
  | loginTotp req => exact .bind (unwritten_loginTotp cr svc req) fun _ => trivial
  | refresh req => exact .bind (unwritten_refresh cr svc req) fun _ => trivial
  | switchTenant req => exact .bind (unwritten_switchTenant cr svc md req) fun _ => trivial
  | enrollTotp => exact .bind (unwritten_enrollTotp cr svc md) fun _ => trivial
  | disableTotp req => exact .bind (unwritten_disableTotp cr svc md req) fun _ => trivial
  | createApiKey req => exact .bind (unwritten_createApiKey cr svc md req) fun _ => trivial
  | validateApiKey req => exact .bind (unwritten_validateApiKey cr req) fun _ => trivial
  | requestEmailVerification req =>
    exact .bind (unwritten_requestEmailVerification cr svc req) fun _ => trivial
  | requestPasswordReset req =>
    exact .bind (unwritten_requestPasswordReset cr svc req) fun _ => trivial
  | resetPassword req => exact .bind (unwritten_resetPassword cr svc req) fun _ => trivial
  | changePassword req => exact .bind (unwritten_changePassword cr svc md req) fun _ => trivial
  | exchangeAuthorizationCode req =>
    exact .bind (unwritten_exchangeAuthorizationCode cr svc req) fun _ => trivial
  | assignRole req => exact .bind (unwritten_assignRole cr svc md req) fun _ => trivial
  | assignRoleBulk req => exact .bind (unwritten_assignRoleBulk cr svc md req) fun _ => trivial
  | revokeRole req => exact .bind (unwritten_revokeRole cr svc md req) fun _ => trivial
  | register req => simp [Rpc.handle, register, Prog.Emits, Unwritten]
  | listMyMemberships => simp [Rpc.handle, listMyMemberships, Prog.Emits, Unwritten]
  | getTotpStatus => simp [Rpc.handle, getTotpStatus, Prog.Emits, Unwritten]
  | activateTotp req => simp [Rpc.handle, activateTotp, audit, Prog.Emits, Unwritten]
  | listApiKeys => simp [Rpc.handle, listApiKeys, Prog.Emits, Unwritten]
  | revokeApiKey req => simp [Rpc.handle, revokeApiKey, audit, Prog.Emits, Unwritten]
  | deleteUser req => simp [Rpc.handle, deleteUser, audit, Prog.Emits, Unwritten]
  | restoreUser req => simp [Rpc.handle, restoreUser, audit, Prog.Emits, Unwritten]
  | verifyEmail req => simp [Rpc.handle, verifyEmail, Prog.Emits, Unwritten]
  | getClient req => simp [Rpc.handle, getClient, Prog.Emits, Unwritten]
  | createAuthorizationCode req =>
    simp [Rpc.handle, createAuthorizationCode, Prog.Emits, Unwritten]
  | getConsent req => simp [Rpc.handle, getConsent, Prog.Emits, Unwritten]
  | saveConsent req => simp [Rpc.handle, saveConsent, Prog.Emits, Unwritten]
  | registerClient req => simp [Rpc.handle, registerClient, newClientSecret, Prog.Emits, Unwritten]
  | createTenant req => simp [Rpc.handle, createTenant, Prog.Emits, Unwritten]
  | listTenants => simp [Rpc.handle, listTenants, Prog.Emits, Unwritten]
  | createProject req => simp [Rpc.handle, createProject, Prog.Emits, Unwritten]
  | listProjects => simp [Rpc.handle, listProjects, Prog.Emits, Unwritten]
  | addMember req => simp [Rpc.handle, addMember, Prog.Emits, Unwritten]
  | removeMember req => simp [Rpc.handle, removeMember, Prog.Emits, Unwritten]
  | listMembers => simp [Rpc.handle, listMembers, Prog.Emits, Unwritten]
  | createRole req => simp [Rpc.handle, createRole, audit, Prog.Emits, Unwritten]
  | updateRole req => simp [Rpc.handle, updateRole, Prog.Emits, Unwritten]
  | deleteRole req => simp [Rpc.handle, deleteRole, audit, Prog.Emits, Unwritten]
  | listRoles => simp [Rpc.handle, listRoles, Prog.Emits, Unwritten]
  | getUserRoleAssignments req =>
    simp [Rpc.handle, getUserRoleAssignments, Prog.Emits, Unwritten]
  | listPermissions => simp [Rpc.handle, listPermissions, Prog.Emits, Unwritten]
  | grantPermission req =>
    simp [Rpc.handle, grantPermission, permRoleGuard, audit, Prog.Emits, Unwritten]
  | revokePermission req =>
    simp [Rpc.handle, revokePermission, permRoleGuard, audit, Prog.Emits, Unwritten]
  | listAuditEvents req => simp [Rpc.handle, listAuditEvents, Prog.Emits, Unwritten]

end Handlers

/-! ## validate_token changes no table -/

/-- No table is written. -/
def Reads : Op → Prop
  | .sql q => q.writes = []
  | _ => True

section Validation

variable (cr : Crates) (svc : AuthSvc)

theorem reads_tokenPermissions (claims : Claims) (userId : Uuid)
    (tenant project : Option Uuid) :
    (tokenPermissions cr svc claims userId tenant project).Emits Reads := by
  refine .bind ?_ ?_
  · unfold getPerms
    split
    · refine .bind (by simp [Prog.Emits, Reads]) ?_
      rintro (_ | _ | v) <;> trivial
    · trivial
  · rintro (_ | p)
    · refine .bind ?_ fun _ => by simp [setPerms, Prog.Emits, Reads]
      cases tenant <;> simp [loadPermissions, Prog.Emits, Reads, Sql.writes]
    · trivial

theorem reads_validateToken (req : ValidateTokenRequest) :
    (validateToken cr svc req).Emits Reads := by
  refine .bind (by simp [Prog.Emits, Reads]) fun _ => .bind (by simp [Prog.Emits]) fun _ => ?_
  refine .bind (.bind (by simp [isDenied, Prog.Emits, Reads]) ?_) fun _ => ?_
  · rintro (_ | d) <;> simp [Prog.Emits, Reads, Sql.writes]
  refine .bind (by simp [Prog.Emits]) fun _ => ?_
  refine .bind (by simp [Prog.Emits, Reads, Sql.writes]) fun _ => ?_
  refine .bind (by simp [Prog.Emits]) fun _ => ?_
  refine .bind (by simp [tokenTenant, Prog.Emits, Reads, Sql.writes]) fun tenant => ?_
  refine .bind (by simp [tokenProject, Prog.Emits]) fun project => .bind ?_ fun _ => ?_
  · cases tenant <;> simp [tokenRoles, Prog.Emits, Reads, Sql.writes]
  · exact .bind (reads_tokenPermissions cr svc _ _ _ _) fun _ => trivial

end Validation

/-! ## The scope of a token -/

/-- The key under which validate_token caches the permissions of a token. -/
def Claims.key (claims : Claims) : String := permsKey claims.tenantId claims.projectId claims.sub

/-- The parts of a key are found again from the key of a scope. -/
theorem parts_eq {t p u t' p' u' : List Char} (ht : ':' ∉ t) (hp : ':' ∉ p) (hu : ':' ∉ u)
    (h : [':'].intercalate ["perms".toList, t', p', u'] =
      [':'].intercalate ["perms".toList, t, p, u]) : t' = t ∧ p' = p ∧ u' = u := by
  have hcount := congrArg (List.count ':') h
  have hzero : ∀ {l : List Char}, ':' ∉ l → l.count ':' = 0 := List.count_eq_zero_of_not_mem
  simp [hzero ht, hzero hp, hzero hu] at hcount
  have ht' : ':' ∉ t' := List.count_eq_zero.mp (by omega)
  have hp' : ':' ∉ p' := List.count_eq_zero.mp (by omega)
  have hu' : ':' ∉ u' := List.count_eq_zero.mp (by omega)
  have hsplit := congrArg (List.splitOn ':') h
  rw [List.splitOn_intercalate, List.splitOn_intercalate] at hsplit
  · simpa using hsplit
  all_goals simp [ht, hp, hu, ht', hp', hu']

theorem scopeOf_claims {cr : Crates} (hcr : CacheCrates cr) {claims : Claims} {s : Scope}
    (h : scopeOf cr claims.key = some s) :
    claims.tenantId = cr.formatUuid s.tenant ∧ claims.sub = cr.formatUuid s.user ∧
      (claims.projectId = (s.project.map cr.formatUuid).getD "" ∨
        (claims.projectId = "-" ∧ s.project = none)) := by
  have hlist := congrArg String.toList (key_of_scopeOf h)
  rw [s.key_toList hcr, Scope.parts] at hlist
  have hjoin : [':'].intercalate ["perms".toList,
        (if claims.tenantId.isEmpty then "-" else claims.tenantId).toList,
        (if claims.projectId.isEmpty then "-" else claims.projectId).toList,
        claims.sub.toList] =
      [':'].intercalate ["perms".toList, (cr.formatUuid s.tenant).toList,
        ((s.project.map cr.formatUuid).getD "-").toList, (cr.formatUuid s.user).toList] := by
    simpa [Claims.key, permsKey] using hlist.symm
  obtain ⟨htenant, hproject, huser⟩ := parts_eq (hcr.not_colon s.tenant)
    (hcr.not_colon_project s) (hcr.not_colon s.user) hjoin
  have htenant := String.toList_inj.mp htenant
  have hproject := String.toList_inj.mp hproject
  refine ⟨?_, String.toList_inj.mp huser, ?_⟩
  · -- A token without a tenant is cached under "-", which names no tenant.
    split at htenant
    · have hdash := hcr.dash
      rw [htenant, hcr.uuid] at hdash
      cases hdash
    · exact htenant
  · split at hproject
    · next hempty =>
      have hempty : claims.projectId = "" := by simpa using hempty
      cases hp : s.project with
      | none => exact .inl hempty
      | some p =>
        have hdash := hcr.dash
        rw [hp] at hproject
        rw [show "-" = cr.formatUuid p from hproject, hcr.uuid] at hdash
        cases hdash
    · cases hp : s.project with
      | none => exact .inr ⟨by rw [hproject, hp]; rfl, rfl⟩
      | some p => exact .inl (by rw [hproject, hp]; rfl)

/-! ## What validate_token writes and answers -/

/-- What is written under the key of a scope has just been read for it. -/
def readRule (cr : Crates) (h : List (Event Resp)) (e : Event Resp) : Prop :=
  match e.1 with
  | .redis (.setEx key value _) => ∀ s, scopeOf cr key = some s → ∃ h' perms,
      h = h' ++ [⟨.sql (.getUserPermissionsScoped s.user s.tenant s.project), .ok perms⟩] ∧
      value = cr.permsToJson perms
  | _ => True

/-- The permissions were last read from the cache, or from the database and then
written to the cache. -/
def PermsRead (cr : Crates) (claims : Claims) (s : Scope) (h : List (Event Resp))
    (perms : List String) : Prop :=
  (∃ h' v, h = h' ++ [⟨.redis (.get claims.key), some (some v)⟩] ∧
    cr.permsFromJson v = some perms) ∨
  ∃ h' r, h = h' ++ [⟨.sql (.getUserPermissionsScoped s.user s.tenant s.project), .ok perms⟩,
    ⟨.redis (.setEx claims.key (cr.permsToJson perms) permsTtlSecs), r⟩]

/-- The scope of a tenant-bound token. -/
def Claims.scope (cr : Crates) (claims : Claims) : Option Scope := do
  let user ← cr.parseUuid claims.sub
  let tenant ← cr.parseUuid claims.tenantId
  if claims.projectId = "" then some ⟨user, tenant, none⟩
  else some ⟨user, tenant, some (← cr.parseUuid claims.projectId)⟩

/-- The answer to a tenant-bound token at a replica with Redis. -/
def readPost (cr : Crates) : Call → List (Event Resp) → Except Failure Response → Prop
  | .rpc svc _ (.validateToken req), h, .ok (.token resp) => ∃ claims,
      ⟨.sys (.jwtParseAccess req.accessToken), some claims⟩ ∈ h ∧ resp.userId = claims.sub ∧
      resp.tenantId = claims.tenantId ∧ resp.projectId = claims.projectId ∧
      (svc.cacheConn = true → claims.tenantId ≠ "" → ∃ s, claims.scope cr = some s ∧
        ⟨.sql (.isUserActive s.user), .ok true⟩ ∈ h ∧ PermsRead cr claims s h resp.permissions)
  | _, _, _ => True

section Reads

variable {cr : Crates} {svc : AuthSvc} {claims : Claims} {userId : Uuid}
  {tenant project : Option Uuid}

theorem readRule_of_unwritten (h : List (Event Resp)) (e : Event Resp) (he : Unwritten e.1) :
    readRule cr h e := by
  obtain ⟨o, r⟩ := e
  cases o with
  | sql s => trivial
  | sys s => trivial
  | redis c =>
    cases c with
    | setEx key value ttl => exact he.elim
    | _ => trivial

/-- Writing what has just been loaded. -/
theorem along_setPerms {h : List (Event Resp)} {ps : List String}
    {post : List (Event Resp) → Except Failure (List String) → Prop}
    (hread : ∀ s, scopeOf cr claims.key = some s → ∃ h',
      h = h' ++ [⟨.sql (.getUserPermissionsScoped s.user s.tenant s.project), .ok ps⟩])
    (hwritten : svc.cacheConn = true → ∀ r,
      post (h ++ [⟨.redis (.setEx claims.key (cr.permsToJson ps) permsTtlSecs), r⟩]) (.ok ps))
    (hunwritten : svc.cacheConn = false → post h (.ok ps)) :
    (do setPerms cr svc claims.tenantId claims.projectId claims.sub ps
        return ps : Handler (List String)).Along (.history (readRule cr)) post h := by
  refine (Prog.along_bind _ _ _ _ _).mpr ?_
  unfold setPerms
  split
  · next hconn =>
    refine (Prog.along_bind _ _ _ _ _).mpr ((along_redis _ _).mpr fun r => ⟨?_, hwritten hconn r⟩)
    intro s hs
    obtain ⟨h', hh⟩ := hread s hs
    exact ⟨h', ps, hh, rfl⟩
  · next hconn => exact hunwritten (Bool.eq_false_iff.mpr hconn)

/-- Loading and writing, when the cache has not answered. -/
theorem along_loadPerms {h : List (Event Resp)}
    (hnamed : ∀ s, scopeOf cr claims.key = some s →
      tenant = some s.tenant ∧ project = s.project ∧ userId = s.user)
    {post : List (Event Resp) → Except Failure (List String) → Prop}
    (herr : ∀ h' e, post (h ++ h') (.error e))
    (hok : ∀ h' ps, (svc.cacheConn = true → ∀ tid, tenant = some tid →
      PermsRead cr claims ⟨userId, tid, project⟩ (h ++ h') ps) → post (h ++ h') (.ok ps)) :
    (do let p ← loadPermissions userId tenant project
        setPerms cr svc claims.tenantId claims.projectId claims.sub p
        return p : Handler (List String)).Along (.history (readRule cr)) post h := by
  refine (Prog.along_bind _ _ _ _ _).mpr ?_
  cases tenant with
  | none =>
    refine (along_query _ _ _).mpr ⟨fun ps => ⟨trivial, ?_⟩, fun d => ⟨trivial, herr [_] _⟩⟩
    refine along_setPerms ?_ ?_ ?_
    · intro s hs
      cases (hnamed s hs).1
    · intro hconn r
      simpa using hok [_, _] ps (by simp)
    · intro hconn
      exact hok [_] ps (by simp)
  | some tid =>
    refine (along_query _ _ _).mpr ⟨fun ps => ⟨trivial, ?_⟩, fun d => ⟨trivial, herr [_] _⟩⟩
    refine along_setPerms ?_ ?_ ?_
    · intro s hs
      obtain ⟨htid, rfl, rfl⟩ := hnamed s hs
      cases htid
      exact ⟨h, rfl⟩
    · intro hconn r
      have hperms := hok [⟨.sql (.getUserPermissionsScoped userId tid project), .ok ps⟩,
        ⟨.redis (.setEx claims.key (cr.permsToJson ps) permsTtlSecs), r⟩] ps ?_
      · simpa using hperms
      · rintro - tid' ⟨⟩
        exact .inr ⟨h, r, rfl⟩
    · intro hconn
      refine hok [_] ps ?_
      intro hconn'
      rw [hconn] at hconn'
      cases hconn'

theorem along_tokenPermissions {h : List (Event Resp)}
    (hnamed : ∀ s, scopeOf cr claims.key = some s →
      tenant = some s.tenant ∧ project = s.project ∧ userId = s.user)
    {post : List (Event Resp) → Except Failure (List String) → Prop}
    (herr : ∀ h' e, post (h ++ h') (.error e))
    (hok : ∀ h' ps, (svc.cacheConn = true → ∀ tid, tenant = some tid →
      PermsRead cr claims ⟨userId, tid, project⟩ (h ++ h') ps) → post (h ++ h') (.ok ps)) :
    (tokenPermissions cr svc claims userId tenant project).Along (.history (readRule cr)) post h := by
  have hload : ∀ h₀, (do
      let p ← loadPermissions userId tenant project
      setPerms cr svc claims.tenantId claims.projectId claims.sub p
      return p : Handler (List String)).Along (.history (readRule cr)) post (h ++ h₀) := by
    intro h₀
    refine along_loadPerms hnamed (fun h' e => ?_) (fun h' ps hread => ?_)
    · rw [List.append_assoc]
      exact herr _ e
    · rw [List.append_assoc] at hread ⊢
      exact hok _ ps hread
  refine (Prog.along_bind _ _ _ _ _).mpr ?_
  unfold getPerms
  split
  · refine (Prog.along_bind _ _ _ _ _).mpr ((along_redis _ _).mpr fun r => ⟨trivial, ?_⟩)
    rcases r with _ | _ | v
    · exact hload [_]
    · exact hload [_]
    · cases hv : cr.permsFromJson v with
      | none =>
        simp only [Prog.then_ok, hv]
        exact hload [_]
      | some ps =>
        simp only [Prog.then_ok, hv]
        refine hok [_] ps ?_
        intro _ tid _
        exact .inl ⟨h, v, rfl, hv⟩
  · simpa using hload []

/-- The tenant and the project of a token are what its claims name. -/
theorem along_tokenTenant {ok : List (Event Resp) → Event Resp → Prop}
    (hok : ∀ h s r, ok h ⟨.sql s, r⟩) {h : List (Event Resp)}
    {post : List (Event Resp) → Except Failure (Option Uuid) → Prop}
    (herr : ∀ h' e, post (h ++ h') (.error e))
    (hnone : claims.tenantId = "" → post h (.ok none))
    (hsome : ∀ h' tid, claims.tenantId ≠ "" → cr.parseUuid claims.tenantId = some tid →
      post (h ++ h') (.ok (some tid))) :
    (tokenTenant cr userId claims).Along (.history ok) post h := by
  unfold tokenTenant
  split
  · next hempty => exact hnone (by simpa using hempty)
  · next hempty =>
    have hempty : claims.tenantId ≠ "" := by simpa using hempty
    cases htid : cr.parseUuid claims.tenantId with
    | none => simpa using herr [] _
    | some tid =>
      refine (Prog.along_bind _ _ _ _ _).mpr ?_
      refine (Prog.along_bind _ _ _ _ _).mpr ((along_query _ _ _).mpr ⟨fun member => ?_, fun d => ?_⟩)
      · refine ⟨hok _ _ _, (Prog.along_bind _ _ _ _ _).mpr ?_⟩
        cases member with
        | true => exact hsome [_] tid hempty htid
        | false => exact herr [_] _
      · exact ⟨hok _ _ _, herr [_] _⟩

theorem along_tokenProject {ok : List (Event Resp) → Event Resp → Prop} {h : List (Event Resp)}
    {post : List (Event Resp) → Except Failure (Option Uuid) → Prop}
    (herr : ∀ e, post h (.error e))
    (hnone : claims.projectId = "" → post h (.ok none))
    (hsome : ∀ p, claims.projectId ≠ "" → cr.parseUuid claims.projectId = some p →
      post h (.ok (some p))) :
    (tokenProject cr claims).Along (.history ok) post h := by
  unfold tokenProject
  split
  · next hempty => exact hnone (by simpa using hempty)
  · next hempty =>
    cases hp : cr.parseUuid claims.projectId with
    | none => exact herr _
    | some p => exact hsome p (by simpa using hempty) hp

end Reads

section Answers

variable (cr : Crates) (svc : AuthSvc) (md : MetadataMap)

/-- From the tenant and the project of a token to the answer. -/
theorem along_answer (hcr : CacheCrates cr) {claims : Claims} {userId : Uuid}
    {tenant project : Option Uuid} {h : List (Event Resp)} {req : ValidateTokenRequest}
    (hparse : ⟨.sys (.jwtParseAccess req.accessToken), some claims⟩ ∈ h)
    (hactive : ⟨.sql (.isUserActive userId), .ok true⟩ ∈ h)
    (huser : cr.parseUuid claims.sub = some userId)
    (htenant : (tenant = none ∧ claims.tenantId = "") ∨
      ∃ tid, tenant = some tid ∧ cr.parseUuid claims.tenantId = some tid)
    (hproject : (project = none ∧ claims.projectId = "") ∨
      ∃ p, project = some p ∧ claims.projectId ≠ "" ∧ cr.parseUuid claims.projectId = some p) :
    (do let roles ← tokenRoles userId tenant project
        let permissions ← tokenPermissions cr svc claims userId tenant project
        return ⟨claims.sub, claims.email, roles, permissions, claims.tenantId, claims.projectId⟩ :
      Handler ValidateTokenResponse).Along (.history (readRule cr))
      (Prog.Then (.history (readRule cr)) (readPost cr (.rpc svc md (.validateToken req)))
        fun a => pure (.token a)) h := by
  refine Prog.Emits.bind_stretch readRule_of_unwritten (P := Unwritten) ?_ (fun _ _ => trivial)
    fun roles h' => ?_
  · cases tenant <;> simp [tokenRoles, Prog.Emits, Unwritten]
  refine (Prog.along_bind _ _ _ _ _).mpr (along_tokenPermissions ?_ (fun _ _ => trivial) ?_)
  · intro s hs
    obtain ⟨htid, hsub, hpid⟩ := scopeOf_claims hcr hs
    rw [hsub, hcr.uuid] at huser
    refine ⟨?_, ?_, (Option.some.inj huser).symm⟩
    · rcases htenant with ⟨-, hempty⟩ | ⟨tid, rfl, hparsed⟩
      · exact absurd (htid.symm.trans hempty) (hcr.nonempty _)
      · rw [htid, hcr.uuid] at hparsed
        rw [hparsed]
    · rcases hproject with ⟨rfl, hempty⟩ | ⟨p, rfl, hne, hparsed⟩
      · rcases hpid with hpid | ⟨hpid, -⟩
        · cases hsp : s.project with
          | none => rfl
          | some p =>
            rw [hsp] at hpid
            exact absurd (hpid.symm.trans hempty) (hcr.nonempty _)
        · rw [hempty] at hpid
          exact absurd hpid (by decide)
      · rcases hpid with hpid | ⟨hpid, -⟩
        · cases hsp : s.project with
          | none =>
            rw [hsp] at hpid
            exact absurd hpid hne
          | some p' =>
            have hpid : claims.projectId = cr.formatUuid p' := by rw [hpid, hsp]; rfl
            rw [hpid, hcr.uuid] at hparsed
            rw [hparsed]
        · rw [hpid, hcr.dash] at hparsed
          cases hparsed
  · intro h'' ps hperms
    refine ⟨claims, List.mem_append_left _ (List.mem_append_left _ hparse), rfl, rfl, rfl, ?_⟩
    intro hconn hne
    rcases htenant with ⟨-, hempty⟩ | ⟨tid, rfl, hparsed⟩
    · exact absurd hempty hne
    · refine ⟨⟨userId, tid, project⟩, ?_,
        List.mem_append_left _ (List.mem_append_left _ hactive), hperms hconn tid rfl⟩
      rcases hproject with ⟨rfl, hempty⟩ | ⟨p, rfl, hpne, hpparsed⟩
      · simp [Claims.scope, huser, hparsed, hempty]
      · simp [Claims.scope, huser, hparsed, hpne, hpparsed]

theorem along_validateToken_reads (hcr : CacheCrates cr) (req : ValidateTokenRequest) :
    ((Rpc.validateToken req).handle cr svc md).Along (.history (readRule cr))
      (readPost cr (.rpc svc md (.validateToken req))) [] := by
  have hrule := @readRule_of_unwritten cr
  refine (Prog.along_bind _ _ _ _ _).mpr ?_
  refine (Prog.along_bind _ _ _ _ _).mpr ((along_sys _ _).mpr fun parsed => ⟨trivial, ?_⟩)
  refine (Prog.along_bind _ _ _ _ _).mpr ((Prog.along_okOr _ _ _ _ _).mpr ⟨fun _ => trivial, ?_⟩)
  rintro claims rfl
  refine Prog.Emits.bind_stretch hrule (unwritten_refuseIfDenied svc _) (fun _ _ => trivial)
    fun _ h₁ => ?_
  refine (Prog.along_bind _ _ _ _ _).mpr ((Prog.along_okOr _ _ _ _ _).mpr ⟨fun _ => trivial, ?_⟩)
  intro userId huser
  refine (Prog.along_bind _ _ _ _ _).mpr ((along_query _ _ _).mpr
    ⟨fun active => ⟨trivial, ?_⟩, fun d => ⟨trivial, trivial⟩⟩)
  refine (Prog.along_bind _ _ _ _ _).mpr ((Prog.along_failIf _ _ _ _ _).mpr
    ⟨fun _ => trivial, fun hactive => ?_⟩)
  obtain rfl : active = true := by simpa using hactive
  have hparse : ∀ h', ⟨.sys (.jwtParseAccess req.accessToken), some claims⟩ ∈
      [⟨.sys (.jwtParseAccess req.accessToken), some claims⟩] ++ h₁ ++
        [⟨.sql (.isUserActive userId), .ok true⟩] ++ h' := by simp
  have hactive : ∀ h', ⟨.sql (.isUserActive userId), .ok true⟩ ∈
      [⟨.sys (.jwtParseAccess req.accessToken), some claims⟩] ++ h₁ ++
        [⟨.sql (.isUserActive userId), .ok true⟩] ++ h' := by simp
  refine (Prog.along_bind _ _ _ _ _).mpr (along_tokenTenant (fun _ _ _ => trivial) (fun _ _ => trivial) ?_ ?_)
  · intro hempty
    refine (Prog.along_bind _ _ _ _ _).mpr (along_tokenProject (fun _ => trivial) ?_ ?_)
    · intro hp
      exact along_answer cr svc md hcr (by simp) (by simp) huser (.inl ⟨rfl, hempty⟩)
        (.inl ⟨rfl, hp⟩)
    · intro p hne hp
      exact along_answer cr svc md hcr (by simp) (by simp) huser (.inl ⟨rfl, hempty⟩)
        (.inr ⟨p, rfl, hne, hp⟩)
  · intro h₂ tid hne htid
    refine (Prog.along_bind _ _ _ _ _).mpr (along_tokenProject (fun _ => trivial) ?_ ?_)
    · intro hp
      exact along_answer cr svc md hcr (hparse h₂) (hactive h₂) huser (.inr ⟨tid, rfl, htid⟩)
        (.inl ⟨rfl, hp⟩)
    · intro p hpne hp
      exact along_answer cr svc md hcr (hparse h₂) (hactive h₂) huser (.inr ⟨tid, rfl, htid⟩)
        (.inr ⟨p, rfl, hpne, hp⟩)

/-- What is written under no scope's key. -/
def Unscoped : Op → Prop
  | .redis (.setEx key ..) => scopeOf cr key = none
  | _ => True

theorem Unwritten.unscoped (o : Op) (h : Unwritten o) : Unscoped cr o := by
  cases o with
  | sql s => trivial
  | sys s => trivial
  | redis c => cases c <;> first | exact h.elim | trivial

theorem scopeOf_denylist (jti : String) : scopeOf cr ("denylist:" ++ jti) = none := by
  cases h : scopeOf cr ("denylist:" ++ jti) with
  | none => rfl
  | some s =>
    have hlist := congrArg String.toList (key_of_scopeOf h)
    simp [Scope.key, permsKey] at hlist

theorem unscoped_logout (req : LogoutRequest) : (logout cr svc md req).Emits (Unscoped cr) := by
  refine .bind (by simp [Prog.Emits, Unscoped]) fun _ => ?_
  refine .bind ?_ fun _ => by simp [audit, Prog.Emits, Unscoped]
  unfold denyAccessToken
  split
  · trivial
  · refine .bind (by simp [Prog.Emits, Unscoped]) ?_
    rintro (_ | claims)
    · trivial
    · refine .bind ?_ fun _ => .bind (by simp [Prog.Emits, Unscoped]) fun _ => ?_
      · unfold recordRevoked
        cases fromTimestamp claims.exp <;> simp [Prog.Emits, Unscoped]
      · simp [deny, Prog.Emits, Unscoped, scopeOf_denylist]

theorem unscoped_handle (r : Rpc) (h : ∀ req, r ≠ .validateToken req) :
    (r.handle cr svc md).Emits (Unscoped cr) := by
  by_cases hr : r.unwritten = true
  · exact (unwritten_handle cr svc md r hr).imp (Unwritten.unscoped cr)
  · cases r
    case logout req => exact .bind (unscoped_logout cr svc md req) fun _ => trivial
    case validateToken req => exact absurd rfl (h req)
    all_goals exact absurd rfl hr

end Answers

/-- Every call but validate_token. -/
theorem unscoped_body (cr : Crates) (k : Call)
    (hk : ∀ svc md req, k ≠ .rpc svc md (.validateToken req)) :
    (k.body cr).Emits (Unscoped cr) := by
  cases k with
  | rpc svc md r =>
    apply unscoped_handle
    rintro req rfl
    exact hk svc md req rfl
  | start env =>
    exact .bind ((unwritten_bootstrap cr env).imp (Unwritten.unscoped cr)) fun _ => trivial
  | profileCreationFailed userId reason =>
    refine .bind ?_ fun _ => trivial
    unfold profileCreationFailed
    cases cr.parseUuid userId <;> simp [Prog.Emits, Unscoped]

theorem along_readBody {cr : Crates} (hcr : CacheCrates cr) (k : Call) :
    (k.body cr).Along (.history (readRule cr)) (readPost cr k) [] := by
  by_cases hk : ∃ svc md req, k = .rpc svc md (.validateToken req)
  · obtain ⟨svc, md, req, rfl⟩ := hk
    exact along_validateToken_reads cr svc md hcr req
  · have hk : ∀ svc md req, k ≠ .rpc svc md (.validateToken req) :=
      fun svc md req h => hk ⟨svc, md, req, h⟩
    refine (unscoped_body cr k hk).along_inv (Q := fun _ => True) ?_ ?_ trivial
    · rintro h ⟨o, r⟩ ho -
      refine ⟨?_, trivial⟩
      cases o with
      | sql s => trivial
      | sys s => trivial
      | redis c =>
        cases c with
        | setEx key value ttl =>
          intro s hs
          rw [show scopeOf cr key = none from ho] at hs
          cases hs
        | _ => trivial
    · intro h res _
      unfold readPost
      split
      · next svc md req _ _ => exact absurd rfl (hk svc md req)
      · trivial

abbrev TracksReads (cr : Crates) (w : World) : Prop :=
  Pool.Tracks (fun _ => .history (readRule cr)) (readPost cr) (fun _ => []) w

end IamAuth
