import IamAuth.Bootstrap

/-!
# The service as a whole

Every call the service can run: an RPC at some replica, a start of a replica,
one event of the saga. Calls interleave statement by statement over one Postgres
and one Redis.
-/

set_option autoImplicit false

namespace IamAuth

open Interleave

inductive Rpc where
  | register (req : RegisterRequest)
  | login (req : LoginRequest)
  | loginTotp (req : LoginTotpRequest)
  | refresh (req : RefreshRequest)
  | logout (req : LogoutRequest)
  | validateToken (req : ValidateTokenRequest)
  | listMyMemberships
  | switchTenant (req : SwitchTenantRequest)
  | enrollTotp
  | getTotpStatus
  | activateTotp (req : CodeRequest)
  | disableTotp (req : CodeRequest)
  | createApiKey (req : CreateApiKeyRequest)
  | listApiKeys
  | revokeApiKey (req : RevokeApiKeyRequest)
  | validateApiKey (req : ValidateApiKeyRequest)
  | deleteUser (req : DeleteUserRequest)
  | restoreUser (req : RestoreUserRequest)
  | requestEmailVerification (req : EmailRequest)
  | verifyEmail (req : TokenRequest)
  | requestPasswordReset (req : EmailRequest)
  | resetPassword (req : ResetPasswordRequest)
  | changePassword (req : ChangePasswordRequest)
  | getClient (req : ClientRequest)
  | createAuthorizationCode (req : CreateAuthorizationCodeRequest)
  | getConsent (req : GetConsentRequest)
  | saveConsent (req : SaveConsentRequest)
  | exchangeAuthorizationCode (req : ExchangeRequest)
  | registerClient (req : RegisterClientRequest)
  | createTenant (req : CreateTenantRequest)
  | listTenants
  | createProject (req : CreateProjectRequest)
  | listProjects
  | addMember (req : EmailRequest)
  | removeMember (req : UserIdRequest)
  | listMembers
  | createRole (req : RoleRequest)
  | updateRole (req : RoleRequest)
  | deleteRole (req : DeleteRoleRequest)
  | listRoles
  | assignRole (req : AssignRoleRequest)
  | assignRoleBulk (req : AssignRoleBulkRequest)
  | revokeRole (req : AssignRoleRequest)
  | getUserRoleAssignments (req : UserIdRequest)
  | listPermissions
  | grantPermission (req : PermissionRequest)
  | revokePermission (req : PermissionRequest)
  | listAuditEvents (req : ListAuditEventsRequest)
  deriving DecidableEq, Repr

inductive Response where
  | registered (r : RegisterResponse)
  | tokens (r : TokenPair)
  | success (r : Bool)
  | token (r : ValidateTokenResponse)
  | memberships (r : List Membership)
  | enrollment (r : EnrollTotpResponse)
  | newApiKey (r : CreateApiKeyResponse)
  | apiKeys (r : List ApiKey)
  | apiKey (r : ValidateApiKeyResponse)
  | devToken (r : DevTokenResponse)
  | client (r : OAuthClientResponse)
  | code (r : String)
  | scopes (r : List String)
  | oidcTokens (r : OidcTokenResponse)
  | newClient (r : RegisterClientResponse)
  | tenant (r : Tenant)
  | tenants (r : List Tenant)
  | project (r : Project)
  | projects (r : List Project)
  | member (r : Member)
  | members (r : List Member)
  | role (r : Role)
  | roles (r : List Role)
  | bulk (r : AssignRoleBulkResponse)
  | assignments (r : List RoleAssignment)
  | permissions (r : List RoleRow)
  | auditEvents (r : List AuditRow)
  | done
  deriving DecidableEq, Repr

/-- An RPC with the metadata the gateway forwards, at one replica. -/
def Rpc.handle (cr : Crates) (svc : AuthSvc) (md : MetadataMap) : Rpc → Handler Response
  | .register req => return .registered (← IamAuth.register cr svc req)
  | .login req => return .tokens (← IamAuth.login cr svc req)
  | .loginTotp req => return .tokens (← IamAuth.loginTotp cr svc req)
  | .refresh req => return .tokens (← IamAuth.refresh cr svc req)
  | .logout req => return .success (← IamAuth.logout cr svc md req)
  | .validateToken req => return .token (← IamAuth.validateToken cr svc req)
  | .listMyMemberships => return .memberships (← IamAuth.listMyMemberships cr md)
  | .switchTenant req => return .tokens (← IamAuth.switchTenant cr svc md req)
  | .enrollTotp => return .enrollment (← IamAuth.enrollTotp cr svc md)
  | .getTotpStatus => return .success (← IamAuth.getTotpStatus cr md)
  | .activateTotp req => return .success (← IamAuth.activateTotp cr svc md req)
  | .disableTotp req => return .success (← IamAuth.disableTotp cr svc md req)
  | .createApiKey req => return .newApiKey (← IamAuth.createApiKey cr svc md req)
  | .listApiKeys => return .apiKeys (← IamAuth.listApiKeys cr md)
  | .revokeApiKey req => return .success (← IamAuth.revokeApiKey cr svc md req)
  | .validateApiKey req => return .apiKey (← IamAuth.validateApiKey cr req)
  | .deleteUser req => return .success (← IamAuth.deleteUser cr svc md req)
  | .restoreUser req => return .success (← IamAuth.restoreUser cr svc md req)
  | .requestEmailVerification req =>
    return .devToken (← IamAuth.requestEmailVerification cr svc req)
  | .verifyEmail req => return .success (← IamAuth.verifyEmail cr svc req)
  | .requestPasswordReset req => return .devToken (← IamAuth.requestPasswordReset cr svc req)
  | .resetPassword req => return .success (← IamAuth.resetPassword cr svc req)
  | .changePassword req => return .success (← IamAuth.changePassword cr svc md req)
  | .getClient req => return .client (← IamAuth.getClient req)
  | .createAuthorizationCode req => return .code (← IamAuth.createAuthorizationCode cr req)
  | .getConsent req => return .scopes (← IamAuth.getConsent cr req)
  | .saveConsent req => return .success (← IamAuth.saveConsent cr req)
  | .exchangeAuthorizationCode req =>
    return .oidcTokens (← IamAuth.exchangeAuthorizationCode cr svc req)
  | .registerClient req => return .newClient (← IamAuth.registerClient cr md req)
  | .createTenant req => return .tenant (← IamAuth.createTenant cr svc md req)
  | .listTenants => return .tenants (← IamAuth.listTenants cr md)
  | .createProject req => return .project (← IamAuth.createProject cr md req)
  | .listProjects => return .projects (← IamAuth.listProjects cr md)
  | .addMember req => return .member (← IamAuth.addMember cr svc md req)
  | .removeMember req => return .success (← IamAuth.removeMember cr svc md req)
  | .listMembers => return .members (← IamAuth.listMembers cr md)
  | .createRole req => return .role (← IamAuth.createRole cr svc md req)
  | .updateRole req => return .role (← IamAuth.updateRole cr md req)
  | .deleteRole req => return .success (← IamAuth.deleteRole cr svc md req)
  | .listRoles => return .roles (← IamAuth.listRoles cr md)
  | .assignRole req => return .success (← IamAuth.assignRole cr svc md req)
  | .assignRoleBulk req => return .bulk (← IamAuth.assignRoleBulk cr svc md req)
  | .revokeRole req => return .success (← IamAuth.revokeRole cr svc md req)
  | .getUserRoleAssignments req =>
    return .assignments (← IamAuth.getUserRoleAssignments cr md req)
  | .listPermissions => return .permissions (← IamAuth.listPermissions md)
  | .grantPermission req => return .success (← IamAuth.grantPermission cr svc md req)
  | .revokePermission req => return .success (← IamAuth.revokePermission cr svc md req)
  | .listAuditEvents req => return .auditEvents (← IamAuth.listAuditEvents cr md req)

inductive Call where
  | rpc (svc : AuthSvc) (md : MetadataMap) (rpc : Rpc)
  | start (env : BootstrapEnv)
  | profileCreationFailed (userId reason : String)
  deriving DecidableEq, Repr

def Call.body (cr : Crates) : Call → Handler Response
  | .rpc svc md r => r.handle cr svc md
  | .start env => do
    bootstrap cr env
    return .done
  | .profileCreationFailed userId reason => do
    IamAuth.profileCreationFailed cr userId reason
    return .done

/-- The calls in flight over the shared state, and the labels of a run. -/
abbrev World := Pool Call Resp Failure Response State

abbrev Act := Label Call Choice Outage

/-- Where a run of the service leads from a state in which no call is in flight. -/
abbrev runFrom (cr : Crates) (conn : DbRole) (st : State) (ls : List Act) : World :=
  Pool.run (machine cr conn) (Call.body cr) (Pool.init st) ls

theorem runFrom_append (cr : Crates) (conn : DbRole) (st : State) (ls ls' : List Act) :
    runFrom cr conn st (ls ++ ls') =
      Pool.run (machine cr conn) (Call.body cr) (runFrom cr conn st ls) ls' :=
  Pool.run_append _ _ _ _ _

/-- What a step of a call with a statement to issue does to the service. -/
theorem world_step (cr : Crates) (conn : DbRole) {w : World} {i : Nat} {o : Op}
    (hp : w.pending i = some o) (c : Choice) :
    (Pool.next (machine cr conn) (Call.body cr) w (.step i c)).state =
      ((machine cr conn).exec o c w.state).2 ∧
    (Pool.next (machine cr conn) (Call.body cr) w (.step i c)).log =
      w.log ++ [(i, ⟨o, ((machine cr conn).exec o c w.state).1⟩)] := Pool.next_step hp c

/-- A property of the database that every statement keeps at such choices holds along
a run. -/
theorem db_run_of (cr : Crates) (conn : DbRole) {P : Choice → Prop} {I : Db → Prop}
    (hstep : ∀ {s : Sql} {c : Choice} {db db' : Db} {r : Reply s}, P c →
      s.exec conn c db = .ok (r, db') → I db → I db')
    {w : World} (hw : I w.state.db) {ls : List Act} (hls : ∀ i c, .step i c ∈ ls → P c) :
    I (Pool.run (machine cr conn) (Call.body cr) w ls).state.db := by
  induction ls generalizing w with
  | nil => exact hw
  | cons l ls ih =>
    apply ih
    · rcases db_next cr conn (Call.body cr) w l with hsame | ⟨i, c, s, r, db', hl, -, hx, -, hnew⟩
      · rw [hsame]
        exact hw
      · rw [hnew]
        exact hstep (hls i c (by simp [hl])) hx hw
    · exact fun i c hc => hls i c (List.mem_cons_of_mem l hc)

theorem db_run (cr : Crates) (conn : DbRole) {I : Db → Prop}
    (hstep : ∀ {s : Sql} {c : Choice} {db db' : Db} {r : Reply s},
      s.exec conn c db = .ok (r, db') → I db → I db')
    {w : World} (hw : I w.state.db) (ls : List Act) :
    I (Pool.run (machine cr conn) (Call.body cr) w ls).state.db :=
  db_run_of cr conn (P := fun _ => True) (fun _ => hstep) hw fun _ _ _ => trivial

/-- What one step of a call does to the database, when the call only issues
statements in `P`. -/
theorem step_of_body {cr : Crates} {conn : DbRole} {st : State} {ls : List Act} {i : Nat}
    {P : Call → Op → Prop} (hbody : ∀ k : Call, (k.body cr).Emits (P k)) {k : Call}
    (hk : (runFrom cr conn st ls).callOf i = some k) (c : Choice) {R : Db → Db → Prop}
    (hrefl : ∀ db, R db db)
    (hexec : ∀ {s : Sql} {db db' : Db} {r : Reply s}, P k (.sql s) →
      s.exec conn c db = .ok (r, db') → R db db') :
    R (runFrom cr conn st ls).state.db (runFrom cr conn st (ls ++ [.step i c])).state.db := by
  rw [runFrom_append, Pool.run_cons, Pool.run_nil]
  rcases db_next cr conn (Call.body cr) (runFrom cr conn st ls) (.step i c) with
    hsame | ⟨j, c', s, r, db', hl, hp, hx, -, hnew⟩
  · rw [hsame]
    exact hrefl _
  · cases hl
    have ht : Pool.Tracks (fun k => Monitor.emitting (P k)) (fun _ _ _ => True) (fun _ => ())
        (runFrom cr conn st ls) := Pool.tracks_run hbody st ls
    obtain ⟨k', hk', hs⟩ := ht.pending hp (.ok r)
    cases hk.symm.trans hk'
    rw [hnew]
    exact hexec hs hx

/-- What a later call read was in the database at one of its steps. -/
theorem read_later {cr : Crates} {conn : DbRole} {w : World} {k : Nat} {ls : List Act} {s : Sql}
    {r : Reply s} (hfresh : ∀ i e, (i, e) ∈ w.log → i < w.threads.length)
    (hk : w.threads.length ≤ k)
    (hread : ⟨.sql s, .ok r⟩ ∈ (Pool.run (machine cr conn) (Call.body cr) w ls).hist k) :
    ∃ pre c post db', ls = pre ++ .step k c :: post ∧
      (Pool.run (machine cr conn) (Call.body cr) w pre).pending k = some (.sql s) ∧
      c.fails = false ∧
      s.exec conn c (Pool.run (machine cr conn) (Call.body cr) w pre).state.db = .ok (r, db') := by
  obtain ⟨pre, c, post, hls, hp, hreply⟩ := Pool.event_of_later hfresh hk hread
  obtain ⟨hc, db', hx, -⟩ := exec_sql_ok hreply.symm
  exact ⟨pre, c, post, db', hls, hp, hc, hx⟩

/-- Call `i` issued this statement after `pre`, at this choice, and it committed. -/
structure CommitsAt (cr : Crates) (conn : DbRole) (st : State) (ls : List Act) (i : Nat) (s : Sql)
    (r : Reply s) (pre : List Act) (c : Choice) : Prop where
  split : ∃ post, ls = pre ++ .step i c :: post
  pending : (runFrom cr conn st pre).pending i = some (.sql s)
  running : c.fails = false
  exec : s.exec conn c (runFrom cr conn st pre).state.db =
    .ok (r, (runFrom cr conn st (pre ++ [.step i c])).state.db)

/-- The statements of a call that got an answer have committed, one after the other. -/
theorem commitsAt {cr : Crates} {conn : DbRole} {st : State} {ls : List Act} {i n : Nat} {s : Sql}
    {r : Reply s} (h : ((runFrom cr conn st ls).hist i)[n]? = some ⟨.sql s, .ok r⟩) :
    ∃ pre c, CommitsAt cr conn st ls i s r pre c ∧
      (runFrom cr conn st pre).hist i = ((runFrom cr conn st ls).hist i).take n := by
  obtain ⟨hn, hget⟩ := List.getElem?_eq_some_iff.mp h
  have hsplit := (List.take_append_drop n ((runFrom cr conn st ls).hist i)).symm
  rw [List.drop_eq_getElem_cons hn, hget] at hsplit
  obtain ⟨pre, c, post, hls, hhist, hp, hreply, hstate⟩ := Pool.hist_origin hsplit
  obtain ⟨hc, db', hx, hdb⟩ := exec_sql_ok hreply.symm
  refine ⟨pre, c, ⟨⟨post, hls⟩, hp, hc, ?_⟩, hhist⟩
  rw [hx, ← hdb]
  exact congrArg (fun st : State => Except.ok (r, st.db)) hstate.symm

/-- What a call drew from a crate is what the crate gave at one of its steps. -/
theorem drawnAt {cr : Crates} {conn : DbRole} {st : State} {ls : List Act} {i n : Nat} {s : Sys}
    {r : SysReply s} (h : ((runFrom cr conn st ls).hist i)[n]? = some ⟨.sys s, r⟩) :
    ∃ pre c post, ls = pre ++ .step i c :: post ∧ s.exec cr c = r := by
  have hmem := Pool.mem_hist.1 (List.mem_of_getElem? h)
  rcases Pool.event_origin hmem with hold | ⟨pre, c, post, hls, -, hr, -⟩
  · cases hold
  · exact ⟨pre, c, post, hls, hr.symm⟩

/-! ## A replica to run the model on -/

namespace Sample

/-- No Redis, no audit log, no TOTP key; locks after three failures. -/
def svc : AuthSvc where
  config := ⟨3, 900, false, false, false, "http://localhost:8080"⟩
  refreshTtlSecs := 2592000
  accessTtlSecs := 900
  dummyHash := "dummy"
  cacheConn := false
  totpEnc := ⟨none⟩
  scanFuel := 1

/-- The metadata of a caller with these permissions, acting in this tenant. -/
def metadata (user tenant : Uuid) (perms : String) : MetadataMap :=
  [("x-user-id", formatUuid user), ("x-tenant-id", formatUuid tenant),
    ("x-user-permissions", perms)]

/-- A user of the default tenant, with the given second factor. -/
def user (id : Uuid) (secret : Option String) (enabled : Bool) : UserRow :=
  ⟨id, "u@iam.local", "pw", "active", true, 0, none, secret, enabled, none⟩

/-- A migrated database with this one user, a member of the default tenant. -/
def stateOf (u : UserRow) : State where
  db := { migrated with
    users := [u]
    memberships := [⟨u.id, defaultTenantId, "active"⟩] }
  redis := []

/-- Starts a call and runs it alone for as many steps as there are choices. -/
def alone (i : Nat) (k : Call) (cs : List Choice) : List Act :=
  .start k :: cs.map (.step i)

/-- The first registration, which creates user 10. -/
def registration : List Act :=
  alone 0 (.rpc svc [] (.register ⟨"u@iam.local", "password"⟩))
    (List.replicate 4 (choice 0 10 ""))

end Sample

end IamAuth
