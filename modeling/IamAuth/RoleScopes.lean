import IamAuth.CacheWrites
import IamAuth.RoleTenancy

/-!
# The scope of a role assignment

assign_role appends rows of one user, tenant and project, and revoke_role deletes
such rows. A token reads the tenant-wide rows of its user and tenant and those of
its own project, so neither call shows to a token outside the scope it names.
-/

set_option autoImplicit false

namespace IamAuth

open Interleave Relational

/-- Tokens of scope `s` see the assignments made at scope `a`. -/
structure Scope.Reaches (a s : Scope) : Prop where
  user : s.user = a.user
  tenant : s.tenant = a.tenant
  project : a.project = none ∨ s.project = a.project

/-- The value of `parse_opt_project`. -/
def optProject (cr : Crates) (s : String) : Option (Option Uuid) :=
  if s = "" then some none else (cr.parseUuid s).map some

/-- The scope that a request to assign or revoke a role is about. -/
def AssignRoleRequest.scope (cr : Crates) (md : MetadataMap) (req : AssignRoleRequest) :
    Option Scope := do
  return ⟨← cr.parseUuid req.userId, ← activeTenantOpt cr md, ← optProject cr req.projectId⟩

/-! ## Assignments and permissions -/

section Rows

variable {conn : DbRole} {db db' : Db}

theorem mem_permissionNames {urs : List UserRole} {x : String} :
    x ∈ Repo.permissionNames urs db ↔ ∃ ur ∈ urs, ∃ rp ∈ db.rolePermissions,
      rp.roleId = ur.roleId ∧ ∃ p ∈ db.permissions, p.id = rp.permissionId ∧ p.name = x := by
  simp [Repo.permissionNames, and_assoc]

theorem permissionNames_mono {urs urs' : List UserRole} (hurs : urs ⊆ urs')
    (hgranted : db'.rolePermissions = db.rolePermissions)
    (hnamed : db'.permissions = db.permissions) :
    Repo.permissionNames urs db ⊆ Repo.permissionNames urs' db' := by
  intro x hx
  obtain ⟨ur, hur, hrest⟩ := mem_permissionNames.1 hx
  refine mem_permissionNames.2 ⟨ur, hurs hur, ?_⟩
  rw [hgranted, hnamed]
  exact hrest

/-- The permissions that the assignments meeting `q` give. -/
def permissionsOf (q : UserRole → Bool) (db : Db) : List String :=
  Repo.permissionNames (db.userRoles.filter q) db

/-- The assignments that a token of the scope sees. -/
def Scope.sees (s : Scope) (ur : UserRole) : Bool :=
  ur.userId == s.user && ur.tenantId == s.tenant && Repo.inProject s.project ur

theorem Scope.sees_iff {s : Scope} {ur : UserRole} :
    s.sees ur = true ↔ Scope.Reaches ⟨ur.userId, ur.tenantId, ur.projectId⟩ s := by
  have hproject : Repo.inProject s.project ur = true ↔
      ur.projectId = none ∨ s.project = ur.projectId := by
    unfold Repo.inProject
    cases ur.projectId <;> simp
  simp only [Scope.sees, Bool.and_eq_true, beq_iff_eq, hproject]
  constructor
  · rintro ⟨⟨huser, htenant⟩, hp⟩
    exact ⟨huser.symm, htenant.symm, hp⟩
  · intro h
    exact ⟨⟨h.user.symm, h.tenant.symm⟩, h.project⟩

theorem Scope.perms_eq (s : Scope) (db : Db) : s.perms conn db = permissionsOf s.sees db := by
  have hrows : Repo.scopedUserRoles (tenantGucTx conn s.tenant) s.user s.tenant s.project db =
      db.userRoles.filter s.sees := by
    rw [Repo.scopedUserRoles, Session.userRoles, List.filter_filter]
    apply List.filter_congr
    intro ur _
    -- A row that the token sees has its tenant, so row security lets it pass.
    by_cases ht : ur.tenantId = s.tenant
    · simp [Scope.sees, ht, Session.sees, tenantGucTx]
    · simp [Scope.sees, ht]
  rw [Scope.perms, Repo.getUserPermissionsScoped, hrows, permissionsOf]

theorem getUserPermissions_eq (user : Uuid) (db : Db) : Repo.getUserPermissions conn user db =
    permissionsOf (fun ur => ur.userId == user && (pool conn).sees (some ur.tenantId)) db := by
  rw [Repo.getUserPermissions, Session.userRoles, List.filter_filter, permissionsOf]

/-- A token that names a project sees what one that names none does. -/
theorem Scope.perms_project (conn : DbRole) (user tenant project : Uuid) (db : Db) :
    Scope.perms conn ⟨user, tenant, none⟩ db ⊆ Scope.perms conn ⟨user, tenant, some project⟩ db := by
  rw [Scope.perms_eq, Scope.perms_eq]
  refine permissionNames_mono (List.Sublist.subset ?_) rfl rfl
  apply List.monotone_filter_right
  intro ur hur
  have hur := Scope.sees_iff.1 hur
  refine Scope.sees_iff.2 ⟨hur.user, hur.tenant, .inl ?_⟩
  rcases hur.project with hp | hp
  · exact hp
  · exact hp.symm

theorem permissionsOf_frame {ts : List Table} (h : Frame ts db db') (hassigned : .userRoles ∉ ts)
    (hgranted : .rolePermissions ∉ ts) (q : UserRole → Bool) :
    permissionsOf q db' = permissionsOf q db := by
  rw [permissionsOf, permissionsOf, Repo.permissionNames, Repo.permissionNames,
    h.userRoles hassigned, h.rolePermissions hgranted, h.permissions]

end Rows

/-! ## The two statements -/

section Statements

variable {db db' : Db} {user tenant : Uuid} {project : Option Uuid} {name : String} {u : Unit}

theorem assignRole_ok (h : Repo.assignRole user name tenant project db = .ok (u, db')) :
    Repo.insertUserRoles (tenantTx tenant) user tenant project (Repo.resolveRole name tenant db) db =
      .ok db' := by
  unfold Repo.assignRole at h
  split at h
  · next h₁ =>
    cases h
    exact h₁
  · cases h

/-- An assignment removes no permission, and changes nothing for whoever does not
see it. -/
theorem permissionsOf_assign (h : Repo.assignRole user name tenant project db = .ok (u, db'))
    (q : UserRole → Bool) :
    permissionsOf q db ⊆ permissionsOf q db' ∧
      ((∀ r, q ⟨user, r, tenant, project⟩ = false) → permissionsOf q db' = permissionsOf q db) := by
  have hframe := frame_insertUserRoles (assignRole_ok h)
  obtain ⟨new, hnew, hall⟩ := insertUserRoles_rows (assignRole_ok h)
  have hgranted := hframe.rolePermissions (by simp)
  refine ⟨permissionNames_mono ?_ hgranted hframe.permissions, fun hq => ?_⟩
  · rw [hnew, List.filter_append]
    exact List.subset_append_left _ _
  · have hnone : new.filter q = [] := by
      apply List.filter_eq_nil_iff.mpr
      intro ur hur
      obtain ⟨⟨r, -, rfl⟩, -⟩ := hall ur hur
      simp [hq r]
    rw [permissionsOf, permissionsOf, hnew, List.filter_append, hnone, List.append_nil,
      Repo.permissionNames, Repo.permissionNames, hgranted, hframe.permissions]

/-- What revoke_role deletes. -/
theorem revokeRole_ok (h : Repo.revokeRole user name tenant project db = .ok (u, db')) :
    ∃ p : UserRole → Bool, db' = { db with userRoles := deleteWhere p db.userRoles } ∧
      ∀ ur, p ur = true → ur.userId = user ∧ ur.tenantId = tenant ∧ ur.projectId = project := by
  unfold Repo.revokeRole at h
  dsimp only at h
  split at h
  · cases h
  · cases h
    refine ⟨_, rfl, fun ur hur => ?_⟩
    simp only [Bool.and_eq_true, beq_iff_eq] at hur
    exact ⟨hur.1.1.1.2, hur.1.2, hur.2⟩

/-- A revocation adds no permission, and changes nothing for whoever does not see
what it deletes. -/
theorem permissionsOf_revoke (h : Repo.revokeRole user name tenant project db = .ok (u, db'))
    (q : UserRole → Bool) :
    permissionsOf q db' ⊆ permissionsOf q db ∧
      ((∀ r, q ⟨user, r, tenant, project⟩ = false) → permissionsOf q db' = permissionsOf q db) := by
  obtain ⟨p, rfl, hp⟩ := revokeRole_ok h
  refine ⟨permissionNames_mono ?_ rfl rfl, fun hq => ?_⟩
  · exact (List.filter_sublist.filter q).subset
  · have hsame : (deleteWhere p db.userRoles).filter q = db.userRoles.filter q := by
      apply filter_deleteWhere
      intro ur hur
      obtain ⟨huser, htenant, hproject⟩ := hp ur hur
      rw [← hq ur.roleId, ← huser, ← htenant, ← hproject]
    rw [permissionsOf, permissionsOf, hsame]
    rfl

end Statements

/-! ## The two calls -/

/-- Statements that no permission depends on, and the change of roles a request
asks for. -/
def RoleChange (cr : Crates) (md : MetadataMap) (req : AssignRoleRequest)
    (change : Uuid → String → Uuid → Option Uuid → Sql) : Op → Prop
  | .sql q => (.userRoles ∉ q.writes ∧ .rolePermissions ∉ q.writes) ∨
      ∃ a, req.scope cr md = some a ∧ q = change a.user req.roleName a.tenant a.project
  | _ => True

section Handlers

variable {cr : Crates} {md : MetadataMap} {P : Op → Prop}

theorem emitting_optProject (s : String) {post : Unit → Except Failure (Option Uuid) → Prop}
    (hfail : ∀ e, post () (.error e)) (hok : ∀ p, optProject cr s = some p → post () (.ok p)) :
    (parseOptProject cr s).Along (Monitor.emitting P) post () := by
  refine (along_parseOptProject _ _).mpr ⟨fun hs => hok _ (by simp [optProject, hs]), ?_, ?_⟩
  · exact fun _ _ => hfail _
  · exact fun p hs hp => hok _ (by simp [optProject, hs, hp])

theorem emitting_validateAssign (roleName projectId : String) (tenant : Uuid)
    {post : Unit → Except Failure (Option Uuid) → Prop}
    (hrole : P (.sql (.roleInTenant roleName tenant)))
    (hproject : ∀ p, P (.sql (.isProjectInTenant p tenant)))
    (hfail : ∀ e, post () (.error e))
    (hok : ∀ p, optProject cr projectId = some p → post () (.ok p)) :
    (validateAssign cr roleName projectId tenant).Along (Monitor.emitting P) post () := by
  refine (Prog.along_bind _ _ _ _ _).mpr ((along_query _ _ _).mpr
    ⟨fun visible => ⟨hrole, ?_⟩, fun _ => ⟨hrole, hfail _⟩⟩)
  refine (Prog.along_bind _ _ _ _ _).mpr ((Prog.along_failIf _ _ _ _ _).mpr
    ⟨fun _ => hfail _, fun _ => ?_⟩)
  refine (Prog.along_bind _ _ _ _ _).mpr (emitting_optProject projectId hfail fun p hp => ?_)
  cases p with
  | none => exact hok none hp
  | some pid =>
    refine (Prog.along_bind _ _ _ _ _).mpr ((along_query _ _ _).mpr
      ⟨fun inTenant => ⟨hproject pid, ?_⟩, fun _ => ⟨hproject pid, hfail _⟩⟩)
    refine (Prog.along_bind _ _ _ _ _).mpr ((Prog.along_failIf _ _ _ _ _).mpr
      ⟨fun _ => hfail _, fun _ => hok _ hp⟩)

variable (svc : AuthSvc)

theorem roleChange_audit (req : AssignRoleRequest)
    (change : Uuid → String → Uuid → Option Uuid → Sql) (action target detail : String) :
    (audit cr svc md action target detail).Emits (RoleChange cr md req change) := by
  simp [audit, Prog.Emits, RoleChange, Sql.writes]

/-- The change itself and what follows it. -/
theorem roleChange_rest (req : AssignRoleRequest)
    (change : Uuid → String → Uuid → Option Uuid → Sql) (e : Failure) (action : String)
    {a : Scope} (ha : req.scope cr md = some a) :
    (do
      let _ ← query (change a.user req.roleName a.tenant a.project) e
      invalidatePerms svc req.userId
      audit cr svc md action req.userId req.roleName
      return true : Handler Bool).Emits (RoleChange cr md req change) := by
  have hchange : RoleChange cr md req change
      (.sql (change a.user req.roleName a.tenant a.project)) := .inr ⟨a, ha, rfl⟩
  refine .bind ?_ fun _ => .bind (emits_invalidatePerms (fun _ _ => trivial) (fun _ => trivial) svc _)
    fun _ => .bind (roleChange_audit svc req change _ _ _) fun _ => trivial
  exact (along_query _ _ _).mpr ⟨fun _ => ⟨hchange, trivial⟩, fun _ => ⟨hchange, trivial⟩⟩

theorem roleChange_assignRole (req : AssignRoleRequest) :
    (assignRole cr svc md req).Emits (RoleChange cr md req .assignRole) := by
  refine .bind (by simp [Prog.Emits]) fun _ => ?_
  refine (Prog.along_bind _ _ _ _ _).mpr ((along_activeTenant _).mpr
    ⟨fun _ => trivial, fun _ _ => trivial, fun tenant htenant => ?_⟩)
  refine (Prog.along_bind _ _ _ _ _).mpr ((along_parseUserId _ _).mpr
    ⟨fun _ => trivial, fun user huser => ?_⟩)
  refine (Prog.along_bind _ _ _ _ _).mpr ?_
  apply emitting_validateAssign
  · exact .inl (by simp [Sql.writes])
  · exact fun _ => .inl (by simp [Sql.writes])
  · exact fun _ => trivial
  · intro project hproject
    have hscope : req.scope cr md = some ⟨user, tenant, project⟩ := by
      simp [AssignRoleRequest.scope, huser, htenant, hproject]
    exact roleChange_rest svc req .assignRole _ _ hscope

theorem roleChange_revokeRole (req : AssignRoleRequest) :
    (revokeRole cr svc md req).Emits (RoleChange cr md req .revokeRole) := by
  refine .bind (by simp [Prog.Emits]) fun _ => ?_
  refine (Prog.along_bind _ _ _ _ _).mpr ((along_activeTenant _).mpr
    ⟨fun _ => trivial, fun _ _ => trivial, fun tenant htenant => ?_⟩)
  refine (Prog.along_bind _ _ _ _ _).mpr ((along_parseUserId _ _).mpr
    ⟨fun _ => trivial, fun user huser => ?_⟩)
  refine Prog.Emits.bind (by simp [Prog.Emits, RoleChange, Sql.writes]) fun known => ?_
  refine .bind (by simp [Prog.Emits]) fun _ => ?_
  refine (Prog.along_bind _ _ _ _ _).mpr (emitting_optProject _ (fun _ => trivial) ?_)
  intro project hproject
  have hscope : req.scope cr md = some ⟨user, tenant, project⟩ := by
    simp [AssignRoleRequest.scope, huser, htenant, hproject]
  exact roleChange_rest svc req .revokeRole _ _ hscope

end Handlers

/-! ## What validate_token computes without a cache -/

/-- The permissions it computes from a database, for a token with these claims. -/
def Claims.view (cr : Crates) (conn : DbRole) (claims : Claims) : Option (Db → List String) :=
  if claims.tenantId = "" then (cr.parseUuid claims.sub).map (Repo.getUserPermissions conn)
  else (claims.scope cr).map fun s => s.perms conn

/-- It has loaded these permissions. -/
def Claims.Loaded (cr : Crates) (claims : Claims) (h : List (Event Resp)) (perms : List String) :
    Prop :=
  (claims.tenantId = "" ∧ ∃ user, cr.parseUuid claims.sub = some user ∧
    ⟨.sql (.getUserPermissions user), .ok perms⟩ ∈ h) ∨
  (claims.tenantId ≠ "" ∧ ∃ s, claims.scope cr = some s ∧
    ⟨.sql (.getUserPermissionsScoped s.user s.tenant s.project), .ok perms⟩ ∈ h)

def viewPost (cr : Crates) : Call → List (Event Resp) → Except Failure Response → Prop
  | .rpc svc _ (.validateToken req), h, .ok (.token resp) => svc.cacheConn = false → ∃ claims,
      ⟨.sys (.jwtParseAccess req.accessToken), some claims⟩ ∈ h ∧ claims.Loaded cr h resp.permissions
  | _, _, _ => True

section Answers

variable {cr : Crates} {svc : AuthSvc} {md : MetadataMap} {claims : Claims}
  {req : ValidateTokenRequest} {userId : Uuid} {tenant project : Option Uuid}

theorem along_view (hconn : svc.cacheConn = false) {h : List (Event Resp)}
    (hparse : ⟨.sys (.jwtParseAccess req.accessToken), some claims⟩ ∈ h)
    (hnone : tenant = none → claims.tenantId = "" ∧ cr.parseUuid claims.sub = some userId)
    (hsome : ∀ tid, tenant = some tid → claims.tenantId ≠ "" ∧
      claims.scope cr = some ⟨userId, tid, project⟩) :
    (do let roles ← tokenRoles userId tenant project
        let permissions ← tokenPermissions cr svc claims userId tenant project
        return ⟨claims.sub, claims.email, roles, permissions, claims.tenantId, claims.projectId⟩ :
      Handler ValidateTokenResponse).Along eventMonitor
      (Prog.Then eventMonitor (viewPost cr (.rpc svc md (.validateToken req)))
        fun a => pure (.token a)) h := by
  cases tenant with
  | none =>
    obtain ⟨hempty, huser⟩ := hnone rfl
    simp [tokenRoles, tokenPermissions, getPerms, setPerms, hconn, loadPermissions, eventMonitor,
      viewPost]
    intro roles perms
    exact ⟨claims, by simp [hparse], .inl ⟨hempty, userId, huser, by simp⟩⟩
  | some tid =>
    obtain ⟨hne, hscope⟩ := hsome tid rfl
    simp [tokenRoles, tokenPermissions, getPerms, setPerms, hconn, loadPermissions, eventMonitor,
      viewPost]
    intro roles perms
    exact ⟨claims, by simp [hparse], .inr ⟨hne, _, hscope, by simp⟩⟩

theorem along_validateToken_view (hconn : svc.cacheConn = false) (req : ValidateTokenRequest) :
    ((Rpc.validateToken req).handle cr svc md).Along eventMonitor
      (viewPost cr (.rpc svc md (.validateToken req))) [] := by
  refine (Prog.along_bind _ _ _ _ _).mpr ?_
  refine (Prog.along_bind _ _ _ _ _).mpr ((along_sys _ _).mpr fun parsed => ⟨trivial, ?_⟩)
  refine (Prog.along_bind _ _ _ _ _).mpr ((Prog.along_okOr _ _ _ _ _).mpr ⟨fun _ => trivial, ?_⟩)
  rintro claims rfl
  refine Prog.Emits.bind_stretch (fun _ _ _ => trivial) (unwritten_refuseIfDenied svc _)
    (fun _ _ => trivial) fun _ h₁ => ?_
  refine (Prog.along_bind _ _ _ _ _).mpr ((Prog.along_okOr _ _ _ _ _).mpr ⟨fun _ => trivial, ?_⟩)
  intro userId huser
  refine (Prog.along_bind _ _ _ _ _).mpr ((along_query _ _ _).mpr
    ⟨fun active => ⟨trivial, ?_⟩, fun d => ⟨trivial, trivial⟩⟩)
  refine (Prog.along_bind _ _ _ _ _).mpr ((Prog.along_failIf _ _ _ _ _).mpr
    ⟨fun _ => trivial, fun _ => ?_⟩)
  refine (Prog.along_bind _ _ _ _ _).mpr
    (along_tokenTenant (fun _ _ _ => trivial) (fun _ _ => trivial) ?_ ?_)
  · intro hempty
    refine (Prog.along_bind _ _ _ _ _).mpr
      (along_tokenProject (fun _ => trivial) (fun _ => ?_) fun p _ _ => ?_)
    · exact along_view hconn (by simp [eventMonitor]) (fun _ => ⟨hempty, huser⟩) (by simp)
    · exact along_view hconn (by simp [eventMonitor]) (fun _ => ⟨hempty, huser⟩) (by simp)
  · intro h₂ tid hne htid
    refine (Prog.along_bind _ _ _ _ _).mpr (along_tokenProject (fun _ => trivial) ?_ ?_)
    · intro hp
      refine along_view hconn (by simp [eventMonitor]) (by simp) ?_
      rintro _ ⟨rfl⟩
      exact ⟨hne, by simp [Claims.scope, huser, htid, hp]⟩
    · intro p hpne hp
      refine along_view hconn (by simp [eventMonitor]) (by simp) ?_
      rintro _ ⟨rfl⟩
      exact ⟨hne, by simp [Claims.scope, huser, htid, hpne, hp]⟩

end Answers

theorem along_viewBody (cr : Crates) (k : Call) :
    (k.body cr).Along eventMonitor (viewPost cr k) [] := by
  have hother : ∀ {k : Call}, (∀ h r, viewPost cr k h r) →
      (k.body cr).Along eventMonitor (viewPost cr k) [] :=
    fun hk => Prog.along_trivial (fun _ _ => trivial) hk _ _
  cases k with
  | start env => exact hother fun _ _ => trivial
  | profileCreationFailed userId reason => exact hother fun _ _ => trivial
  | rpc svc md r =>
    cases r
    case validateToken req =>
      cases hconn : svc.cacheConn with
      | false => exact along_validateToken_view hconn req
      | true =>
        refine hother fun h r => ?_
        unfold viewPost
        split
        · next heq =>
          cases heq
          intro hno
          cases hconn.symm.trans hno
        · trivial
    all_goals exact hother fun _ _ => trivial

/-! ## Steps of a run -/

def Call.changesRoles (cr : Crates) : Call → Op → Prop
  | .rpc _ md (.assignRole req) => RoleChange cr md req .assignRole
  | .rpc _ md (.revokeRole req) => RoleChange cr md req .revokeRole
  | _ => fun _ => True

theorem changesRoles_body (cr : Crates) (k : Call) : (k.body cr).Emits (k.changesRoles cr) := by
  have hany : ∀ {α : Type} (p : Handler α), p.Emits fun _ => True := by
    intro α p
    exact Prog.along_trivial (fun _ _ => trivial) (fun _ _ => trivial) p ()
  cases k with
  | start env => exact hany _
  | profileCreationFailed userId reason => exact hany _
  | rpc svc md r =>
    cases r
    case assignRole req => exact .bind (roleChange_assignRole svc req) fun _ => trivial
    case revokeRole req => exact .bind (roleChange_revokeRole svc req) fun _ => trivial
    all_goals exact hany _

/-- From `db` to `db'` no token loses a permission, and only tenant-bound tokens that
see the scope `target` gain one. -/
structure GrowsWithin (cr : Crates) (conn : DbRole) (target : Option Scope) (db db' : Db) : Prop where
  mono : ∀ (claims : Claims) view, claims.view cr conn = some view → view db ⊆ view db'
  within : ∀ s : Scope, s.perms conn db' ≠ s.perms conn db → ∃ a, target = some a ∧ a.Reaches s

section Run

variable {cr : Crates} {conn : DbRole} {st : State} {ls : List Act} {i : Nat}

/-- Every token reads the assignments of some kind. -/
theorem Claims.view_eq {claims : Claims} {view : Db → List String}
    (h : claims.view cr conn = some view) : ∃ q, view = permissionsOf q := by
  unfold Claims.view at h
  split at h
  · obtain ⟨user, -, rfl⟩ := Option.map_eq_some_iff.mp h
    exact ⟨_, funext fun db => getUserPermissions_eq user db⟩
  · obtain ⟨s, -, rfl⟩ := Option.map_eq_some_iff.mp h
    exact ⟨_, funext fun db => s.perms_eq db⟩

theorem growsWithin_of {target : Option Scope} {db db' : Db}
    (hmono : ∀ q, permissionsOf q db ⊆ permissionsOf q db')
    (hsame : ∀ q, (∀ a, target = some a → ∀ r, q ⟨a.user, r, a.tenant, a.project⟩ = false) →
      permissionsOf q db' = permissionsOf q db) : GrowsWithin cr conn target db db' where
  mono := by
    intro claims view hview
    obtain ⟨q, rfl⟩ := Claims.view_eq hview
    exact hmono q
  within := by
    intro s hne
    by_contra hout
    rw [Scope.perms_eq, Scope.perms_eq] at hne
    apply hne
    apply hsame
    intro a ha r
    rw [Bool.eq_false_iff]
    intro hsees
    exact hout ⟨a, ha, Scope.sees_iff.1 hsees⟩

end Run

/-- What assign_role and revoke_role do to the permissions of tokens, step by step,
and what these permissions are. -/
structure RoleScopes (cr : Crates) (conn : DbRole) (st : State) (ls : List Act) : Prop where
  assign : ∀ i c svc md req,
    (runFrom cr conn st ls).callOf i = some (.rpc svc md (.assignRole req)) →
    GrowsWithin cr conn (req.scope cr md) (runFrom cr conn st ls).state.db
      (runFrom cr conn st (ls ++ [.step i c])).state.db
  revoke : ∀ i c svc md req,
    (runFrom cr conn st ls).callOf i = some (.rpc svc md (.revokeRole req)) →
    GrowsWithin cr conn (req.scope cr md) (runFrom cr conn st (ls ++ [.step i c])).state.db
      (runFrom cr conn st ls).state.db
  wide : ∀ user tenant project,
    Scope.perms conn ⟨user, tenant, none⟩ (runFrom cr conn st ls).state.db ⊆
      Scope.perms conn ⟨user, tenant, some project⟩ (runFrom cr conn st ls).state.db
  computed : ∀ k svc md req resp,
    (runFrom cr conn st ls).callOf k = some (.rpc svc md (.validateToken req)) →
    (runFrom cr conn st ls).result k = some (.ok (.token resp)) → svc.cacheConn = false →
    ∃ claims view pre c post, ls = pre ++ .step k c :: post ∧
      ⟨.sys (.jwtParseAccess req.accessToken), some claims⟩ ∈ (runFrom cr conn st ls).hist k ∧
      claims.view cr conn = some view ∧
      resp.permissions = view (runFrom cr conn st pre).state.db

/-- A change of roles reaches the tokens of its own scope and no others; what is
assigned tenant-wide holds in every project. -/
theorem roleScopes (cr : Crates) (conn : DbRole) (st : State) (ls : List Act) :
    RoleScopes cr conn st ls where
  assign := by
    intro i c svc md req hk
    apply step_of_body (R := GrowsWithin cr conn (req.scope cr md)) (changesRoles_body cr) hk
    · exact fun db => growsWithin_of (fun _ => List.Subset.refl _) fun _ _ => rfl
    · intro s db db' r hs hx
      rcases hs with ⟨hassigned, hgranted⟩ | ⟨a, ha, rfl⟩
      · have hsame := permissionsOf_frame (Sql.exec_frame hx) hassigned hgranted
        exact growsWithin_of (fun q => by rw [hsame q]; exact List.Subset.refl _) fun q _ => hsame q
      · exact growsWithin_of (fun q => (permissionsOf_assign hx q).1)
          fun q hq => (permissionsOf_assign hx q).2 (hq a ha)
  revoke := by
    intro i c svc md req hk
    apply step_of_body (R := fun db db' => GrowsWithin cr conn (req.scope cr md) db' db)
      (changesRoles_body cr) hk
    · exact fun db => growsWithin_of (fun _ => List.Subset.refl _) fun _ _ => rfl
    · intro s db db' r hs hx
      rcases hs with ⟨hassigned, hgranted⟩ | ⟨a, ha, rfl⟩
      · have hsame := permissionsOf_frame (Sql.exec_frame hx) hassigned hgranted
        exact growsWithin_of (fun q => by rw [hsame q]; exact List.Subset.refl _)
          fun q _ => (hsame q).symm
      · exact growsWithin_of (fun q => (permissionsOf_revoke hx q).1)
          fun q hq => ((permissionsOf_revoke hx q).2 (hq a ha)).symm
  wide := fun user tenant project => Scope.perms_project conn user tenant project _
  computed := by
    intro k svc md req resp hk hres hconn
    have ht : Pool.Tracks (fun _ => eventMonitor) (viewPost cr) (fun _ => [])
        (runFrom cr conn st ls) := Pool.tracks_run (along_viewBody cr) st ls
    obtain ⟨k', hk', hpost⟩ := ht.result_history hres
    cases hk.symm.trans hk'
    obtain ⟨claims, hparse, hloaded⟩ := hpost hconn
    rcases hloaded with ⟨hempty, user, huser, hmem⟩ | ⟨hne, s, hs, hmem⟩
    · obtain ⟨n, hn⟩ := List.getElem?_of_mem hmem
      obtain ⟨pre, c, hcommit, -⟩ := commitsAt hn
      obtain ⟨post, hls⟩ := hcommit.split
      refine ⟨claims, Repo.getUserPermissions conn user, pre, c, post, hls, hparse, ?_, ?_⟩
      · exact (if_pos hempty).trans (by rw [huser]; rfl)
      · exact (congrArg Prod.fst (Except.ok.inj hcommit.exec)).symm
    · obtain ⟨n, hn⟩ := List.getElem?_of_mem hmem
      obtain ⟨pre, c, hcommit, -⟩ := commitsAt hn
      obtain ⟨post, hls⟩ := hcommit.split
      refine ⟨claims, s.perms conn, pre, c, post, hls, hparse, ?_, ?_⟩
      · exact (if_neg hne).trans (by rw [hs]; rfl)
      · exact (congrArg Prod.fst (Except.ok.inj hcommit.exec)).symm

end IamAuth
