import IamAuth.RoleScopes
import IamAuth.Projects

/-!
# What a reported success has written

grant_permission and assign_role ignore the row count of their inserts. What they report
is there if the insert finds what the request names: the role and the permission of a
grant, the role of an assignment. A call that reports success has committed that insert.
-/

set_option autoImplicit false

namespace IamAuth

open Interleave Relational

/-! ## Inserting role permissions -/

section Grant

variable {db : Db} {roleName permName : String} {tenant : Uuid}

theorem mem_insertRolePermissions {table new : List RolePermission} {rp : RolePermission} :
    rp ∈ Repo.insertRolePermissions table new ↔ rp ∈ table ∨ rp ∈ new := by
  induction new generalizing table with
  | nil => simp [Repo.insertRolePermissions]
  | cons x new ih =>
    rw [Repo.insertRolePermissions, ih]
    split
    · next hx =>
      constructor
      · intro h
        exact h.imp_right fun h => List.mem_cons_of_mem x h
      · rintro (h | h)
        · exact .inl h
        · rcases List.mem_cons.mp h with rfl | h
          · exact .inl hx
          · exact .inr h
    · simp [or_assoc]

theorem mem_ownRoleIds {id : Nat} :
    id ∈ Repo.ownRoleIds roleName tenant db ↔
      ∃ r ∈ db.roles, r.name = roleName ∧ r.tenantId = some tenant ∧ r.id = id := by
  simp only [Repo.ownRoleIds, Session.roles, Repo.ownRole, List.mem_map, List.mem_filter,
    Bool.and_eq_true, beq_iff_eq]
  constructor
  · rintro ⟨r, ⟨⟨hr, -⟩, hname, ht⟩, hid⟩
    exact ⟨r, hr, hname, ht, hid⟩
  · rintro ⟨r, hr, hname, ht, hid⟩
    exact ⟨r, ⟨⟨hr, by simp [ht]⟩, hname, ht⟩, hid⟩

theorem mem_permissionIds {id : Nat} :
    id ∈ Repo.permissionIds permName db ↔ ∃ p ∈ db.permissions, p.name = permName ∧ p.id = id := by
  simp [Repo.permissionIds, and_assoc]

/-- The pairs that a grant names. -/
def Granted (db : Db) (roleName permName : String) (tenant : Uuid) (rp : RolePermission) : Prop :=
  (∃ r ∈ db.roles, r.name = roleName ∧ r.tenantId = some tenant ∧ r.id = rp.roleId) ∧
  ∃ p ∈ db.permissions, p.name = permName ∧ p.id = rp.permissionId

theorem mem_grantPermission {rp : RolePermission} :
    rp ∈ (Repo.grantPermission roleName permName tenant db).rolePermissions ↔
      rp ∈ db.rolePermissions ∨ Granted db roleName permName tenant rp := by
  simp only [Repo.grantPermission, mem_insertRolePermissions, List.mem_flatMap, List.mem_map,
    mem_ownRoleIds, mem_permissionIds]
  refine or_congr_right ⟨?_, ?_⟩
  · rintro ⟨_, hr, _, hp, rfl⟩
    exact ⟨hr, hp⟩
  · rintro ⟨hr, hp⟩
    exact ⟨rp.roleId, hr, rp.permissionId, hp, rfl⟩

/-- The tenant's own role of that name holds the permission. -/
def HoldsPermission (db : Db) (roleName permName : String) (tenant : Uuid) : Prop :=
  ∃ rp ∈ db.rolePermissions, Granted db roleName permName tenant rp

/-- The role and the permission of a grant are there. -/
def CanGrant (db : Db) (roleName permName : String) (tenant : Uuid) : Prop :=
  (∃ r ∈ db.roles, r.name = roleName ∧ r.tenantId = some tenant) ∧
  ∃ p ∈ db.permissions, p.name = permName

end Grant

/-! ## Inserting an assignment -/

/-- No project has the nil id, by which the unique index of `user_roles` stands for
no project at all. -/
structure NoNilProject (db : Db) : Prop where
  projects : ∀ p ∈ db.projects, p.id ≠ 0
  userRoles : ∀ ur ∈ db.userRoles, ur.projectId ≠ some 0

section Assign

variable {db db' : Db} {name : String} {user tenant : Uuid} {project : Option Uuid} {u : Unit}

/-- The user holds a role of that name which the tenant sees, at that scope. -/
def HoldsRole (db : Db) (a : Scope) (name : String) : Prop :=
  ∃ r ∈ db.roles, r.name = name ∧ visibleIn a.tenant r ∧
    ⟨a.user, r.id, a.tenant, a.project⟩ ∈ db.userRoles

/-- The tenant sees a role of that name. -/
def CanAssign (db : Db) (name : String) (tenant : Uuid) : Prop :=
  ∃ r ∈ db.roles, r.name = name ∧ visibleIn tenant r

theorem resolveRole_ne_nil (h : CanAssign db name tenant) : Repo.resolveRole name tenant db ≠ [] := by
  obtain ⟨r, hr, hname, hvis⟩ := h
  have hnamed : r ∈ ((tenantTx tenant).roles db).filter fun r =>
      r.name == name && (r.tenantId == some tenant || r.tenantId.isNone) := by
    refine List.mem_filter.mpr ⟨List.mem_filter.mpr ⟨hr, ?_⟩, ?_⟩
    · rcases hvis with hvis | hvis <;> simp [hvis]
    · rcases hvis with hvis | hvis <;> simp [hname, hvis]
  intro hnil
  simp only [Repo.resolveRole, List.map_eq_nil_iff, List.take_eq_nil_iff, Nat.one_ne_zero,
    List.append_eq_nil_iff, List.filter_eq_nil_iff, false_or] at hnil
  cases ht : r.tenantId with
  | none => exact hnil.2 r hnamed (by simp [ht])
  | some t => exact hnil.1 r hnamed (by simp [ht])

theorem project_of_key {p q : Option Uuid} (hp : p ≠ some 0) (hq : q ≠ some 0)
    (h : p.getD 0 = q.getD 0) : p = q := by
  cases p with
  | none =>
    cases q with
    | none => rfl
    | some q => exact absurd (congrArg some h.symm) hq
  | some p =>
    cases q with
    | none => exact absurd (congrArg some h) hp
    | some q => exact congrArg some h

end Assign

theorem noNilProject_migrated : NoNilProject migrated := ⟨by decide, by decide⟩

theorem noNilProject_exec {conn : DbRole} {c : Choice} {s : Sql} {db db' : Db} {r : Reply s}
    (hc : c.uuid ≠ 0) (h : s.exec conn c db = .ok (r, db')) (hdb : NoNilProject db) :
    NoNilProject db' where
  projects := by
    by_cases hw : .projects ∈ s.writes
    · cases s <;> simp only [Sql.writes, List.mem_cons, List.not_mem_nil, reduceCtorEq, or_self] at hw
      case createProject t slug name =>
        simp only [Sql.exec, Repo.createProject] at h
        repeat' split at h
        all_goals cases h
        intro p hp
        rcases List.mem_append.mp hp with hp | hp
        · exact hdb.projects p hp
        · obtain rfl := List.mem_singleton.mp hp
          exact hc
    · rw [(Sql.exec_frame h).projects hw]
      exact hdb.projects
  userRoles := by
    intro ur hur hnil
    rcases userRoles_exec h hur hnil with hpair | hold
    · by_cases hw : .userRoles ∈ s.writes
      · cases s <;> simp only [Sql.pair, reduceCtorEq] at hpair
        case assignRole user name t project =>
          obtain ⟨p, rfl, hp⟩ := Option.map_eq_some_iff.mp hpair
          obtain rfl : p = 0 := (Prod.mk.inj hp).2
          obtain ⟨new, hnew, hall⟩ := insertUserRoles_rows (assignRole_ok h)
          rw [hnew] at hur
          rcases List.mem_append.mp hur with hur | hur
          · exact hdb.userRoles ur hur hnil
          · -- The foreign key would have found a project with the nil id.
            obtain ⟨⟨rid, -, rfl⟩, href⟩ := hall ur hur
            simp only [Repo.userRoleReferences, Bool.and_eq_true, List.any_eq_true, beq_iff_eq] at href
            obtain ⟨q, hq, hzero⟩ := href.2
            exact hdb.projects q hq hzero
        all_goals simp [Sql.writes] at hw
      · rw [(Sql.exec_frame h).userRoles hw] at hur
        exact hdb.userRoles ur hur hnil
    · exact hdb.userRoles ur hold hnil

/-- The service draws no nil UUID. -/
theorem noNilProject_run (cr : Crates) (conn : DbRole) (redis : Redis) (ls : List Act)
    (hdraws : ∀ i c, .step i c ∈ ls → c.uuid ≠ 0) :
    NoNilProject (runFrom cr conn ⟨migrated, redis⟩ ls).state.db :=
  db_run_of cr conn (P := fun c => c.uuid ≠ 0) noNilProject_exec noNilProject_migrated hdraws

/-! ## The calls -/

/-- What a call that reported success has done. -/
def ackPost (cr : Crates) : Call → List (Event Resp) → Except Failure Response → Prop
  | .rpc _ md (.grantPermission req), h, .ok _ => ∃ tenant, activeTenantOpt cr md = some tenant ∧
      ⟨.sql (.grantPermission req.roleName req.permissionName tenant), .ok ()⟩ ∈ h
  | .rpc _ md (.assignRole req), h, .ok _ => ∃ a, req.scope cr md = some a ∧
      ⟨.sql (.assignRole a.user req.roleName a.tenant a.project), .ok ()⟩ ∈ h ∧
      ∀ p, a.project = some p → ⟨.sql (.isProjectInTenant p a.tenant), .ok true⟩ ∈ h
  | _, _, _ => True

section Handlers

variable {cr : Crates} {svc : AuthSvc} {md : MetadataMap}

theorem along_grantPermission_ack (req : PermissionRequest) :
    ((Rpc.grantPermission req).handle cr svc md).Along eventMonitor
      (ackPost cr (.rpc svc md (.grantPermission req))) [] := by
  simp [Rpc.handle, grantPermission, permRoleGuard, audit, eventMonitor, ackPost]
  intro _ tenant htenant _
  exact ⟨fun _ => htenant, fun _ => htenant⟩

/-- A project that passes is one of the tenant. -/
theorem along_validateAssign_ack (roleName projectId : String) (tenant : Uuid)
    {post : List (Event Resp) → Except Failure (Option Uuid) → Prop}
    (hfail : ∀ h e, post h (.error e))
    (hok : ∀ h p, optProject cr projectId = some p →
      (∀ pid, p = some pid → ⟨.sql (.isProjectInTenant pid tenant), .ok true⟩ ∈ h) →
      post h (.ok p)) {h : List (Event Resp)} :
    (validateAssign cr roleName projectId tenant).Along eventMonitor post h := by
  simp only [validateAssign, eventMonitor, Prog.along_bind, along_query, Prog.then_ok,
    Prog.then_error, Prog.along_failIf, along_parseOptProject, Monitor.history_ok,
    Monitor.history_upd, true_and]
  refine ⟨fun visible => ⟨fun _ => hfail _ _, fun _ => ⟨fun hempty => ?_, fun _ _ => hfail _ _, ?_⟩⟩,
    fun _ => hfail _ _⟩
  · exact hok _ none (by simp [optProject, hempty]) (by simp)
  · intro p hne hp
    refine ⟨fun inTenant => ⟨fun _ => hfail _ _, fun hin => ?_⟩, fun _ => hfail _ _⟩
    obtain rfl : inTenant = true := by simpa using hin
    refine hok _ (some p) (by simp [optProject, hne, hp]) ?_
    intro _ hpid
    cases hpid
    simp

theorem along_assignRole_ack (req : AssignRoleRequest) :
    ((Rpc.assignRole req).handle cr svc md).Along eventMonitor
      (ackPost cr (.rpc svc md (.assignRole req))) [] := by
  refine (Prog.along_bind _ _ _ _ _).mpr ?_
  refine (Prog.along_bind _ _ _ _ _).mpr ((along_requirePerm _ _).mpr
    ⟨fun _ => trivial, fun _ => ?_⟩)
  refine (Prog.along_bind _ _ _ _ _).mpr ((along_activeTenant _).mpr
    ⟨fun _ => trivial, fun _ _ => trivial, fun tenant htenant => ?_⟩)
  refine (Prog.along_bind _ _ _ _ _).mpr ((along_parseUserId _ _).mpr
    ⟨fun _ => trivial, fun user huser => ?_⟩)
  refine (Prog.along_bind _ _ _ _ _).mpr (along_validateAssign_ack _ _ _ (fun _ _ => trivial) ?_)
  intro h project hproject hchecked
  have hscope : req.scope cr md = some ⟨user, tenant, project⟩ := by
    simp [AssignRoleRequest.scope, huser, htenant, hproject]
  refine (Prog.along_bind _ _ _ _ _).mpr ((along_query _ _ _).mpr
    ⟨fun _ => ⟨trivial, ?_⟩, fun _ => ⟨trivial, trivial⟩⟩)
  -- What follows only adds events.
  have hany : ∀ {α : Type} (p : Handler α), p.Emits fun _ => True := by
    intro α p
    exact Prog.along_trivial (fun _ _ => trivial) (fun _ _ => trivial) p ()
  refine Prog.Emits.along_stretch (P := fun _ => True) (fun _ _ _ => trivial) (hany _) ?_
  rintro h' (e | r)
  · trivial
  · refine ⟨_, hscope, by simp [eventMonitor], fun p hp => ?_⟩
    simp [eventMonitor, hchecked p hp]

end Handlers

theorem along_ackBody (cr : Crates) (k : Call) :
    (k.body cr).Along eventMonitor (ackPost cr k) [] := by
  cases k with
  | start env => exact Prog.along_trivial (fun _ _ => trivial) (fun _ _ => trivial) _ _
  | profileCreationFailed userId reason =>
    exact Prog.along_trivial (fun _ _ => trivial) (fun _ _ => trivial) _ _
  | rpc svc md r =>
    cases r
    case grantPermission req => exact along_grantPermission_ack req
    case assignRole req => exact along_assignRole_ack req
    all_goals exact Prog.along_trivial (fun _ _ => trivial) (fun _ _ => trivial) _ _

/-! ## Reported grants and assignments -/

section Reported

variable {cr : Crates} {conn : DbRole} {st : State} {ls : List Act} {i : Nat} {svc : AuthSvc}
  {md : MetadataMap} {r : Response}

/-- A grant that is reported has committed its transaction. -/
theorem committed_grantPermission {req : PermissionRequest}
    (hk : (runFrom cr conn st ls).callOf i = some (.rpc svc md (.grantPermission req)))
    (hres : (runFrom cr conn st ls).result i = some (.ok r)) :
    ∃ tenant pre c, activeTenantOpt cr md = some tenant ∧
      CommitsAt cr conn st ls i (.grantPermission req.roleName req.permissionName tenant) () pre c := by
  have ht : Pool.Tracks (fun _ => eventMonitor) (ackPost cr) (fun _ => []) (runFrom cr conn st ls) :=
    Pool.tracks_run (along_ackBody cr) _ ls
  obtain ⟨k, hk', hpost⟩ := ht.result_history hres
  cases hk.symm.trans hk'
  obtain ⟨tenant, htenant, hmem⟩ := hpost
  obtain ⟨n, hn⟩ := List.getElem?_of_mem hmem
  obtain ⟨pre, c, hcommit, -⟩ := commitsAt hn
  exact ⟨tenant, pre, c, htenant, hcommit⟩

/-- An assignment that is reported has seen its project and committed its transaction. -/
theorem committed_assignRole {req : AssignRoleRequest}
    (hk : (runFrom cr conn st ls).callOf i = some (.rpc svc md (.assignRole req)))
    (hres : (runFrom cr conn st ls).result i = some (.ok r)) :
    ∃ a, req.scope cr md = some a ∧
      (∃ pre c, CommitsAt cr conn st ls i (.assignRole a.user req.roleName a.tenant a.project) () pre c) ∧
      ∀ p, a.project = some p → ∃ pre c, CommitsAt cr conn st ls i (.isProjectInTenant p a.tenant) true pre c := by
  have ht : Pool.Tracks (fun _ => eventMonitor) (ackPost cr) (fun _ => []) (runFrom cr conn st ls) :=
    Pool.tracks_run (along_ackBody cr) _ ls
  obtain ⟨k, hk', hpost⟩ := ht.result_history hres
  cases hk.symm.trans hk'
  obtain ⟨a, ha, hmem, hchecked⟩ := hpost
  refine ⟨a, ha, ?_, fun p hp => ?_⟩
  · obtain ⟨n, hn⟩ := List.getElem?_of_mem hmem
    obtain ⟨pre, c, hcommit, -⟩ := commitsAt hn
    exact ⟨pre, c, hcommit⟩
  · obtain ⟨n, hn⟩ := List.getElem?_of_mem (hchecked p hp)
    obtain ⟨pre, c, hcommit, -⟩ := commitsAt hn
    exact ⟨pre, c, hcommit⟩

end Reported

/-! ## Deciding what is held -/

instance (db : Db) (roleName permName : String) (tenant : Uuid) :
    Decidable (HoldsPermission db roleName permName tenant) :=
  inferInstanceAs (Decidable (∃ rp ∈ db.rolePermissions, (∃ r ∈ db.roles, _) ∧ ∃ p ∈ db.permissions, _))

instance (db : Db) (a : Scope) (name : String) : Decidable (HoldsRole db a name) :=
  inferInstanceAs (Decidable (∃ r ∈ db.roles, _))

end IamAuth
