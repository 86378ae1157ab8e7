import IamAuth.Acknowledged
import IamAuth.Sequential

/-!
# Revoking what was assigned

assign_role takes the first of the roles that the tenant sees under a name,
revoke_role the only one. They agree unless the tenant has a role of its own with
the name of a template.
-/

set_option autoImplicit false

namespace IamAuth

open Interleave Relational

/-! ## Role names -/

/-- The unique index on the tenant and the name of a role. -/
def RoleNames (db : Db) : Prop := (db.roles.map fun r => (r.tenantId, r.name)).Nodup

theorem roleNames_migrated : RoleNames migrated := by
  unfold RoleNames
  decide

theorem roleNames_exec {conn : DbRole} {s : Sql} {c : Choice} {db db' : Db} {r : Reply s}
    (h : s.exec conn c db = .ok (r, db')) (hdb : RoleNames db) : RoleNames db' := by
  by_cases hw : .roles ∈ s.writes
  · cases s <;> simp only [Sql.writes, List.mem_cons, List.not_mem_nil, reduceCtorEq, or_self,
      or_false] at hw
    case createRole name description tenant =>
      simp only [Sql.exec, Repo.createRole] at h
      split at h
      · cases h
      · split at h
        · cases h
        · next hfresh =>
          repeat' split at h
          all_goals cases h
          rw [RoleNames, List.map_append]
          refine List.nodup_append.mpr ⟨hdb, by simp, ?_⟩
          intro a ha b hb hab
          obtain ⟨x, hx, rfl⟩ := List.mem_map.mp ha
          obtain rfl := List.mem_singleton.mp hb
          obtain ⟨ht, hname⟩ := Prod.mk.inj hab
          apply hfresh
          exact List.any_eq_true.mpr ⟨x, hx, by simp [Repo.ownRole, ht, hname]⟩
    case updateRole name description tenant =>
      cases h
      change ((updateWhere _ _ db.roles).map fun r => (r.tenantId, r.name)).Nodup
      rw [map_updateWhere]
      · exact hdb
      · intro r _
        rfl
    case deleteRole name tenant =>
      cases h
      exact List.Nodup.sublist (List.filter_sublist.map _) hdb
  · rw [RoleNames, (Sql.exec_frame h).roles hw]
    exact hdb

section Named

variable {db : Db} {name : String} {tenant : Uuid}

/-- The roles of that name which the tenant sees. -/
def visibleRoles (db : Db) (name : String) (tenant : Uuid) : List RoleRecord :=
  ((tenantTx tenant).roles db).filter fun r => r.name == name

/-- The tenant has a role of its own with the name of a template. -/
def Shadowed (db : Db) (name : String) (tenant : Uuid) : Prop :=
  (∃ r ∈ db.roles, r.name = name ∧ r.tenantId = some tenant) ∧
  ∃ r ∈ db.roles, r.name = name ∧ r.tenantId = none

theorem mem_visibleRoles {r : RoleRecord} :
    r ∈ visibleRoles db name tenant ↔ r ∈ db.roles ∧ visibleIn tenant r ∧ r.name = name := by
  have hsees : (tenantTx tenant).sees r.tenantId = true ↔ visibleIn tenant r := by
    unfold visibleIn
    cases r.tenantId <;> simp
  simp only [visibleRoles, Session.roles, List.mem_filter, hsees, beq_iff_eq, and_assoc]

theorem rolesNamed_eq : Repo.rolesNamed (tenantTx tenant) name db =
    (visibleRoles db name tenant).map (·.id) := rfl

theorem resolveRole_eq : Repo.resolveRole name tenant db =
    (((visibleRoles db name tenant).filter (fun r => r.tenantId.isSome) ++
      (visibleRoles db name tenant).filter fun r => r.tenantId.isNone).take 1).map (·.id) := by
  have hnamed : ((tenantTx tenant).roles db).filter (fun r =>
      r.name == name && (r.tenantId == some tenant || r.tenantId.isNone)) =
      visibleRoles db name tenant := by
    apply List.filter_congr
    intro r hr
    have hsees := (List.mem_filter.mp hr).2
    cases ht : r.tenantId with
    | none => simp
    | some t =>
      rw [ht, sees_tenantTx] at hsees
      simp [of_decide_eq_true hsees]
  rw [Repo.resolveRole, hnamed]

/-- Without a shadowed template there is one role of a name. -/
theorem visibleRoles_single (hdb : RoleNames db) (hcan : CanAssign db name tenant)
    (hone : ¬Shadowed db name tenant) : ∃ r, visibleRoles db name tenant = [r] := by
  obtain ⟨r₀, hr₀, hname₀, hvis₀⟩ := hcan
  have hmem₀ : r₀ ∈ visibleRoles db name tenant := mem_visibleRoles.2 ⟨hr₀, hvis₀, hname₀⟩
  have hkeys : ((visibleRoles db name tenant).map fun r => (r.tenantId, r.name)).Nodup :=
    hdb.sublist ((List.filter_sublist.trans List.filter_sublist).map _)
  have hsame : ∀ r ∈ visibleRoles db name tenant, (r.tenantId, r.name) = (r₀.tenantId, r₀.name) := by
    intro r hr
    obtain ⟨hr, hvis, hname⟩ := mem_visibleRoles.1 hr
    have htenant : r.tenantId = r₀.tenantId := by
      rcases hvis with ht | ht <;> rcases hvis₀ with ht₀ | ht₀
      · rw [ht, ht₀]
      · exact absurd ⟨⟨r₀, hr₀, hname₀, ht₀⟩, r, hr, hname, ht⟩ hone
      · exact absurd ⟨⟨r, hr, hname, ht⟩, r₀, hr₀, hname₀, ht₀⟩ hone
      · rw [ht, ht₀]
    rw [htenant, hname, hname₀]
  match hlist : visibleRoles db name tenant with
  | [] => simp [hlist] at hmem₀
  | [r] => exact ⟨r, rfl⟩
  | r :: r' :: rest =>
    rw [hlist] at hkeys hsame
    have hr := hsame r (by simp)
    have hr' := hsame r' (by simp)
    simp only [List.map_cons, List.nodup_cons, List.mem_cons] at hkeys
    exact absurd (.inl (hr.trans hr'.symm)) hkeys.1

/-- With one, the scalar subquery of revoke_role fails. -/
theorem visibleRoles_shadowed (h : Shadowed db name tenant) :
    Repo.scalarSubquery (Repo.rolesNamed (tenantTx tenant) name db) = .error .cardinalityViolation := by
  obtain ⟨⟨own, hown, hname, ht⟩, template, htemplate, hname', ht'⟩ := h
  have hmem : own ∈ visibleRoles db name tenant := mem_visibleRoles.2 ⟨hown, .inr ht, hname⟩
  have hmem' : template ∈ visibleRoles db name tenant :=
    mem_visibleRoles.2 ⟨htemplate, .inl ht', hname'⟩
  rw [rolesNamed_eq]
  match hlist : visibleRoles db name tenant with
  | [] => simp [hlist] at hmem
  | [r] =>
    rw [hlist, List.mem_singleton] at hmem hmem'
    rw [hmem.trans hmem'.symm, ht'] at ht
    cases ht
  | r :: r' :: rest => rfl

theorem revokeRole_shadowed {user : Uuid} {project : Option Uuid} (h : Shadowed db name tenant) :
    Repo.revokeRole user name tenant project db = .error .cardinalityViolation := by
  simp only [Repo.revokeRole, visibleRoles_shadowed h]

end Named

section Single

variable {db db' : Db} {name : String} {user tenant : Uuid} {project : Option Uuid}
  {role : RoleRecord} {u : Unit}

theorem resolveRole_single (hone : visibleRoles db name tenant = [role]) :
    Repo.resolveRole name tenant db = [role.id] := by
  rw [resolveRole_eq, hone]
  cases ht : role.tenantId <;> simp [ht]

theorem revokeRole_single (hone : visibleRoles db name tenant = [role]) :
    Repo.revokeRole user name tenant project db = .ok ((), { db with
      userRoles := db.userRoles.filter fun ur => ur ≠ ⟨user, role.id, tenant, project⟩ }) := by
  have hnamed : Repo.rolesNamed (tenantTx tenant) name db = [role.id] := by
    rw [rolesNamed_eq, hone]
    rfl
  have hrows : deleteWhere (fun ur => (tenantTx tenant).sees (some ur.tenantId) &&
      ur.userId == user && some ur.roleId == some role.id && ur.tenantId == tenant &&
      ur.projectId == project) db.userRoles =
      db.userRoles.filter fun ur => ur ≠ ⟨user, role.id, tenant, project⟩ := by
    apply List.filter_congr
    rintro ⟨user', role', tenant', project'⟩ -
    rw [Bool.eq_iff_iff]
    simp
    tauto
  simp only [Repo.revokeRole, hnamed, Repo.scalarSubquery, hrows]

/-- An assignment adds at most the row that the revocation deletes. -/
theorem filter_assignRole (h : Repo.assignRole user name tenant project db = .ok (u, db'))
    (hone : visibleRoles db name tenant = [role]) :
    (db'.userRoles.filter fun ur => ur ≠ ⟨user, role.id, tenant, project⟩) =
      db.userRoles.filter fun ur => ur ≠ ⟨user, role.id, tenant, project⟩ := by
  obtain ⟨new, hnew, hall⟩ := insertUserRoles_rows (assignRole_ok h)
  have hnone : (new.filter fun ur => ur ≠ ⟨user, role.id, tenant, project⟩) = [] := by
    apply List.filter_eq_nil_iff.mpr
    intro ur hur
    obtain ⟨⟨id, hid, rfl⟩, -⟩ := hall ur hur
    rw [resolveRole_single hone] at hid
    simp [List.mem_singleton.mp hid]
  rw [hnew, List.filter_append, hnone, List.append_nil]

theorem shadowed_congr (h : db'.roles = db.roles) : Shadowed db' name tenant ↔ Shadowed db name tenant := by
  rw [Shadowed, Shadowed, h]

theorem visibleRoles_congr (h : db'.roles = db.roles) :
    visibleRoles db' name tenant = visibleRoles db name tenant := by
  rw [visibleRoles, visibleRoles, Session.roles, Session.roles, h]

end Single

/-! ## The two calls -/

section Calls

variable {cr : Crates} {conn : DbRole} {svc : AuthSvc} {md : MetadataMap}
  {req : AssignRoleRequest} {st : State} {h : List (Event Resp)} {a : Scope}

/-- What an assignment that reported success has done. -/
structure Assigned (cr : Crates) (conn : DbRole) (md : MetadataMap) (req : AssignRoleRequest)
    (a : Scope) (db db' : Db) : Prop where
  perm : hasPerm md "role:assign" = true
  scope : req.scope cr md = some a
  visible : Repo.roleInTenant conn req.roleName a.tenant db = true
  change : ∃ db₁, Repo.assignRole a.user req.roleName a.tenant a.project db = .ok ((), db₁) ∧
    Frame [.auditEvents] db₁ db'

theorem ends_parseOptProject (text : String) {A : State → List (Event Resp) → Choice → Event Resp → Prop}
    {Q : Except Failure (Option Uuid) → State → List (Event Resp) → Prop}
    (hfail : ∀ e, optProject cr text = none → Q (.error e) st h)
    (hok : ∀ p, optProject cr text = some p → Q (.ok p) st h) :
    (parseOptProject cr text).Ends (machine cr conn) A Q st h := by
  unfold parseOptProject
  split
  · next hempty => exact hok none (by simpa [optProject] using hempty)
  · next hne =>
    have hne : text ≠ "" := by simpa using hne
    refine .bind (Prog.ends_of_okOr (fun hp => ?_) fun p hp => ?_)
    · exact hfail _ (by simp [optProject, hne, hp])
    · exact hok (some p) (by simp [optProject, hne, hp])

theorem ends_validateAssign (roleName projectId : String) (tenant : Uuid)
    {A : State → List (Event Resp) → Choice → Event Resp → Prop}
    {Q : Except Failure (Option Uuid) → State → List (Event Resp) → Prop}
    (hfail : ∀ e h', Q (.error e) st h')
    (hok : ∀ p h', Repo.roleInTenant conn roleName tenant st.db = true →
      optProject cr projectId = some p →
      (∀ pid, p = some pid → Repo.isProjectInTenant conn pid tenant st.db = true) →
      Q (.ok p) st h') :
    (validateAssign cr roleName projectId tenant).Ends (machine cr conn) A Q st h := by
  refine .bind (ends_query _ _ (fun c r db' _ hx => ?_) fun _ _ _ _ => hfail _ _)
  obtain ⟨rfl, rfl⟩ := Prod.mk.inj (Except.ok.inj hx)
  refine .bind (Prog.ends_of_failIf (fun _ => hfail _ _) fun hvisible => ?_)
  have hvisible : Repo.roleInTenant conn roleName tenant st.db = true := by simpa using hvisible
  refine .bind (ends_parseOptProject _ (fun _ _ => hfail _ _) fun p hp => ?_)
  cases p with
  | none => exact hok none _ hvisible hp fun _ hpid => by cases hpid
  | some pid =>
    refine .bind (ends_query _ _ (fun c r db' _ hx => ?_) fun _ _ _ _ => hfail _ _)
    obtain ⟨rfl, rfl⟩ := Prod.mk.inj (Except.ok.inj hx)
    refine .bind (Prog.ends_of_failIf (fun _ => hfail _ _) fun hin => ?_)
    refine hok (some pid) _ hvisible hp fun pid' hpid => ?_
    cases hpid
    simpa using hin

theorem ends_activeTenant {A : State → List (Event Resp) → Choice → Event Resp → Prop}
    {Q : Except Failure Uuid → State → List (Event Resp) → Prop}
    (hfail : ∀ e, activeTenantOpt cr md = none → Q (.error e) st h)
    (hok : ∀ tenant, activeTenantOpt cr md = some tenant → Q (.ok tenant) st h) :
    (activeTenant cr md).Ends (machine cr conn) A Q st h := by
  unfold activeTenant
  refine .bind (Prog.ends_of_failIf (fun hempty => ?_) fun hne => ?_)
  · exact hfail _ (by simp [activeTenantOpt, hempty])
  · refine Prog.ends_of_okOr (fun hnone => hfail _ ?_) fun tenant htenant => hok tenant ?_
    · simp [activeTenantOpt, hne, hnone]
    · simp [activeTenantOpt, hne, htenant]

theorem ends_assignRole (svc : AuthSvc) {A : State → List (Event Resp) → Choice → Event Resp → Prop} :
    ((Rpc.assignRole req).handle cr svc md).Ends (machine cr conn) A
      (fun r st' _ => ∀ resp, r = .ok resp → ∃ a, Assigned cr conn md req a st.db st'.db) st h := by
  have hno : ∀ (e : Failure) (st' : State) (resp : Response), Except.error e = .ok resp →
      ∃ a, Assigned cr conn md req a st.db st'.db := by
    intro e st' resp hresp
    cases hresp
  refine .bind ?_
  refine .bind (Prog.ends_of_failIf (fun _ => hno _ _) fun hperm => ?_)
  have hperm : hasPerm md "role:assign" = true := by simpa using hperm
  refine .bind (ends_activeTenant (fun _ _ => hno _ _) fun tenant htenant => ?_)
  refine .bind (Prog.ends_of_okOr (fun _ => hno _ _) fun user huser => ?_)
  refine .bind (ends_validateAssign _ _ _ (fun _ _ => hno _ _)
    fun project h' hvisible hproject _ => ?_)
  refine .bind (ends_query _ _ (fun c r db₁ _ hx => ?_) fun _ _ _ _ => hno _ _)
  refine .bind (ends_invalidatePerms svc _ fun redis' h₂ => ?_)
  refine .bind (ends_auditAs svc fun db₂ es hf _ => ?_)
  intro resp _
  have hscope : req.scope cr md = some ⟨user, tenant, project⟩ := by
    simp [AssignRoleRequest.scope, huser, htenant, hproject]
  exact ⟨_, hperm, hscope, hvisible, db₁, hx, hf⟩

/-- The statement meets no failure of the database. -/
def Connected (_ : State) (_ : List (Event Resp)) (c : Choice) (e : Event Resp) : Prop :=
  ∀ s, e.1 = .sql s → c.fails = false

/-- The revocation is as its statement is. -/
structure Revokes (a : Scope) (name : String) (db db' : Db) (answer : Except Failure Response) :
    Prop where
  refused : ∀ e, Repo.revokeRole a.user name a.tenant a.project db = .error e →
    ∃ f, answer = .error f
  done : ∀ db₁, Repo.revokeRole a.user name a.tenant a.project db = .ok ((), db₁) →
    (∃ resp, answer = .ok resp) ∧ Frame [.auditEvents] db₁ db'

theorem ends_revokeRole (svc : AuthSvc) (hperm : hasPerm md "role:assign" = true)
    (hscope : req.scope cr md = some a) (hknown : Repo.roleExists conn req.roleName st.db = true) :
    ((Rpc.revokeRole req).handle cr svc md).Ends (machine cr conn) Connected
      (fun r st' _ => Revokes a req.roleName st.db st'.db r) st h := by
  simp only [AssignRoleRequest.scope, Option.bind_eq_bind, Option.bind_eq_some_iff] at hscope
  obtain ⟨user, huser, tenant, htenant, project, hproject, ha⟩ := hscope
  obtain rfl := Option.some.inj ha
  refine .bind ?_
  refine .bind (Prog.ends_of_failIf (fun hno => ?_) fun _ => ?_)
  · simp [hperm] at hno
  refine .bind (ends_activeTenant (fun _ hno => ?_) fun tenant' htenant' => ?_)
  · cases hno.symm.trans htenant
  obtain rfl : tenant' = tenant := Option.some.inj (htenant'.symm.trans htenant)
  refine .bind (Prog.ends_of_okOr (fun hno => ?_) fun user' huser' => ?_)
  · cases hno.symm.trans huser
  obtain rfl : user' = user := Option.some.inj (huser'.symm.trans huser)
  refine .bind (ends_query _ _ (fun c r db' _ hx => ?_) fun c e ha hx => ?_)
  · obtain ⟨rfl, rfl⟩ := Prod.mk.inj (Except.ok.inj hx)
    refine .bind (Prog.ends_of_failIf (fun hno => ?_) fun _ => ?_)
    · simp [hknown] at hno
    refine .bind (ends_parseOptProject _ (fun _ hno => ?_) fun project' hproject' => ?_)
    · cases hno.symm.trans hproject
    obtain rfl : project' = project := Option.some.inj (hproject'.symm.trans hproject)
    refine .bind (ends_query _ _ (fun c r db₁ _ hx => ?_) fun c e ha hx => ?_)
    · refine .bind (ends_invalidatePerms svc _ fun redis' h₂ => ?_)
      refine .bind (ends_auditAs svc fun db₂ es hf _ => ?_)
      refine ⟨fun e he => ?_, fun db₁' hdone => ⟨⟨_, rfl⟩, ?_⟩⟩
      · cases he.symm.trans hx
      · obtain rfl : db₁' = db₁ := (Prod.mk.inj (Except.ok.inj (hdone.symm.trans hx))).2
        exact hf
    · have hrefused : Repo.revokeRole user' req.roleName tenant' project' st.db = .error e :=
        hx (ha _ rfl)
      refine ⟨fun _ _ => ⟨_, rfl⟩, fun db₁' hdone => ?_⟩
      cases hdone.symm.trans hrefused
  · cases hx (ha _ rfl)

end Calls

/-! ## Revoking what was assigned -/

/-- The revocation has succeeded, and the assignments are those from before the
assignment, less that of the role which was resolved. -/
structure Undone (req : AssignRoleRequest) (a : Scope) (db db' : Db)
    (answer : Except Failure Response) : Prop where
  success : ∃ resp, answer = .ok resp
  removed : ∃ id, Repo.resolveRole req.roleName a.tenant db = [id] ∧
    db'.userRoles = db.userRoles.filter fun ur => ur ≠ ⟨a.user, id, a.tenant, a.project⟩

section Undo

variable {conn : DbRole} {db : Db} {name : String} {tenant : Uuid}

theorem roleExists_of_inTenant (h : Repo.roleInTenant conn name tenant db = true) :
    Repo.roleExists conn name db = true := by
  obtain ⟨r, hr, hname⟩ := List.any_eq_true.mp h
  exact List.any_eq_true.mpr ⟨r, hr, (Bool.and_eq_true_iff.mp hname).1⟩

theorem canAssign_of_inTenant (h : Repo.roleInTenant conn name tenant db = true) :
    CanAssign db name tenant := by
  obtain ⟨r, hr, hname⟩ := List.any_eq_true.mp h
  simp only [Bool.and_eq_true, Bool.or_eq_true, beq_iff_eq, Option.isNone_iff_eq_none] at hname
  exact ⟨r, (List.mem_filter.mp hr).1, hname.1, hname.2.symm⟩

/-- An assignment and its revocation, one right after the other, from a state that
calls lead to: the revocation undoes the assignment exactly when the tenant does not
have both a template and a role of its own of that name. -/
theorem revoke_undoes_iff (cr : Crates) (conn : DbRole) (redis : Redis) (ls : List Act)
    (svc svc' : AuthSvc) (md : MetadataMap) (req : AssignRoleRequest) (cs cs' : Nat → Choice)
    {resp : Response} {answer : Except Failure Response} {st₁ st₂ : State}
    {es₁ es₂ : List (Event Resp)}
    (hassign : serve cr conn (runFrom cr conn ⟨migrated, redis⟩ ls).state
      ⟨.rpc svc md (.assignRole req), cs⟩ = (.ok resp, st₁, es₁))
    (hrevoke : serve cr conn st₁ ⟨.rpc svc' md (.revokeRole req), cs'⟩ = (answer, st₂, es₂))
    (hconnected : ∀ n e, es₂[n]? = some e → Connected st₁ (es₂.take n) (cs' n) e) :
    ∃ a, req.scope cr md = some a ∧
      (Undone req a (runFrom cr conn ⟨migrated, redis⟩ ls).state.db st₂.db answer ↔
        ¬Shadowed (runFrom cr conn ⟨migrated, redis⟩ ls).state.db req.roleName a.tenant) := by
  have hnames := db_run cr conn roleNames_exec
    (w := .init ⟨migrated, redis⟩) roleNames_migrated ls
  generalize (runFrom cr conn ⟨migrated, redis⟩ ls).state = st at *
  have hassigned : ∀ resp', (serve cr conn st ⟨.rpc svc md (.assignRole req), cs⟩).1 = .ok resp' →
      ∃ a, Assigned cr conn md req a st.db
        (serve cr conn st ⟨.rpc svc md (.assignRole req), cs⟩).2.1.db :=
    (ends_assignRole svc (h := []) (A := fun _ _ _ _ => True)).eval_meets
      (Prog.meets_of_events cs fun _ _ _ _ => trivial)
  rw [hassign] at hassigned
  obtain ⟨a, hperm, hscope, hvisible, db₁, hassign', hf₁⟩ := hassigned resp rfl
  have hroles : st₁.db.roles = st.db.roles :=
    (hf₁.roles (by simp)).trans ((frame_insertUserRoles (assignRole_ok hassign')).roles (by simp))
  have hknown : Repo.roleExists conn req.roleName st₁.db = true := by
    rw [Repo.roleExists, Session.roles, hroles]
    exact roleExists_of_inTenant hvisible
  have hrevoked : Revokes a req.roleName st₁.db
      (serve cr conn st₁ ⟨.rpc svc' md (.revokeRole req), cs'⟩).2.1.db
      (serve cr conn st₁ ⟨.rpc svc' md (.revokeRole req), cs'⟩).1 := by
    refine (ends_revokeRole svc' hperm hscope hknown (h := [])).eval_meets
      (Prog.meets_of_events cs' fun n e st he => ?_)
    change (serve cr conn st₁ ⟨.rpc svc' md (.revokeRole req), cs'⟩).2.2[n]? = some e at he
    rw [hrevoke] at he
    exact hconnected n e he
  rw [hrevoke] at hrevoked
  refine ⟨a, hscope, ?_⟩
  constructor
  · intro hundone hshadowed
    obtain ⟨resp', hresp'⟩ := hundone.success
    obtain ⟨e, he⟩ := hrevoked.refused _ (revokeRole_shadowed ((shadowed_congr hroles).mpr hshadowed))
    cases hresp'.symm.trans he
  · intro hone
    obtain ⟨role, hrole⟩ := visibleRoles_single hnames (canAssign_of_inTenant hvisible) hone
    have hrole₁ := (visibleRoles_congr hroles).trans hrole
    obtain ⟨hsuccess, hf₂⟩ := hrevoked.done _ (revokeRole_single hrole₁)
    refine ⟨hsuccess, role.id, resolveRole_single hrole, ?_⟩
    have hrows : st₁.db.userRoles = db₁.userRoles := hf₁.userRoles (by simp)
    calc
      st₂.db.userRoles = st₁.db.userRoles.filter fun ur =>
          ur ≠ ⟨a.user, role.id, a.tenant, a.project⟩ := hf₂.userRoles (by simp)
      _ = st.db.userRoles.filter fun ur => ur ≠ ⟨a.user, role.id, a.tenant, a.project⟩ := by
          rw [hrows]
          exact filter_assignRole hassign' hrole

end Undo

namespace Sample

def supportAdmin : MetadataMap := metadata 9 defaultTenantId "role:write,role:assign"

/-- The default tenant gets a role of its own with the name of a template. -/
def ownViewer : List Act :=
  registration ++ alone 1 (.rpc svc supportAdmin (.createRole ⟨"viewer", ""⟩)) [choice 0 0 ""]

/-- One change of the new user's roles, every statement of which goes through. -/
def viewerTurn (change : AssignRoleRequest → Rpc) : Turn Call Choice :=
  ⟨.rpc svc supportAdmin (change ⟨formatUuid 10, "viewer", ""⟩), fun _ => choice 0 0 ""⟩

def assignedState (ls : List Act) : State :=
  (serve crates .superuser (runFrom crates .superuser ⟨migrated, []⟩ ls).state
    (viewerTurn .assignRole)).2.1

theorem revoke_undoes_viewer : ∃ a, AssignRoleRequest.scope crates supportAdmin
      ⟨formatUuid 10, "viewer", ""⟩ = some a ∧
    (Undone ⟨formatUuid 10, "viewer", ""⟩ a
        (runFrom crates .superuser ⟨migrated, []⟩ registration).state.db
        (serve crates .superuser (assignedState registration) (viewerTurn .revokeRole)).2.1.db
        (serve crates .superuser (assignedState registration) (viewerTurn .revokeRole)).1 ↔
      ¬Shadowed (runFrom crates .superuser ⟨migrated, []⟩ registration).state.db "viewer"
        a.tenant) := by
  have hresp : (serve crates .superuser
      (runFrom crates .superuser ⟨migrated, []⟩ registration).state (viewerTurn .assignRole)).1 =
      .ok (.success true) := by
    decide
  have hassign : serve crates .superuser
      (runFrom crates .superuser ⟨migrated, []⟩ registration).state (viewerTurn .assignRole) =
      (.ok (.success true), assignedState registration, (serve crates .superuser
        (runFrom crates .superuser ⟨migrated, []⟩ registration).state
        (viewerTurn .assignRole)).2.2) :=
    Prod.ext hresp rfl
  exact revoke_undoes_iff crates .superuser [] registration svc svc supportAdmin _ _ _ hassign
    (Prod.ext rfl rfl) fun _ _ _ _ _ => rfl

/-- With a role of its own the assignment takes that one, and the revocation fails. -/
theorem viewer_notUndone :
    (serve crates .superuser (runFrom crates .superuser ⟨migrated, []⟩ ownViewer).state
      (viewerTurn .assignRole)).1 = .ok (.success true) ∧
    (serve crates .superuser (assignedState ownViewer) (viewerTurn .revokeRole)).1 =
      .error (internal "failed to revoke role") ∧
    ⟨10, 4, defaultTenantId, none⟩ ∈
      (serve crates .superuser (assignedState ownViewer) (viewerTurn .revokeRole)).2.1.db.userRoles := by
  decide

end Sample

end IamAuth