import IamAuth.Integrity
import IamAuth.RoleTenancy
import IamAuth.Writes

/-!
# Tenants do not write to one another

A statement that acts in one tenant leaves the rows of the others and the templates
as they are. Deleting a role takes its assignments along, so there it matters that
assignments do not cross tenants.
-/

set_option autoImplicit false

namespace IamAuth

open Interleave Relational

/-- The roles of the tenants that `q` selects, and their permissions. Templates have no
tenant. -/
def rolesOf (q : Option Uuid → Bool) (db : Db) : List RoleRecord :=
  db.roles.filter fun r => q r.tenantId

def grantsOf (q : Option Uuid → Bool) (db : Db) : List RolePermission :=
  db.rolePermissions.filter fun rp => (rolesOf q db).any fun r => r.id == rp.roleId

/-- The rows of the tenants that `q` selects are the same. -/
structure SameRows (q : Option Uuid → Bool) (db db' : Db) : Prop where
  roles : rolesOf q db' = rolesOf q db
  grants : grantsOf q db' = grantsOf q db
  userRoles : db'.userRoles.filter (fun ur => q (some ur.tenantId)) =
    db.userRoles.filter fun ur => q (some ur.tenantId)
  projects : db'.projects.filter (fun p => q (some p.tenantId)) =
    db.projects.filter fun p => q (some p.tenantId)
  memberships : db'.memberships.filter (fun m => q (some m.tenantId)) =
    db.memberships.filter fun m => q (some m.tenantId)
  apiKeys : db'.apiKeys.filter (fun k => q (some k.tenantId)) =
    db.apiKeys.filter fun k => q (some k.tenantId)
  refreshTokens : db'.refreshTokens.filter (fun t => q (some t.tenantId)) =
    db.refreshTokens.filter fun t => q (some t.tenantId)

/-- Every tenant but `A`, and the templates. -/
def elsewhere (A : Uuid) (t : Option Uuid) : Bool := t != some A

theorem SameRows.refl (q : Option Uuid → Bool) (db : Db) : SameRows q db db :=
  ⟨rfl, rfl, rfl, rfl, rfl, rfl, rfl⟩

theorem SameRows.trans {q : Option Uuid → Bool} {db₁ db₂ db₃ : Db} (h : SameRows q db₁ db₂)
    (h' : SameRows q db₂ db₃) : SameRows q db₁ db₃ where
  roles := h'.roles.trans h.roles
  grants := h'.grants.trans h.grants
  userRoles := h'.userRoles.trans h.userRoles
  projects := h'.projects.trans h.projects
  memberships := h'.memberships.trans h.memberships
  apiKeys := h'.apiKeys.trans h.apiKeys
  refreshTokens := h'.refreshTokens.trans h.refreshTokens

theorem SameRows.of_frame (q : Option Uuid → Bool) {ts : List Table} {db db' : Db}
    (h : Frame ts db db') (hts : ∀ t ∈ ts, t ∉ [.roles, .rolePermissions, .userRoles, .projects,
      .memberships, .apiKeys, .refreshTokens]) : SameRows q db db' := by
  have hout : ∀ t, t ∈ [Table.roles, .rolePermissions, .userRoles, .projects, .memberships,
      .apiKeys, .refreshTokens] → t ∉ ts := fun t ht hmem => hts t hmem ht
  have hroles := h.roles (hout _ (by simp))
  have hgrants := h.rolePermissions (hout _ (by simp))
  constructor
  · rw [rolesOf, rolesOf, hroles]
  · rw [grantsOf, grantsOf, rolesOf, rolesOf, hroles, hgrants]
  · rw [h.userRoles (hout _ (by simp))]
  · rw [h.projects (hout _ (by simp))]
  · rw [h.memberships (hout _ (by simp))]
  · rw [h.apiKeys (hout _ (by simp))]
  · rw [h.refreshTokens (hout _ (by simp))]

/-- A change of the assignments only. -/
theorem SameRows.of_userRoles {q : Option Uuid → Bool} {db db' : Db} (h : Frame [.userRoles] db db')
    (hrows : db'.userRoles.filter (fun ur => q (some ur.tenantId)) =
      db.userRoles.filter fun ur => q (some ur.tenantId)) : SameRows q db db' := by
  have hsame : SameRows q { db with userRoles := db'.userRoles } db' := by
    constructor
    · rw [rolesOf, rolesOf, h.roles (by simp)]
    · rw [grantsOf, grantsOf, rolesOf, rolesOf, h.roles (by simp), h.rolePermissions (by simp)]
    · rfl
    · rw [h.projects (by simp)]
    · rw [h.memberships (by simp)]
    · rw [h.apiKeys (by simp)]
    · rw [h.refreshTokens (by simp)]
  exact { hsame with userRoles := hrows }

/-! ## The writers -/

section Writers

variable {q : Option Uuid → Bool} {A : Uuid} {db db' : Db}

theorem sameRows_createProject {c : Choice} {slug name : String} {row : ProjectRow}
    (hq : q (some A) = false) (h : Repo.createProject c A slug name db = .ok (row, db')) :
    SameRows q db db' := by
  unfold Repo.createProject at h
  repeat' split at h
  all_goals cases h
  exact { SameRows.refl q db with
    projects := filter_insert (q := fun p : ProjectRow => q (some p.tenantId)) hq db.projects }

theorem sameRows_createMembership {user : Uuid} {u : Unit} (hq : q (some A) = false)
    (h : Repo.createMembership user A db = .ok (u, db')) : SameRows q db db' := by
  unfold Repo.createMembership at h
  split at h
  · cases h
    exact .refl q db
  · split at h <;> cases h
    exact { SameRows.refl q db with
      memberships := filter_insert (q := fun m : MembershipRecord => q (some m.tenantId)) hq
        db.memberships }

theorem sameRows_removeMember {user : Uuid} (hq : q (some A) = false) :
    SameRows q db (Repo.removeMember user A db) := by
  refine { SameRows.refl q db with memberships := filter_deleteWhere ?_ db.memberships }
  intro m hm
  obtain rfl : m.tenantId = A := congrArg Prod.snd (beq_iff_eq.mp hm)
  exact hq

theorem sameRows_insertUserRoles {s : Session} {user : Uuid} {p : Option Uuid} {rs : List Nat}
    (hq : q (some A) = false) (h : Repo.insertUserRoles s user A p rs db = .ok db') :
    SameRows q db db' := by
  obtain ⟨new, hnew, hrows⟩ := insertUserRoles_rows h
  apply SameRows.of_userRoles (frame_insertUserRoles h)
  have hnone : new.filter (fun ur => q (some ur.tenantId)) = [] := by
    rw [List.filter_eq_nil_iff]
    intro ur hur
    obtain ⟨⟨r, -, rfl⟩, -⟩ := hrows ur hur
    simp [hq]
  rw [hnew, List.filter_append, hnone, List.append_nil]

theorem sameRows_revokeRole {user : Uuid} {name : String} {p : Option Uuid} {u : Unit}
    (hq : q (some A) = false) (h : Repo.revokeRole user name A p db = .ok (u, db')) :
    SameRows q db db' := by
  unfold Repo.revokeRole at h
  dsimp only at h
  split at h <;> cases h
  refine { SameRows.refl q db with userRoles := filter_deleteWhere ?_ db.userRoles }
  intro ur hur
  simp only [Bool.and_eq_true, beq_iff_eq] at hur
  rw [hur.1.2]
  exact hq

/-- The permissions of the selected roles, when neither the roles nor the grants change. -/
theorem grantsOf_congr (hroles : rolesOf q db' = rolesOf q db)
    (hgrants : db'.rolePermissions = db.rolePermissions) : grantsOf q db' = grantsOf q db := by
  rw [grantsOf, grantsOf, hroles, hgrants]

theorem sameRows_createRole {name description : String} {row : RoleRow} (hq : q (some A) = false)
    (h : Repo.createRole name description A db = .ok (row, db')) : SameRows q db db' := by
  unfold Repo.createRole at h
  repeat' split at h
  all_goals cases h
  have hroles := filter_insert (q := fun r : RoleRecord => q r.tenantId)
    (x := ⟨⟨db.rolesIdSeq + 1, name, description⟩, some A⟩) hq db.roles
  exact { SameRows.refl q db with roles := hroles, grants := grantsOf_congr hroles rfl }

/-- The tenant's own roles are none of the selected ones. -/
theorem not_selected {name : String} (hq : q (some A) = false) {r : RoleRecord}
    (hr : ((tenantTx A).sees r.tenantId && Repo.ownRole name A r) = true) : q r.tenantId = false := by
  simp only [Repo.ownRole, Bool.and_eq_true, beq_iff_eq] at hr
  rw [hr.2.2]
  exact hq

theorem sameRows_updateRole {name description : String} (hq : q (some A) = false) :
    SameRows q db (Repo.updateRole name description A db).2 := by
  have hroles : rolesOf q (Repo.updateRole name description A db).2 = rolesOf q db := by
    apply filter_updateWhere
    intro r hr
    exact ⟨not_selected hq hr, not_selected hq hr⟩
  exact { SameRows.refl q db with roles := hroles, grants := grantsOf_congr hroles rfl }

/-- Grants and assignments of a selected role survive the deletion of another one. -/
theorem sameRows_deleteRole {name : String} (hids : Unique (·.id) db.roles)
    (htenancy : RoleTenancy db) (hq : q (some A) = false) : SameRows q db (Repo.deleteRole name A db) := by
  have hroles : rolesOf q (Repo.deleteRole name A db) = rolesOf q db :=
    filter_deleteWhere (fun r hr => not_selected hq hr) db.roles
  refine { SameRows.refl q db with roles := hroles, grants := ?_, userRoles := ?_ }
  · rw [grantsOf, hroles]
    apply filter_deleteWhere
    intro rp hgone
    obtain ⟨r, hr, hhit⟩ := List.any_eq_true.mp hgone
    simp only [Bool.and_eq_true, beq_iff_eq] at hhit
    rw [List.any_eq_false]
    intro r' hr' hid
    obtain ⟨hr', hsel⟩ := List.mem_filter.mp hr'
    obtain rfl := hids.eq_of_mem hr hr' (hhit.2.trans (beq_iff_eq.mp hid).symm)
    rw [not_selected hq (by simpa using hhit.1)] at hsel
    cases hsel
  · apply filter_deleteWhere_of_mem
    intro ur hur hgone
    obtain ⟨r, hr, hhit⟩ := List.any_eq_true.mp hgone
    simp only [Bool.and_eq_true, beq_iff_eq, Repo.ownRole] at hhit
    obtain ⟨r', hr', hid, hvisible⟩ := htenancy ur hur
    obtain rfl := hids.eq_of_mem hr hr' (hhit.2.trans hid.symm)
    rcases hvisible with hnone | hsome
    · rw [hhit.1.2.2] at hnone
      cases hnone
    · rw [← hsome, hhit.1.2.2]
      exact hq

theorem filter_insertRolePermissions {f : RolePermission → Bool} {pairs table : List RolePermission}
    (hf : ∀ rp ∈ pairs, f rp = false) :
    (Repo.insertRolePermissions table pairs).filter f = table.filter f := by
  induction pairs generalizing table with
  | nil => rfl
  | cons rp pairs ih =>
    rw [Repo.insertRolePermissions, ih fun x hx => hf x (List.mem_cons_of_mem rp hx)]
    split
    · rfl
    · exact filter_insert (hf rp List.mem_cons_self) table

/-- An id of the tenant's own role is the id of no selected one. -/
theorem own_not_selected {name : String} (hids : Unique (·.id) db.roles) (hq : q (some A) = false)
    {id : Nat} (hown : id ∈ Repo.ownRoleIds name A db) :
    ((rolesOf q db).any fun r => r.id == id) = false := by
  obtain ⟨r, hr, -, htenant, hid⟩ := mem_ownRoleIds.1 hown
  rw [List.any_eq_false]
  intro r' hr' hid'
  obtain ⟨hr', hsel⟩ := List.mem_filter.mp hr'
  obtain rfl := hids.eq_of_mem hr hr' (hid.trans (beq_iff_eq.mp hid').symm)
  rw [htenant, hq] at hsel
  cases hsel

theorem sameRows_grantPermission {name perm : String} (hids : Unique (·.id) db.roles)
    (hq : q (some A) = false) : SameRows q db (Repo.grantPermission name perm A db) := by
  refine { SameRows.refl q db with grants := filter_insertRolePermissions ?_ }
  intro rp hrp
  obtain ⟨id, hid, hrp⟩ := List.mem_flatMap.mp hrp
  obtain ⟨p, -, rfl⟩ := List.mem_map.mp hrp
  exact own_not_selected hids hq hid

theorem scalarSubquery_mem {xs : List Nat} {x : Nat}
    (h : Repo.scalarSubquery xs = .ok (some x)) : x ∈ xs := by
  unfold Repo.scalarSubquery at h
  split at h <;> cases h
  exact List.mem_singleton_self _

theorem sameRows_revokePermission {name perm : String} {u : Unit} (hids : Unique (·.id) db.roles)
    (hq : q (some A) = false) (h : Repo.revokePermission name perm A db = .ok (u, db')) :
    SameRows q db db' := by
  obtain ⟨role, hrole, h⟩ := bind_ok h
  obtain ⟨p, -, h⟩ := bind_ok h
  cases h
  refine { SameRows.refl q db with grants := filter_deleteWhere ?_ _ }
  intro rp hrp
  simp only [Bool.and_eq_true, beq_iff_eq] at hrp
  rw [← hrp.1] at hrole
  exact own_not_selected hids hq (scalarSubquery_mem hrole)

end Writers

/-! ## Statements that act in one tenant -/

/-- A write of an administrative table in tenant `A`, or a quiet statement. -/
def ActsIn (A : Uuid) (s : Sql) : Prop :=
  s.quiet = true ∨
  match s with
  | .createProject t _ _ | .addMember _ t | .removeMember _ t => t = A
  | .createRole name _ t => t = A ∧ isBuiltinRole name = false
  | .updateRole _ _ t | .deleteRole _ t => t = A
  | .assignRole _ _ t _ | .revokeRole _ _ t _ => t = A
  | .grantPermission _ _ t | .revokePermission _ _ t => t = A
  | _ => False

theorem sameRows_exec {q : Option Uuid → Bool} {A : Uuid} {conn : DbRole} {c : Choice} {s : Sql}
    {r : Reply s} {db db' : Db} (hs : ActsIn A s) (hids : Unique (·.id) db.roles)
    (htenancy : RoleTenancy db) (hq : q (some A) = false) (h : s.exec conn c db = .ok (r, db')) :
    SameRows q db db' := by
  rcases hs with hquiet | hs
  · apply SameRows.of_frame q (Sql.exec_frame h)
    intro t ht
    simp only [Sql.quiet, Bool.or_eq_true, beq_iff_eq] at hquiet
    rcases hquiet with hw | hw
    · rw [hw] at ht
      cases ht
    · rw [hw] at ht
      rw [List.mem_singleton.mp ht]
      decide
  · cases s <;> try exact hs.elim
    case createProject t slug name =>
      obtain rfl : t = A := hs
      exact sameRows_createProject hq h
    case addMember user t =>
      obtain rfl : t = A := hs
      exact sameRows_createMembership hq h
    case removeMember user t =>
      obtain rfl : t = A := hs
      cases h
      exact sameRows_removeMember hq
    case createRole name description t =>
      obtain ⟨rfl, -⟩ := hs
      exact sameRows_createRole hq h
    case updateRole name description t =>
      obtain rfl : t = A := hs
      cases h
      exact sameRows_updateRole hq
    case deleteRole name t =>
      obtain rfl : t = A := hs
      cases h
      exact sameRows_deleteRole hids htenancy hq
    case assignRole user name t p =>
      obtain rfl : t = A := hs
      simp only [Sql.exec, Repo.assignRole] at h
      split at h
      · next h' =>
        cases h
        exact sameRows_insertUserRoles hq h'
      · cases h
    case revokeRole user name t p =>
      obtain rfl : t = A := hs
      exact sameRows_revokeRole hq h
    case grantPermission name perm t =>
      obtain rfl : t = A := hs
      cases h
      exact sameRows_grantPermission hids hq
    case revokePermission name perm t =>
      obtain rfl : t = A := hs
      exact sameRows_revokePermission hids hq h

theorem ActsIn.issued {A : Uuid} {s : Sql} (hs : ActsIn A s) : Issued (.sql s) := by
  cases s <;> try exact trivial
  case createRole name description t =>
    rcases hs with hquiet | ⟨-, hname⟩
    · cases hquiet
    · exact hname
  all_goals
    rcases hs with hquiet | hs
    · cases hquiet
    · exact hs.elim

theorem ActsIn.no_bootstrap {A : Uuid} {email hash role : String} :
    ¬ActsIn A (.createUserWithRole email hash role) := by
  intro hs
  rcases hs with hquiet | hs
  · cases hquiet
  · exact hs

/-! ## Handlers -/

/-- The RPCs that administer the tenant of the token. -/
def Rpc.administers : Rpc → Bool
  | .createProject _ | .addMember _ | .removeMember _ => true
  | .createRole _ | .updateRole _ | .deleteRole _ => true
  | .assignRole _ | .assignRoleBulk _ | .revokeRole _ => true
  | .grantPermission _ | .revokePermission _ => true
  | _ => false

/-- Such an RPC acts in its active tenant. -/
theorem Rpc.actsIn {cr : Crates} {svc : AuthSvc} {md : MetadataMap} {r : Rpc} {A : Uuid}
    (hr : r.administers = true) (hA : activeTenantOpt cr md = some A) {s : Sql}
    (hs : (Call.rpc svc md r).Issues cr (.sql s)) : ActsIn A s := by
  rcases hs with hquiet | hs
  · exact .inl hquiet
  · have htenant : ∀ t, activeTenantOpt cr md = some t → t = A := by
      intro t ht
      exact Option.some.inj (ht.symm.trans hA)
    cases r <;> try exact absurd hr Bool.false_ne_true
    case createProject req =>
      cases s <;> first | exact hs.elim | exact .inr (htenant _ hs.2)
    case addMember req =>
      cases s <;> first | exact hs.elim | exact .inr (htenant _ hs.2)
    case createRole req =>
      cases s <;> first | exact hs.elim | exact .inr ⟨htenant _ hs.2.1, hs.2.2.2⟩
    all_goals
      cases s <;> first | exact hs.elim | exact .inr (htenant _ hs.2.1)

/-! ## Runs -/

/-- A start of a migrated service that runs alone until it ends, and then any calls but
starts. -/
structure Bootstrapped (cr : Crates) (conn : DbRole) (redis : Redis) (env : BootstrapEnv)
    (boot rpcs : List Act) : Prop where
  alone : ∀ k, .start k ∉ boot
  ended : ∃ r, (runFrom cr conn ⟨migrated, redis⟩ (.start (.start env) :: boot)).result 0 = some r
  served : ∀ env', .start (.start env') ∉ rpcs

section Runs

variable {cr : Crates} {conn : DbRole} {redis : Redis} {env : BootstrapEnv} {boot rpcs : List Act}

/-- What holds of the roles when a run is at some state. -/
structure RolesKept (db : Db) : Prop where
  inv : RoleInv db
  tenancy : RoleTenancy db

theorem RolesKept.exec {c : Choice} {s : Sql} {r : Reply s} {db db' : Db} (h : RolesKept db)
    (hs : Issued (.sql s)) (hsafe : ∀ email hash role, s = .createUserWithRole email hash role →
      ∀ x ∈ db.roles, x.name = role → visibleIn defaultTenantId x)
    (hx : s.exec conn c db = .ok (r, db')) : RolesKept db' :=
  ⟨roleInv_exec hs hx h.inv, roleTenancy_exec hs hsafe hx h.inv h.tenancy⟩

theorem pending_issued {st : State} {ls : List Act} {i : Nat} {o : Op}
    (hp : (runFrom cr conn st ls).pending i = some o) (c : Choice) : Issued o := by
  have ht : Pool.Tracks (fun _ => Monitor.emitting Issued) (fun _ _ _ => True) (fun _ => ())
      (runFrom cr conn st ls) := Pool.tracks_run (issued_body cr) st ls
  obtain ⟨k, -, hok⟩ := ht.pending hp ((machine cr conn).exec o c (runFrom cr conn st ls).state).1
  exact hok

theorem rolesKept_migrated : RolesKept migrated := ⟨roleInv_migrated, roleTenancy_migrated⟩

/-- The start writes no role, so it only meets templates. -/
structure BootInv (env : BootstrapEnv) (w : World) : Prop where
  kept : RolesKept w.state.db
  templates : ∀ r ∈ w.state.db.roles, r.tenantId = none
  only : ∀ i k, w.callOf i = some k → i = 0 ∧ k = .start env

theorem start_writes {s : Sql} (hs : (Call.start env).Issues cr (.sql s)) : .roles ∉ s.writes := by
  rcases hs with hquiet | hs
  · simp only [Sql.quiet, Bool.or_eq_true, beq_iff_eq] at hquiet
    rcases hquiet with hw | hw <;> simp [hw]
  · cases s <;> first | exact hs.elim | simp [Sql.writes]

theorem bootInv_next {st : State} {ls : List Act} {l : Act} (hl : ∀ k, l ≠ .start k)
    (h : BootInv env (runFrom cr conn st ls)) : BootInv env (runFrom cr conn st (ls ++ [l])) := by
  rw [runFrom_append, Pool.run_cons, Pool.run_nil]
  have hcalls : ∀ i k, (Pool.next (machine cr conn) (Call.body cr) (runFrom cr conn st ls) l).callOf i =
      some k → i = 0 ∧ k = .start env := by
    intro i k hk
    rcases Pool.callOf_of_next hk with hold | ⟨hstart, -⟩
    · exact h.only i k hold
    · exact absurd hstart (hl k)
  rcases db_next cr conn (Call.body cr) (runFrom cr conn st ls) l with
    hsame | ⟨i, c, s, r, db', -, hp, hx, -, hnew⟩
  · constructor
    · rw [hsame]
      exact h.kept
    · rw [hsame]
      exact h.templates
    · exact hcalls
  · obtain ⟨k, hk, hissues⟩ := pending_issues hp c
    rw [(h.only i k hk).2] at hissues
    have hroles := (Sql.exec_frame hx).roles (start_writes hissues)
    constructor
    · rw [hnew]
      apply h.kept.exec (pending_issued hp c) _ hx
      intro email hash role _ x hxr _
      exact .inl (h.templates x hxr)
    · rw [hnew, hroles]
      exact h.templates
    · exact hcalls

theorem bootInv (cr : Crates) (conn : DbRole) (redis : Redis) (env : BootstrapEnv)
    (hboot : ∀ k, .start k ∉ boot) :
    BootInv env (runFrom cr conn ⟨migrated, redis⟩ (.start (.start env) :: boot)) := by
  induction boot using List.reverseRecOn with
  | nil =>
    refine ⟨rolesKept_migrated, (by decide : ∀ r ∈ migrated.roles, r.tenantId = none), ?_⟩
    intro i k hk
    have hk : (Pool.next (machine cr conn) (Call.body cr) (Pool.init ⟨migrated, redis⟩)
        (.start (.start env))).callOf i = some k := hk
    rcases Pool.callOf_of_next hk with hold | ⟨hstart, hi⟩
    · simp [Pool.callOf, Pool.init] at hold
    · cases hstart
      exact ⟨hi, rfl⟩
  | append_singleton boot l ih =>
    rw [← List.cons_append]
    apply bootInv_next
    · intro k hk
      exact hboot k (by simp [hk])
    · exact ih fun k hk => hboot k (List.mem_append_left _ hk)

/-- Once the start has ended, nothing assigns a role by its name alone. -/
structure ServedInv (w : World) : Prop where
  kept : RolesKept w.state.db
  ended : ∀ i env, w.callOf i = some (.start env) → ∃ r, w.result i = some r

theorem served_createUser {k : Call} {email hash role : String}
    (hk : k.Issues cr (.sql (.createUserWithRole email hash role))) : ∃ env, k = .start env := by
  rcases hk with hquiet | hk
  · cases hquiet
  · cases k with
    | start env => exact ⟨env, rfl⟩
    | profileCreationFailed userId reason => exact hk.elim
    | rpc svc md r => cases r <;> exact hk.elim

theorem servedInv_next {st : State} {ls : List Act} {l : Act} (hl : ∀ env, l ≠ .start (.start env))
    (h : ServedInv (runFrom cr conn st ls)) : ServedInv (runFrom cr conn st (ls ++ [l])) := by
  rw [runFrom_append, Pool.run_cons, Pool.run_nil]
  have hended : ∀ i env, (Pool.next (machine cr conn) (Call.body cr) (runFrom cr conn st ls) l).callOf i =
      some (.start env) →
      ∃ r, (Pool.next (machine cr conn) (Call.body cr) (runFrom cr conn st ls) l).result i = some r := by
    intro i env hi
    rcases Pool.callOf_of_next hi with hold | ⟨hstart, -⟩
    · obtain ⟨r, hr⟩ := h.ended i env hold
      exact ⟨r, Pool.result_next hr l⟩
    · exact absurd hstart (hl env)
  rcases db_next cr conn (Call.body cr) (runFrom cr conn st ls) l with
    hsame | ⟨i, c, s, r, db', -, hp, hx, -, hnew⟩
  · exact ⟨hsame ▸ h.kept, hended⟩
  · refine ⟨?_, hended⟩
    rw [hnew]
    apply h.kept.exec (pending_issued hp c) _ hx
    intro email hash role hs
    obtain ⟨k, hk, hissues⟩ := pending_issues hp c
    rw [hs] at hissues
    obtain ⟨env, rfl⟩ := served_createUser hissues
    obtain ⟨r, hr⟩ := h.ended i env hk
    obtain ⟨k', ht⟩ := Pool.result_eq_some.1 hr
    obtain ⟨k'', f, ht'⟩ := Pool.pending_eq_some.1 hp
    cases ht.symm.trans ht'

theorem servedInv (h : Bootstrapped cr conn redis env boot rpcs) :
    ServedInv (runFrom cr conn ⟨migrated, redis⟩ ((.start (.start env) :: boot) ++ rpcs)) := by
  obtain ⟨halone, ⟨r, hended⟩, hserved⟩ := h
  induction rpcs using List.reverseRecOn with
  | nil =>
    rw [List.append_nil]
    have hboot := bootInv cr conn redis env halone
    refine ⟨hboot.kept, ?_⟩
    intro i env' hi
    obtain ⟨rfl, -⟩ := hboot.only i _ hi
    exact ⟨r, hended⟩
  | append_singleton rpcs l ih =>
    rw [← List.append_assoc]
    apply servedInv_next
    · intro env' hl
      exact hserved env' (by simp [hl])
    · exact ih fun env' henv => hserved env' (List.mem_append_left _ henv)

end Runs

/-! ## Isolation -/

/-- What a call leaves alone of the tenants other than `A` and of the templates: in any
interleaving each of its steps does, and so does the whole call when it runs alone from
a state that a run reaches, whatever it returns. -/
structure WritesOwn (cr : Crates) (conn : DbRole) (st : State) (boot rpcs : List Act) (A : Uuid)
    (k : Call) : Prop where
  steps : ∀ pre i c post, rpcs = pre ++ .step i c :: post →
    (runFrom cr conn st (boot ++ pre)).callOf i = some k →
    SameRows (elsewhere A) (runFrom cr conn st (boot ++ pre)).state.db
      (runFrom cr conn st (boot ++ (pre ++ [.step i c]))).state.db
  alone : ∀ cs, SameRows (elsewhere A) (runFrom cr conn st (boot ++ rpcs)).state.db
    ((k.body cr).eval (machine cr conn) cs (runFrom cr conn st (boot ++ rpcs)).state).2.1.db

section Isolation

variable {cr : Crates} {conn : DbRole} {redis : Redis} {env : BootstrapEnv} {boot rpcs : List Act}
variable {svc : AuthSvc} {md : MetadataMap} {r : Rpc} {A : Uuid}

theorem RolesKept.sameRows {c : Choice} {s : Sql} {x : Reply s} {db db' : Db} (h : RolesKept db)
    (hs : ActsIn A s) (hx : s.exec conn c db = .ok (x, db')) :
    RolesKept db' ∧ SameRows (elsewhere A) db db' := by
  have hq : elsewhere A (some A) = false := by simp [elsewhere]
  refine ⟨h.exec hs.issued ?_ hx, sameRows_exec hs h.inv.ids h.tenancy hq hx⟩
  intro email hash role heq
  rw [heq] at hs
  exact absurd hs ActsIn.no_bootstrap

theorem Bootstrapped.of_append {pre post : List Act}
    (h : Bootstrapped cr conn redis env boot (pre ++ post)) :
    Bootstrapped cr conn redis env boot pre :=
  ⟨h.alone, h.ended, fun env' henv => h.served env' (List.mem_append_left _ henv)⟩

/-- Tenant write isolation. -/
theorem write_isolation (h : Bootstrapped cr conn redis env boot rpcs)
    (hr : r.administers = true) (hA : activeTenantOpt cr md = some A) :
    WritesOwn cr conn ⟨migrated, redis⟩ (.start (.start env) :: boot) rpcs A (.rpc svc md r) := by
  constructor
  · intro pre i c post hrpcs hcall
    rw [hrpcs] at h
    have hkept := (servedInv h.of_append).kept
    rw [← List.append_assoc]
    have hstep : RolesKept _ → SameRows (elsewhere A) _ _ := step_of_body
      (R := fun db db' => RolesKept db → SameRows (elsewhere A) db db') (issues_body cr) hcall c
      (fun db _ => .refl _ db) fun hs hx hdb => (hdb.sameRows (Rpc.actsIn hr hA hs) hx).2
    exact hstep hkept
  · intro cs
    have hkept := (servedInv h).kept
    have hemits : ((Call.rpc svc md r).body cr).Emits fun o => ∀ s, o = .sql s → ActsIn A s := by
      apply (issues_body cr (.rpc svc md r)).imp
      intro o ho s heq
      rw [heq] at ho
      exact Rpc.actsIn hr hA ho
    have hstep := hemits.eval_inv (M := machine cr conn)
      (I := fun st => RolesKept st.db ∧ SameRows (elsewhere A)
        (runFrom cr conn ⟨migrated, redis⟩ ((.start (.start env) :: boot) ++ rpcs)).state.db st.db)
    refine (hstep ?_ cs ⟨hkept, .refl _ _⟩).2
    intro o c st ho hst
    cases o with
    | redis cmd => exact hst
    | sys call => exact hst
    | sql s =>
      rcases Sql.run_cases conn s c st.db with ⟨e, he⟩ | ⟨x, db', hx, hrun⟩
      · rw [exec_sql_db, he]
        exact hst
      · rw [exec_sql_db, hrun]
        obtain ⟨hkept', hsame⟩ := hst.1.sameRows (ho s rfl) hx
        exact ⟨hkept', hst.2.trans hsame⟩

end Isolation

namespace Sample

/-- A start that only seeds the console client. -/
def quietEnv : BootstrapEnv := ⟨"", "", "console", "secret", "", "", ""⟩

def tenantAdmin : MetadataMap := metadata 10 20 "tenant:write,role:write"

/-- A user, its tenant, and a role of the tenant. -/
def tenantSetup : List Act :=
  let step := fun n : Nat => choice 0 (BitVec.ofNat 128 n) ""
  alone 1 (.rpc svc [] (.register ⟨"u@iam.local", "password"⟩)) (List.replicate 4 (step 10)) ++
  alone 2 (.rpc svc tenantAdmin (.createTenant ⟨"b", "B"⟩)) [step 20] ++
  alone 3 (.rpc svc tenantAdmin (.createRole ⟨"auditor", "reads"⟩)) [step 0]

theorem write_isolation_deleteRole : WritesOwn crates .superuser ⟨migrated, []⟩
    [.start (.start quietEnv), .step 0 (choice 0 0 "")] tenantSetup 20
    (.rpc svc tenantAdmin (.deleteRole ⟨"auditor"⟩)) := by
  have hboot : Bootstrapped crates .superuser [] quietEnv [.step 0 (choice 0 0 "")] tenantSetup := by
    refine ⟨by simp, ⟨.ok .done, by decide⟩, ?_⟩
    simp [tenantSetup, alone]
  exact write_isolation hboot rfl (by decide)

end Sample

end IamAuth
