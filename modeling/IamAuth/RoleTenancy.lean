import IamAuth.Issued
import IamAuth.Frame

/-!
# Role assignments and tenants

`RoleTenancy` says that an assignment references a template or a role of its own
tenant. `RoleInv` is what every run keeps without it: role ids are unique and the
reserved names belong to templates. The name `viewer`, by which a start finds the
role of the demo account, is not reserved, and that is the only way in.
-/

set_option autoImplicit false

namespace IamAuth

open Interleave Relational

/-- A template, or the tenant's own role. -/
def visibleIn (tenantId : Uuid) (r : RoleRecord) : Prop :=
  r.tenantId = none ∨ r.tenantId = some tenantId

instance (tenantId : Uuid) (r : RoleRecord) : Decidable (visibleIn tenantId r) :=
  inferInstanceAs (Decidable (_ ∨ _))

def RoleTenancy (db : Db) : Prop :=
  ∀ ur ∈ db.userRoles, ∃ r ∈ db.roles, r.id = ur.roleId ∧ visibleIn ur.tenantId r

instance (db : Db) : Decidable (RoleTenancy db) :=
  inferInstanceAs (Decidable (∀ ur ∈ db.userRoles, _))

structure RoleInv (db : Db) : Prop where
  ids : (db.roles.map (·.id)).Nodup
  reserved : ∀ r ∈ db.roles, isBuiltinRole r.name = true → r.tenantId = none
  home : db.tenants.any (fun t => t.id == defaultTenantId) = true

theorem RoleInv.unique {db : Db} (h : RoleInv db) {r r' : RoleRecord} (hr : r ∈ db.roles)
    (hr' : r' ∈ db.roles) (hid : r.id = r'.id) : r = r' :=
  List.inj_on_of_nodup_map h.ids hr hr' hid

/-! ## Insertions into `user_roles` -/

section Insert

variable {s : Session} {u t : Uuid} {p : Option Uuid} {rs : List Nat} {db db' : Db}

theorem subset_insertUserRoles (h : Repo.insertUserRoles s u t p rs db = .ok db') :
    db.userRoles ⊆ db'.userRoles := by
  obtain ⟨new, hnew, -⟩ := insertUserRoles_rows h
  rw [hnew]
  exact List.subset_append_left _ _

/-- Every selected role is assigned afterwards, by this row or an older one. -/
theorem assigned_insertUserRoles (h : Repo.insertUserRoles s u t p rs db = .ok db') {r : Nat}
    (hr : r ∈ rs) :
    ∃ x ∈ db'.userRoles, Repo.assignmentKey x = Repo.assignmentKey ⟨u, r, t, p⟩ := by
  induction rs generalizing db with
  | nil => simp at hr
  | cons r' rs ih =>
    simp only [Repo.insertUserRoles] at h
    split at h
    · next db₁ h₁ =>
      rcases List.mem_cons.mp hr with rfl | hr
      · have hsub := subset_insertUserRoles h
        rcases (insertUserRole_cases h₁).2 with ⟨rfl, x, hx, hkey⟩ | ⟨-, rfl⟩
        · exact ⟨x, hsub hx, hkey⟩
        · exact ⟨_, hsub (by simp), rfl⟩
      · exact ih h hr
    · cases h

/-- Assigning roles the tenant may see keeps the invariant. -/
theorem roleTenancy_insert (h : Repo.insertUserRoles s u t p rs db = .ok db')
    (hrs : ∀ id ∈ rs, ∃ r ∈ db.roles, r.id = id ∧ visibleIn t r) (hdb : RoleTenancy db) :
    RoleTenancy db' := by
  intro ur hur
  rw [(frame_insertUserRoles h).roles (by simp)]
  rcases mem_insertUserRoles h hur with hur | ⟨r, hr, rfl⟩
  · exact hdb ur hur
  · exact hrs r hr

end Insert

/-! ## The roles a statement selects by name -/

theorem mem_rolesNamed {s : Session} {name : String} {db : Db} {id : Nat} :
    id ∈ Repo.rolesNamed s name db ↔
      ∃ r ∈ db.roles, r.name = name ∧ s.sees r.tenantId = true ∧ r.id = id := by
  simp [Repo.rolesNamed, Session.roles, and_assoc]

theorem mem_resolveRole {name : String} {t : Uuid} {db : Db} {id : Nat}
    (h : id ∈ Repo.resolveRole name t db) :
    ∃ r ∈ db.roles, r.id = id ∧ visibleIn t r ∧ r.name = name := by
  obtain ⟨r, hr, rfl⟩ := List.mem_map.mp h
  have hr := List.mem_of_mem_take hr
  simp only [List.mem_append, List.mem_filter, Session.roles, Bool.and_eq_true,
    Bool.or_eq_true, beq_iff_eq, Option.isNone_iff_eq_none] at hr
  rcases hr with ⟨⟨⟨hmem, -⟩, hname, hvis⟩, -⟩ | ⟨⟨⟨hmem, -⟩, hname, hvis⟩, -⟩
  · exact ⟨r, hmem, rfl, hvis.symm, hname⟩
  · exact ⟨r, hmem, rfl, hvis.symm, hname⟩

/-! ## What every statement keeps -/

/-- A role name that only templates may carry. -/
theorem RoleInv.template {db : Db} (h : RoleInv db) {name : String}
    (hname : isBuiltinRole name = true) {r : RoleRecord} (hr : r ∈ db.roles)
    (hr' : r.name = name) (t : Uuid) : visibleIn t r :=
  .inl (h.reserved r hr (by rw [hr', hname]))

theorem RoleInv.of_frame {ts : List Table} {db db' : Db} (hinv : RoleInv db)
    (h : Frame ts db db') (hroles : .roles ∉ ts) (htenants : .tenants ∉ ts) : RoleInv db' where
  ids := by rw [h.roles hroles]; exact hinv.ids
  reserved := by rw [h.roles hroles]; exact hinv.reserved
  home := by rw [h.tenants htenants]; exact hinv.home

theorem roleInv_createRole {name description : String} {t : Uuid} {db db' : Db} {row : RoleRow}
    (hname : isBuiltinRole name = false)
    (h : Repo.createRole name description t db = .ok (row, db')) (hinv : RoleInv db) :
    RoleInv db' := by
  unfold Repo.createRole at h
  split at h
  · cases h
  · split at h
    · cases h
    · split at h
      · cases h
      · next hid =>
        split at h <;> cases h
        refine ⟨?_, ?_, hinv.home⟩
        · simp only [List.any_eq_true, beq_iff_eq, not_exists, not_and] at hid
          simp only [List.map_append, List.map_cons, List.map_nil]
          refine List.nodup_append.mpr ⟨hinv.ids, by simp, ?_⟩
          rintro _ hr _ hs rfl
          obtain ⟨r, hr, hrid⟩ := List.mem_map.mp hr
          exact hid r hr (hrid.trans (by simpa using hs))
        · intro r hr hb
          rcases List.mem_append.mp hr with hr | hr
          · exact hinv.reserved r hr hb
          · obtain rfl := List.mem_singleton.mp hr
            exact absurd hb (by simp [hname])

theorem roleInv_updateRole (name description : String) (t : Uuid) {db : Db} (hinv : RoleInv db) :
    RoleInv (Repo.updateRole name description t db).2 where
  ids := by
    rw [Repo.updateRole, map_updateWhere]
    · exact hinv.ids
    · intros; rfl
  reserved := by
    intro r hr hb
    obtain ⟨x, hx, rfl⟩ := mem_updateWhere.1 hr
    have := hinv.reserved x hx
    split at hb <;> split <;> simp_all
  home := hinv.home

theorem roleInv_deleteRole (name : String) (t : Uuid) {db : Db} (hinv : RoleInv db) :
    RoleInv (Repo.deleteRole name t db) where
  ids := hinv.ids.sublist (List.filter_sublist.map _)
  reserved r hr := hinv.reserved r (mem_deleteWhere.1 hr).1
  home := hinv.home

theorem roleInv_exec {conn : DbRole} {c : Choice} {s : Sql} {db db' : Db} {r : Reply s}
    (hs : Issued (.sql s)) (h : s.exec conn c db = .ok (r, db')) (hinv : RoleInv db) :
    RoleInv db' := by
  have hframe := Sql.exec_frame h
  by_cases hw : .roles ∈ s.writes ∨ .tenants ∈ s.writes
  · cases s <;> simp only [Sql.writes, List.mem_cons, List.not_mem_nil, reduceCtorEq, or_self,
      or_false, false_or] at hw
    case createRole name description t => exact roleInv_createRole hs h hinv
    case updateRole name description t =>
      cases h
      exact roleInv_updateRole name description t hinv
    case deleteRole name t =>
      cases h
      exact roleInv_deleteRole name t hinv
    case createTenantWithAdmin slug name creator =>
      obtain ⟨db₁, db₂, -, h₁, h₂, h₃⟩ := createTenantWithAdmin_ok h
      have h₀ : RoleInv db₁ := by
        rw [insertTenant_ok h₁]
        exact ⟨hinv.ids, hinv.reserved, by rw [List.any_append, hinv.home, Bool.true_or]⟩
      have h₁ := h₀.of_frame (frame_createMembership h₂) (by simp) (by simp)
      exact h₁.of_frame (frame_insertUserRoles h₃) (by simp) (by simp)
  · push Not at hw
    exact hinv.of_frame hframe hw.1 hw.2

/-! ## Which statement can break it -/

/-- The one insertion that takes roles from everywhere: bootstrap_demo's, when
it goes through, for a role name that some other tenant has used. -/
def crossesTenants (c : Choice) (db : Db) : Op → Prop
  | .sql (.createUserWithRole email _ role) =>
    role = "viewer" ∧ c.fails = false ∧ db.users.any (fun u => u.id == c.uuid || u.email == email) =
      false ∧ ∃ r ∈ db.roles, r.name = role ∧ ¬visibleIn defaultTenantId r
  | _ => False

theorem RoleTenancy.subset {db db' : Db} (hdb : RoleTenancy db) (hroles : db'.roles = db.roles)
    (hsub : ∀ ur ∈ db'.userRoles, ur ∈ db.userRoles) : RoleTenancy db' := by
  intro ur hur
  rw [hroles]
  exact hdb ur (hsub ur hur)

theorem RoleTenancy.of_frame {ts : List Table} {db db' : Db} (hdb : RoleTenancy db)
    (h : Frame ts db db') (hroles : .roles ∉ ts) (huserRoles : .userRoles ∉ ts) :
    RoleTenancy db' :=
  hdb.subset (h.roles hroles) fun ur hur => by rwa [h.userRoles huserRoles] at hur

theorem roleTenancy_deleteRole (name : String) (t : Uuid) {db : Db} (hdb : RoleTenancy db) :
    RoleTenancy (Repo.deleteRole name t db) := by
  intro ur hur
  obtain ⟨hur, hgone⟩ := mem_deleteWhere.1 hur
  obtain ⟨r, hr, hid, hvis⟩ := hdb ur hur
  refine ⟨r, mem_deleteWhere.2 ⟨hr, ?_⟩, hid, hvis⟩
  -- A role that is deleted takes its assignments along.
  by_contra hhit
  rw [Bool.not_eq_false] at hhit
  rw [List.any_eq_false] at hgone
  exact hgone r hr (by simp [hid, hhit])

theorem roleTenancy_updateRole (name description : String) (t : Uuid) {db : Db}
    (hdb : RoleTenancy db) : RoleTenancy (Repo.updateRole name description t db).2 := by
  intro ur hur
  obtain ⟨r, hr, hid, hvis⟩ := hdb ur hur
  refine ⟨_, mem_updateWhere.2 ⟨r, hr, rfl⟩, ?_⟩
  split <;> exact ⟨hid, hvis⟩

section NewUser

variable {conn : DbRole} {c : Choice} {id : Uuid} {email hash role : String} {db db₁ db' : Db}

/-- The role of a new user, when only visible roles carry its name. -/
theorem roleTenancy_newUser (h₁ : Repo.insertUser id email hash db = .ok db₁)
    (h₂ : Repo.insertUserRoles (tenantGucTx conn defaultTenantId) id defaultTenantId none
      (Repo.rolesNamed (tenantGucTx conn defaultTenantId) role db₁) db₁ = .ok db')
    (hrole : ∀ r ∈ db.roles, r.name = role → visibleIn defaultTenantId r)
    (hdb : RoleTenancy db) : RoleTenancy db' := by
  have hf := frame_insertUser h₁
  refine roleTenancy_insert h₂ ?_ (hdb.of_frame hf (by simp) (by simp))
  intro rid hrid
  obtain ⟨r, hr, hname, -, rfl⟩ := mem_rolesNamed.1 hrid
  exact ⟨r, hr, rfl, hrole r (by rwa [hf.roles (by simp)] at hr) hname⟩

/-- A foreign role of that name is assigned as well, and breaks the invariant. -/
theorem not_roleTenancy_newUser (hinv : RoleInv db)
    (h : Repo.createUserWithRole .superuser c email hash role db = .ok (id, db'))
    {r : RoleRecord} (hr : r ∈ db.roles) (hname : r.name = role)
    (hvis : ¬visibleIn defaultTenantId r) : ¬RoleTenancy db' := by
  intro hdb
  obtain ⟨db₁, -, h₁, h₂⟩ := createUserWithRole_ok h
  have hroles : db'.roles = db.roles :=
    ((frame_insertUserRoles h₂).roles (by simp)).trans ((frame_insertUser h₁).roles (by simp))
  have hsel : r.id ∈ Repo.rolesNamed (tenantGucTx .superuser defaultTenantId) role db₁ := by
    refine mem_rolesNamed.2 ⟨r, ?_, hname, sees_superuser _ _, rfl⟩
    rwa [(frame_insertUser h₁).roles (by simp)]
  obtain ⟨x, hx, hkey⟩ := assigned_insertUserRoles h₂ hsel
  simp only [Repo.assignmentKey, Prod.mk.injEq] at hkey
  obtain ⟨r', hr', hid, hvis'⟩ := hdb x hx
  have : r' = r := hinv.unique (hroles ▸ hr') hr (hid.trans hkey.2.1)
  rw [this, hkey.2.2.1] at hvis'
  exact hvis hvis'

theorem insertUser_fresh (h : Repo.insertUser id email hash db = .ok db₁) :
    db.users.any (fun u => u.id == id || u.email == email) = false := by
  unfold Repo.insertUser at h
  split at h
  · cases h
  · next hn => simpa using hn

/-- With the references in place every selected role can be inserted. -/
theorem insertUserRoles_succeeds {s : Session} {u t : Uuid} {rs : List Nat}
    (hsees : s.sees (some t) = true) :
    ∀ {db : Db}, db.users.any (fun x => x.id == u) = true →
      db.tenants.any (fun x => x.id == t) = true →
      (∀ r ∈ rs, db.roles.any (fun x => x.id == r) = true) →
      ∃ db', Repo.insertUserRoles s u t none rs db = .ok db' := by
  induction rs with
  | nil => exact fun _ _ _ => ⟨_, rfl⟩
  | cons r rs ih =>
    intro db hu ht hrs
    have hone : ∃ db₁, Repo.insertUserRole s ⟨u, r, t, none⟩ db = .ok db₁ := by
      unfold Repo.insertUserRole
      simp only [hsees, Bool.not_true, Bool.false_eq_true, ↓reduceIte, Repo.userRoleReferences,
        hu, ht, hrs r (by simp), Bool.and_self]
      split <;> exact ⟨_, rfl⟩
    obtain ⟨db₁, h₁⟩ := hone
    have hf := frame_insertUserRole h₁
    simp only [Repo.insertUserRoles, h₁]
    refine ih ?_ ?_ fun r' hr' => ?_
    · rw [hf.users (by simp)]
      exact hu
    · rw [hf.tenants (by simp)]
      exact ht
    · rw [hf.roles (by simp)]
      exact hrs r' (by simp [hr'])

theorem createUserWithRole_succeeds (hash role : String) (hinv : RoleInv db)
    (hfresh : db.users.any (fun u => u.id == c.uuid || u.email == email) = false) :
    ∃ db', Repo.createUserWithRole .superuser c email hash role db = .ok (c.uuid, db') := by
  have h₁ : ∃ db₁, Repo.insertUser c.uuid email hash db = .ok db₁ ∧
      db₁.users.any (fun x => x.id == c.uuid) = true := by
    simp [Repo.insertUser, hfresh]
  obtain ⟨db₁, h₁, hu⟩ := h₁
  have hf := frame_insertUser h₁
  have h₂ : ∃ db', Repo.insertUserRoles (tenantGucTx .superuser defaultTenantId) c.uuid
      defaultTenantId none
      (Repo.rolesNamed (tenantGucTx .superuser defaultTenantId) role db₁) db₁ = .ok db' := by
    refine insertUserRoles_succeeds (sees_superuser _ _) hu ?_ fun rid hrid => ?_
    · rw [hf.tenants (by simp)]
      exact hinv.home
    · obtain ⟨r, hr, -, -, rfl⟩ := mem_rolesNamed.1 hrid
      exact List.any_eq_true.mpr ⟨r, hr, by simp⟩
  obtain ⟨db', h₂⟩ := h₂
  exact ⟨db', by simp [Repo.createUserWithRole, h₁, h₂, bind, Except.bind, pure, Except.pure]⟩

end NewUser

/-! ## One statement -/

theorem roleTenancy_exec {conn : DbRole} {c : Choice} {s : Sql} {db db' : Db} {r : Reply s}
    (hs : Issued (.sql s)) (hsafe : ∀ email hash role, s = .createUserWithRole email hash role →
      ∀ x ∈ db.roles, x.name = role → visibleIn defaultTenantId x)
    (h : s.exec conn c db = .ok (r, db')) (hinv : RoleInv db) (hdb : RoleTenancy db) :
    RoleTenancy db' := by
  by_cases hw : .roles ∈ s.writes ∨ .userRoles ∈ s.writes
  · cases s <;> simp only [Sql.writes, List.mem_cons, List.not_mem_nil, reduceCtorEq, or_self,
      or_false, or_true] at hw
    case createUserWithRole email hash role =>
      obtain ⟨db₁, -, h₁, h₂⟩ := createUserWithRole_ok h
      exact roleTenancy_newUser h₁ h₂ (hsafe email hash role rfl) hdb
    case createUserWithRoleEvent id email hash role eventType payload =>
      obtain ⟨db₁, db₂, h₁, h₂, h₃⟩ := createUserWithRoleEvent_ok h
      refine .of_frame ?_ (frame_insertOutbox h₃) (by simp) (by simp)
      refine roleTenancy_newUser h₁ h₂ (fun x hx hname => ?_) hdb
      exact hinv.template (by rw [hs]; rfl) hx hname _
    case deleteUserEventSoft id hard eventType payload =>
      refine .of_frame ?_ (frame_insertOutbox (deleteUserEventSoft_ok h)) (by simp) (by simp)
      split
      · exact hdb.subset rfl fun ur hur => (mem_deleteWhere.1 hur).1
      · exact hdb
    case createTenantWithAdmin slug name creator =>
      obtain ⟨db₁, db₂, -, h₁, h₂, h₃⟩ := createTenantWithAdmin_ok h
      have hdb₁ := hdb.of_frame (frame_insertTenant h₁) (by simp) (by simp)
      have hdb₂ := hdb₁.of_frame (frame_createMembership h₂) (by simp) (by simp)
      refine roleTenancy_insert h₃ ?_ hdb₂
      intro id hid
      simp only [List.mem_map, List.mem_filter, Session.roles, Bool.and_eq_true,
        Option.isNone_iff_eq_none] at hid
      obtain ⟨x, ⟨⟨hx, -⟩, -, hnone⟩, rfl⟩ := hid
      exact ⟨x, hx, rfl, .inl hnone⟩
    case assignRole userId roleName tenantId projectId =>
      simp only [Sql.exec, Repo.assignRole] at h
      split at h
      · next h' =>
        cases h
        refine roleTenancy_insert h' (fun id hid => ?_) hdb
        obtain ⟨x, hx, hxid, hvis, -⟩ := mem_resolveRole hid
        exact ⟨x, hx, hxid, hvis⟩
      · cases h
    case revokeRole userId roleName tenantId projectId =>
      simp only [Sql.exec, Repo.revokeRole] at h
      split at h <;> cases h
      exact hdb.subset rfl fun ur hur => (mem_deleteWhere.1 hur).1
    case createRole name description tenantId =>
      have hf := Sql.exec_frame h
      intro ur hur
      rw [hf.userRoles (by simp [Sql.writes])] at hur
      obtain ⟨x, hx, hxid, hvis⟩ := hdb ur hur
      refine ⟨x, ?_, hxid, hvis⟩
      simp only [Sql.exec, Repo.createRole] at h
      repeat' split at h
      all_goals cases h
      exact List.mem_append_left _ hx
    case updateRole name description tenantId =>
      cases h
      exact roleTenancy_updateRole name description tenantId hdb
    case deleteRole name tenantId =>
      cases h
      exact roleTenancy_deleteRole name tenantId hdb
  · push Not at hw
    exact hdb.of_frame (Sql.exec_frame h) hw.1 hw.2

theorem roleInv_migrated : RoleInv migrated :=
  ⟨by decide, by decide, by decide⟩

theorem roleTenancy_migrated : RoleTenancy migrated := by decide

/-- A statement of the service keeps the invariant exactly when it is not the
insertion above. -/
theorem roleTenancy_run {c : Choice} {s : Sql} {db : Db} (hs : Issued (.sql s))
    (hinv : RoleInv db) (hdb : RoleTenancy db) :
    RoleTenancy (s.run .superuser c db).2 ↔ ¬crossesTenants c db (.sql s) := by
  constructor
  · intro hkeep hx
    cases s <;> try exact hx
    case createUserWithRole email hash role =>
      obtain ⟨-, hfails, hfresh, x, hx, hname, hvis⟩ := hx
      obtain ⟨db', h⟩ := createUserWithRole_succeeds hash role hinv hfresh
      refine not_roleTenancy_newUser hinv h hx hname hvis ?_
      simpa [Sql.run, hfails, Sql.exec, h] using hkeep
  · intro hx
    rcases Sql.run_cases .superuser s c db with ⟨e, he⟩ | ⟨r, db', hexec, hr⟩
    · rw [he]
      exact hdb
    · rw [hr]
      have hfails : c.fails = false := by
        cases hf : c.fails with
        | false => rfl
        | true => simp [Sql.run, hf] at hr
      refine roleTenancy_exec hs (fun email hash role heq x hxmem hname => ?_) hexec hinv hdb
      subst heq
      rcases hs with rfl | rfl
      · exact hinv.template rfl hxmem hname _
      · obtain ⟨db₁, -, h₁, -⟩ := createUserWithRole_ok hexec
        by_contra hvis
        exact hx ⟨rfl, hfails, insertUser_fresh h₁, x, hxmem, hname, hvis⟩

/-! ## Runs -/

theorem roleInv_step {cr : Crates} {conn : DbRole} {o : Op} {c : Choice} {st : State}
    (ho : Issued o) (hinv : RoleInv st.db) : RoleInv ((machine cr conn).exec o c st).2.db := by
  cases o with
  | sql s =>
    rcases Sql.run_cases conn s c st.db with ⟨e, he⟩ | ⟨r, db', hexec, hr⟩
    · rw [exec_sql_db, he]
      exact hinv
    · rw [exec_sql_db, hr]
      exact roleInv_exec ho hexec hinv
  | redis r => exact hinv
  | sys s => exact hinv

theorem roleTenancy_step {cr : Crates} {o : Op} {c : Choice} {st : State} (ho : Issued o)
    (hinv : RoleInv st.db) (hdb : RoleTenancy st.db) :
    RoleTenancy ((machine cr .superuser).exec o c st).2.db ↔ ¬crossesTenants c st.db o := by
  cases o with
  | sql s => exact roleTenancy_run ho hinv hdb
  | redis r => simp [crossesTenants, hdb]
  | sys s => simp [crossesTenants, hdb]

/-- No label of a run is the insertion above in a state where it does harm. -/
def keepsTenants (w : World) : Act → Prop
  | .step i c => ∀ o, w.pending i = some o → ¬crossesTenants c w.state.db o
  | _ => True

/-- In every run of the service from a migrated database, role assignments stay
within tenants exactly as long as bootstrap_demo meets no `viewer` role of a
tenant other than the default one. -/
theorem always_roleTenancy_iff (cr : Crates) (redis : Redis) (ls : List Act) :
    Pool.Always (machine cr .superuser) (Call.body cr) (fun w => RoleTenancy w.state.db)
      (Pool.init ⟨migrated, redis⟩) ls ↔
    Pool.Each (machine cr .superuser) (Call.body cr) keepsTenants
      (Pool.init ⟨migrated, redis⟩) ls := by
  refine Pool.always_iff_each (J := fun w => Pool.Emitting Issued w ∧ RoleInv w.state.db)
    ?_ ?_ ⟨Pool.emitting_init _, roleInv_migrated⟩ roleTenancy_migrated
  · rintro w l ⟨hE, hJ⟩
    refine ⟨Pool.emitting_next (issued_body cr) l hE, ?_⟩
    rcases Pool.state_next (machine cr .superuser) (Call.body cr) w l with
      h | ⟨i, c, o, -, hp, h⟩ | ⟨e, -, h⟩
    · rw [h]
      exact hJ
    · rw [h]
      exact roleInv_step (hE.pending hp ((machine cr .superuser).exec o c w.state).1) hJ
    · rw [h]
      exact hJ
  · rintro w l ⟨hE, hJ⟩ hI
    rcases Pool.next_cases (machine cr .superuser) (Call.body cr) w l with
      ⟨k, rfl, h⟩ | ⟨i, c, k, o, f, rfl, ht, h⟩ | ⟨i, c, rfl, hp, h⟩ | ⟨e, rfl, h⟩
    · simp [h, keepsTenants, hI]
    · have hp : w.pending i = some o := Pool.pending_eq_some.2 ⟨k, f, ht⟩
      simp only [h, keepsTenants, hp, Option.some.injEq, forall_eq']
      exact roleTenancy_step (hE.pending hp ((machine cr .superuser).exec o c w.state).1) hJ hI
    · simp [h, keepsTenants, hp, hI]
    · simp [h, keepsTenants, hI]

/-- A start with an admin, the admin's new tenant `B`, its role `viewer`, and a
start with a demo account. -/
def viewerEscape : List Act :=
  let step := fun n : Nat => Sample.choice 0 (BitVec.ofNat 128 n) ""
  let b : Uuid := 20
  let md := Sample.metadata 10 b "tenant:write,role:write"
  Sample.alone 0 (.start ⟨"admin@iam.local", "pw", "console", "secret", "", "", ""⟩)
    [step 0, step 0, step 10, step 0, step 0] ++
  Sample.alone 1 (.rpc Sample.svc md (.createTenant ⟨"b", "B"⟩)) [step 20] ++
  Sample.alone 2 (.rpc Sample.svc md (.createRole ⟨"viewer", "our viewers"⟩)) [step 0] ++
  Sample.alone 3 (.start ⟨"", "", "console", "secret", "", "demo@iam.local", "demo1234"⟩)
    [step 0, step 0, step 0, step 30]

/-- The demo account ends up with the role of tenant `B` in the default tenant. -/
theorem viewerEscape_crosses : ¬RoleTenancy
    (Pool.run (machine Sample.crates .superuser) (Call.body Sample.crates)
      (Pool.init ⟨migrated, []⟩) viewerEscape).state.db := by
  decide

end IamAuth
