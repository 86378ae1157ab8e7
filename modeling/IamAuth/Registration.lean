import IamAuth.RoleTenancy

/-!
# Registrations

register inserts the user, its role and its outbox row in one transaction, and the
membership in a statement of its own whose failure it ignores. What a log of
registrations has recorded is read off the tables.
-/

set_option autoImplicit false

namespace IamAuth

open Interleave Relational

/-! ## The calls -/

def Call.isRegister : Call → Bool
  | .rpc _ _ (.register _) => true
  | _ => false

abbrev RegisterCall := {k : Call // k.isRegister = true}

def RegisterCall.body (cr : Crates) (k : RegisterCall) : Handler Response := k.1.body cr

abbrev RegisterWorld := Pool RegisterCall Resp Failure Response State

abbrev RegisterAct := Label RegisterCall Choice Outage

/-- The id that a registration draws. -/
def draw : Event Resp → Option Uuid
  | ⟨.sys .newUuid, id⟩ => some id
  | _ => none

/-- The user that a committed transaction has created. -/
def creation : Event Resp → Option (Uuid × String)
  | ⟨.sql (.createUserWithRoleEvent id email ..), .ok _⟩ => some (id, email)
  | _ => none

/-- The user whose membership has been written, or not. -/
def enrolment : Event Resp → Option Uuid
  | ⟨.sql (.createMembership id _), _⟩ => some id
  | _ => none

/-- What the history `h` of call `k` says when it issues a statement. -/
def RegisterRule (k : Call) (h : List (Event Resp)) : Op → Prop
  | .sql (.createUserWithRoleEvent id email _ role eventType _) =>
    id ∈ h.filterMap draw ∧ (∃ svc md req, k = .rpc svc md (.register req) ∧
      email = req.email) ∧ role = defaultRole ∧ eventType = typeUserRegistered
  | .sql (.createMembership id tenant) =>
    id ∈ h.filterMap draw ∧ tenant = defaultTenantId ∧
      ∃ email, (id, email) ∈ h.filterMap creation
  | .sql (.insertAudit ..) => True
  | .sys _ => True
  | _ => False

/-- What a registration that has ended has done. -/
def RegisterPost (cr : Crates) (k : Call) (h : List (Event Resp)) :
    Except Failure Response → Prop
  | .ok r => ∃ svc md req id, k = .rpc svc md (.register req) ∧
      r = .registered ⟨cr.formatUuid id, req.email⟩ ∧
      (id, req.email) ∈ h.filterMap creation ∧ id ∈ h.filterMap enrolment
  | .error _ => h.filterMap creation = []

def registerMonitor (k : Call) : Monitor Resp (List (Event Resp)) :=
  .history fun h e => RegisterRule k h e.1

@[simp] theorem registerMonitor_upd (k : Call) (h : List (Event Resp)) (e : Event Resp) :
    (registerMonitor k).upd h e = h ++ [e] := rfl

@[simp] theorem registerMonitor_ok (k : Call) (h : List (Event Resp)) (e : Event Resp) :
    (registerMonitor k).ok h e = RegisterRule k h e.1 := rfl

theorem along_register (cr : Crates) (svc : AuthSvc) (md : MetadataMap) (req : RegisterRequest) :
    (Call.body cr (.rpc svc md (.register req))).Along
      (registerMonitor (.rpc svc md (.register req)))
      (fun h r => RegisterPost cr (.rpc svc md (.register req)) h r) [] := by
  simp [-List.mem_filterMap, Call.body, Rpc.handle, register, RegisterRule, RegisterPost]
  intro _ _ _
  refine ⟨fun _ => rfl, ?_⟩
  intro _ _ id
  have hone : ∀ {α : Type} (a : α), a ∈ [a] := fun a => List.mem_singleton_self a
  refine ⟨fun _ => ⟨hone id, fun _ => ⟨⟨hone id, req.email, hone _⟩, fun _ _ => ?_, fun _ => ?_⟩⟩, ?_⟩
  · exact ⟨id, rfl, hone _, hone _⟩
  · exact ⟨id, rfl, hone _, hone _⟩
  · exact fun _ => ⟨hone id, rfl, rfl, rfl⟩

theorem along_registerBody (cr : Crates) (k : RegisterCall) :
    (k.body cr).Along (registerMonitor k.1) (RegisterPost cr k.1) [] := by
  obtain ⟨k, hk⟩ := k
  cases k with
  | rpc svc md r =>
    cases r <;> try exact (Bool.false_ne_true hk).elim
    case register req => exact along_register cr svc md req
  | start env => cases hk
  | profileCreationFailed userId reason => cases hk

/-! ## What a new user needs and leaves -/

/-- The migrations seed the template of the role and the default tenant. -/
structure Seeded (role : String) (db : Db) : Prop where
  role : ∃ r ∈ db.roles, r.name = role ∧ r.tenantId = none
  home : db.tenants.any (fun t => t.id == defaultTenantId) = true

/-- The user holds the built-in role in the default tenant. -/
def HoldsBuiltin (u : Uuid) (role : String) (db : Db) : Prop :=
  ∃ r ∈ db.roles, r.name = role ∧ r.tenantId = none ∧ ⟨u, r.id, defaultTenantId, none⟩ ∈ db.userRoles

section Seeded

variable {role : String} {conn : DbRole} {c : Choice} {s : Sql} {db db' : Db} {r : Reply s}

theorem Seeded.of_frame {ts : List Table} (h : Seeded role db) (hframe : Frame ts db db')
    (hroles : .roles ∉ ts) (htenants : .tenants ∉ ts) : Seeded role db' where
  role := by rw [hframe.roles hroles]; exact h.role
  home := by rw [hframe.tenants htenants]; exact h.home

/-- No statement touches a template, and none deletes a tenant. -/
theorem seeded_exec (h : s.exec conn c db = .ok (r, db')) (hdb : Seeded role db) :
    Seeded role db' := by
  obtain ⟨row, hrow, hname, htemplate⟩ := hdb.role
  by_cases hw : .roles ∈ s.writes ∨ .tenants ∈ s.writes
  · cases s <;> simp only [Sql.writes, List.mem_cons, List.not_mem_nil, reduceCtorEq, or_self,
      or_false, false_or] at hw
    case createTenantWithAdmin slug name creator =>
      obtain ⟨db₁, db₂, -, htenant, hmember, hroles⟩ := createTenantWithAdmin_ok h
      have hframe : Frame [.memberships, .userRoles] db₁ db' :=
        ((frame_createMembership hmember).mono (by simp)).trans
          ((frame_insertUserRoles hroles).mono (by simp))
      refine Seeded.of_frame ?_ hframe (by simp) (by simp)
      unfold Repo.insertTenant at htenant
      split at htenant
      · cases htenant
      · cases htenant
        exact ⟨hdb.role, by simp [hdb.home]⟩
    case createRole name description tenant =>
      simp only [Sql.exec, Repo.createRole] at h
      repeat' split at h
      all_goals cases h
      exact ⟨⟨row, by simp [hrow], hname, htemplate⟩, hdb.home⟩
    case updateRole name description tenant =>
      cases h
      refine ⟨⟨row, mem_updateWhere.2 ⟨row, hrow, ?_⟩, hname, htemplate⟩, hdb.home⟩
      simp [Repo.ownRole, htemplate]
    case deleteRole name tenant =>
      cases h
      refine ⟨⟨row, mem_deleteWhere.2 ⟨hrow, ?_⟩, hname, htemplate⟩, hdb.home⟩
      simp [Repo.ownRole, htemplate]
  · push Not at hw
    exact hdb.of_frame (Sql.exec_frame h) hw.1 hw.2

theorem holdsBuiltin_insert {u : Uuid} (hseed : Seeded role db) (hnone : ∀ ur ∈ db.userRoles, ur.userId ≠ u)
    (h : Repo.insertUserRoles (tenantGucTx conn defaultTenantId) u defaultTenantId none
      (Repo.rolesNamed (tenantGucTx conn defaultTenantId) role db) db = .ok db') :
    HoldsBuiltin u role db' := by
  obtain ⟨row, hrow, hname, htemplate⟩ := hseed.role
  have hmem : row.id ∈ Repo.rolesNamed (tenantGucTx conn defaultTenantId) role db :=
    mem_rolesNamed.2 ⟨row, hrow, hname, by simp [htemplate], rfl⟩
  obtain ⟨ur, hur, hkey⟩ := assigned_insertUserRoles h hmem
  refine ⟨row, by rwa [(frame_insertUserRoles h).roles (by simp)], hname, htemplate, ?_⟩
  rcases mem_insertUserRoles h hur with hold | ⟨id, -, rfl⟩
  · -- No older row is one of this user.
    exact absurd (congrArg Prod.fst hkey) (hnone ur hold)
  · obtain rfl : id = row.id := congrArg (fun k => k.2.1) hkey
    exact hur

end Seeded

theorem seeded_run (cr : Crates) (conn : DbRole) (redis : Redis) {role : String}
    (hrole : role = "admin" ∨ role = "user" ∨ role = "viewer") (ls : List Act) :
    Seeded role (runFrom cr conn ⟨migrated, redis⟩ ls).state.db := by
  refine db_run cr conn seeded_exec (show Seeded role migrated from ⟨?_, rfl⟩) ls
  rcases hrole with rfl | rfl | rfl
  · exact ⟨adminTemplate, by simp [migrated], rfl, rfl⟩
  · exact ⟨userTemplate, by simp [migrated], rfl, rfl⟩
  · exact ⟨viewerTemplate, by simp [migrated], rfl, rfl⟩

/-! ## What a log of registrations has recorded -/

def registeredFor (id : Uuid) (o : OutboxRecord) : Bool :=
  o.aggregateId == id && o.eventType == typeUserRegistered

/-- No row of a new user mentions the id. -/
structure NoTrace (id : Uuid) (db : Db) : Prop where
  users : ∀ u ∈ db.users, u.id ≠ id
  userRoles : ∀ ur ∈ db.userRoles, ur.userId ≠ id
  memberships : ∀ m ∈ db.memberships, m.userId ≠ id
  outbox : ∀ o ∈ db.outbox, o.aggregateId ≠ id

/-- The rows of the transaction. -/
structure Created (id : Uuid) (email : String) (db : Db) : Prop where
  user : ∃ u ∈ db.users, u.id = id ∧ u.email = email
  role : HoldsBuiltin id defaultRole db
  event : ∃ o, db.outbox.filter (registeredFor id) = [o]

/-- A complete registration. -/
structure Enrolled (id : Uuid) (email : String) (db : Db) : Prop extends Created id email db where
  member : ⟨id, defaultTenantId, "active"⟩ ∈ db.memberships

/-- Every id drawn is new to the start, and drawn once. -/
structure Drawn (db₀ : Db) (log : List (Nat × Event Resp)) : Prop where
  fresh : ∀ d ∈ Pool.labelled draw log, NoTrace d.2 db₀
  once : ((Pool.labelled draw log).map (·.2)).Nodup

/-- What the log `log`, which started from `db₀`, says about the tables. -/
structure Recorded (db₀ : Db) (log : List (Nat × Event Resp)) (db : Db) : Prop where
  seeded : Seeded defaultRole db
  created : ∀ p ∈ Pool.labelled creation log, Created p.2.1 p.2.2 db
  emails : ((Pool.labelled creation log).map (·.2.2)).Nodup
  absent : ∀ id, NoTrace id db₀ → (∀ p ∈ Pool.labelled creation log, p.2.1 ≠ id) → NoTrace id db
  active : ∀ m ∈ db.memberships, m ∈ db₀.memberships ∨ m.status = "active"
  enrolled : ∀ p ∈ Pool.labelled enrolment log,
    ⟨p.2, defaultTenantId, "active"⟩ ∈ db.memberships

section Recorded

variable {db₀ db db' : Db} {log : List (Nat × Event Resp)} {i : Nat} {e : Event Resp} {id : Uuid}
  {email : String} {conn : DbRole} {c : Choice}

theorem NoTrace.of_frame {ts : List Table} (h : NoTrace id db) (hframe : Frame ts db db')
    (husers : .users ∉ ts) (hroles : .userRoles ∉ ts) (hmembers : .memberships ∉ ts)
    (houtbox : .outbox ∉ ts) : NoTrace id db' where
  users := by rw [hframe.users husers]; exact h.users
  userRoles := by rw [hframe.userRoles hroles]; exact h.userRoles
  memberships := by rw [hframe.memberships hmembers]; exact h.memberships
  outbox := by rw [hframe.outbox houtbox]; exact h.outbox

theorem HoldsBuiltin.mono {u : Uuid} {role : String} (h : HoldsBuiltin u role db)
    (hroles : db'.roles = db.roles) (hsub : db.userRoles ⊆ db'.userRoles) : HoldsBuiltin u role db' := by
  obtain ⟨r, hr, hname, htemplate, hmem⟩ := h
  exact ⟨r, by rwa [hroles], hname, htemplate, hsub hmem⟩

theorem Created.of_frame {ts : List Table} (h : Created id email db) (hframe : Frame ts db db')
    (husers : .users ∉ ts) (hroles : .roles ∉ ts) (huserRoles : .userRoles ∉ ts)
    (houtbox : .outbox ∉ ts) : Created id email db' where
  user := by rw [hframe.users husers]; exact h.user
  role := h.role.mono (hframe.roles hroles) (by rw [hframe.userRoles huserRoles]; exact List.Subset.refl _)
  event := by rw [hframe.outbox houtbox]; exact h.event

theorem Drawn.quiet (h : Drawn db₀ log) (hdraw : draw e = none) : Drawn db₀ (log ++ [(i, e)]) := by
  have hsame : Pool.labelled draw (log ++ [(i, e)]) = Pool.labelled draw log := by
    simp [Pool.labelled_snoc, hdraw]
  exact ⟨hsame ▸ h.fresh, hsame ▸ h.once⟩

theorem Drawn.snoc (h : Drawn db₀ log) (hdraw : draw e = some id) (hfresh : NoTrace id db₀)
    (hunused : ∀ d ∈ Pool.labelled draw log, d.2 ≠ id) : Drawn db₀ (log ++ [(i, e)]) := by
  have hsnoc : Pool.labelled draw (log ++ [(i, e)]) = Pool.labelled draw log ++ [(i, id)] := by
    simp [Pool.labelled_snoc, hdraw]
  constructor
  · rw [hsnoc]
    intro d hd
    rcases List.mem_append.mp hd with hd | hd
    · exact h.fresh d hd
    · obtain rfl := List.mem_singleton.mp hd
      exact hfresh
  · rw [hsnoc, List.map_append]
    refine List.nodup_append.mpr ⟨h.once, List.nodup_singleton _, ?_⟩
    intro a ha b hb
    obtain ⟨d, hd, rfl⟩ := List.mem_map.mp ha
    obtain rfl := List.mem_singleton.mp hb
    exact hunused d hd

/-- An audit event changes none of these tables. -/
theorem Recorded.of_frame (h : Recorded db₀ log db) (hframe : Frame [.auditEvents] db db') :
    Recorded db₀ log db' where
  seeded := h.seeded.of_frame hframe (by simp) (by simp)
  created p hp := (h.created p hp).of_frame hframe (by simp) (by simp) (by simp) (by simp)
  emails := h.emails
  absent id hid hnone :=
    (h.absent id hid hnone).of_frame hframe (by simp) (by simp) (by simp) (by simp)
  active := by rw [hframe.memberships (by simp)]; exact h.active
  enrolled := by rw [hframe.memberships (by simp)]; exact h.enrolled

/-- An event that is neither of the two writes says nothing new. -/
theorem Recorded.quiet (h : Recorded db₀ log db) (hcreation : creation e = none)
    (henrolment : enrolment e = none) : Recorded db₀ (log ++ [(i, e)]) db := by
  have hc : Pool.labelled creation (log ++ [(i, e)]) = Pool.labelled creation log := by
    simp [Pool.labelled_snoc, hcreation]
  have he : Pool.labelled enrolment (log ++ [(i, e)]) = Pool.labelled enrolment log := by
    simp [Pool.labelled_snoc, henrolment]
  refine ⟨h.seeded, ?_, ?_, ?_, h.active, ?_⟩
  · rw [hc]
    exact h.created
  · rw [hc]
    exact h.emails
  · rw [hc]
    exact h.absent
  · rw [he]
    exact h.enrolled

/-- A user and its roles, next to what was there before. -/
structure NewUserRows (id : Uuid) (email role : String) (db db' : Db) : Prop where
  newUser : ∀ u ∈ db.users, u.id ≠ id ∧ u.email ≠ email
  user : ∃ row, row.id = id ∧ row.email = email ∧ db'.users = db.users ++ [row]
  roles : ∃ new, db'.userRoles = db.userRoles ++ new ∧ ∀ ur ∈ new, ur.userId = id
  frame : Frame [.users, .userRoles] db db'
  builtin : Seeded role db → (∀ ur ∈ db.userRoles, ur.userId ≠ id) → HoldsBuiltin id role db'

theorem newUserRows {hash role : String} {db₁ : Db} (hinsert : Repo.insertUser id email hash db = .ok db₁)
    (hroles : Repo.insertUserRoles (tenantGucTx conn defaultTenantId) id defaultTenantId none
      (Repo.rolesNamed (tenantGucTx conn defaultTenantId) role db₁) db₁ = .ok db') :
    NewUserRows id email role db db' := by
  have hframe₁ := frame_insertUser hinsert
  have hframe₂ := frame_insertUserRoles hroles
  obtain ⟨new, hnew, hall⟩ := insertUserRoles_rows hroles
  have hnewRoles : ∀ ur ∈ new, ur.userId = id := by
    intro ur hur
    obtain ⟨⟨r, -, rfl⟩, -⟩ := hall ur hur
    rfl
  have husers : (∀ u ∈ db.users, u.id ≠ id ∧ u.email ≠ email) ∧
      ∃ row : UserRow, row.id = id ∧ row.email = email ∧ db₁.users = db.users ++ [row] := by
    unfold Repo.insertUser at hinsert
    split at hinsert
    · cases hinsert
    · next hno =>
      cases hinsert
      refine ⟨fun u hu => ?_, _, rfl, rfl, rfl⟩
      have hany := fun hany => hno (List.any_eq_true.mpr ⟨u, hu, hany⟩)
      simp only [Bool.or_eq_true, beq_iff_eq] at hany
      exact ⟨fun hid => hany (.inl hid), fun hemail => hany (.inr hemail)⟩
  refine ⟨husers.1, ?_, ⟨new, ?_, hnewRoles⟩, ?_, fun hseed hnone => ?_⟩
  · rw [hframe₂.users (by simp)]
    exact husers.2
  · rw [hnew, hframe₁.userRoles (by simp)]
  · exact (hframe₁.mono (by simp)).trans (hframe₂.mono (by simp))
  · have hseed₁ : Seeded role db₁ := hseed.of_frame hframe₁ (by simp) (by simp)
    apply holdsBuiltin_insert hseed₁ _ hroles
    rw [hframe₁.userRoles (by simp)]
    exact hnone

/-- The rows of the transaction of register. -/
structure CreatedRows (id : Uuid) (email : String) (db db' : Db) : Prop where
  newUser : ∀ u ∈ db.users, u.id ≠ id ∧ u.email ≠ email
  user : ∃ row, row.id = id ∧ row.email = email ∧ db'.users = db.users ++ [row]
  roles : ∃ new, db'.userRoles = db.userRoles ++ new ∧ ∀ ur ∈ new, ur.userId = id
  event : ∃ o, registeredFor id o = true ∧ o.aggregateId = id ∧ db'.outbox = db.outbox ++ [o]
  frame : Frame [.users, .userRoles, .outbox] db db'
  builtin : Seeded defaultRole db → (∀ ur ∈ db.userRoles, ur.userId ≠ id) →
    HoldsBuiltin id defaultRole db'

theorem createdRows {hash : String} {payload : EventPayload} {u : Unit}
    (h : Repo.createUserWithRoleEvent conn c id email hash defaultRole typeUserRegistered payload db =
      .ok (u, db')) : CreatedRows id email db db' := by
  obtain ⟨db₁, db₂, hinsert, hroles, houtbox⟩ := createUserWithRoleEvent_ok h
  have hrows := newUserRows hinsert hroles
  have hframe := frame_insertOutbox houtbox
  have hevents : ∃ o : OutboxRecord, registeredFor id o = true ∧ o.aggregateId = id ∧
      db'.outbox = db₂.outbox ++ [o] := by
    unfold Repo.insertOutbox at houtbox
    split at houtbox
    · cases houtbox
    · cases houtbox
      exact ⟨_, by simp [registeredFor], rfl, rfl⟩
  refine ⟨hrows.newUser, ?_, ?_, ?_, ?_, fun hseed hnone => ?_⟩
  · rw [hframe.users (by simp)]
    exact hrows.user
  · rw [hframe.userRoles (by simp)]
    exact hrows.roles
  · rw [← hrows.frame.outbox (by simp)]
    exact hevents
  · exact (hrows.frame.mono (by simp)).trans (hframe.mono (by simp))
  · refine (hrows.builtin hseed hnone).mono (hframe.roles (by simp)) ?_
    rw [hframe.userRoles (by simp)]
    exact List.Subset.refl _

/-- The transaction completes the rows of its own id. -/
theorem CreatedRows.created (h : CreatedRows id email db db') (hseed : Seeded defaultRole db)
    (hnone : NoTrace id db) : Created id email db' where
  user := by
    obtain ⟨row, hid, hemail, husers⟩ := h.user
    exact ⟨row, by simp [husers], hid, hemail⟩
  role := h.builtin hseed hnone.userRoles
  event := by
    obtain ⟨o, ho, -, houtbox⟩ := h.event
    refine ⟨o, ?_⟩
    have hold : db.outbox.filter (registeredFor id) = [] := by
      apply List.filter_eq_nil_iff.mpr
      intro x hx
      simp [registeredFor, hnone.outbox x hx]
    rw [houtbox, List.filter_append, hold]
    simp [ho]

/-- It leaves those of every other id as they are. -/
theorem CreatedRows.keeps {id' : Uuid} {email' : String} (h : CreatedRows id email db db')
    (hold : Created id' email' db) : Created id' email' db' where
  user := by
    obtain ⟨u, hu, hid, hemail⟩ := hold.user
    obtain ⟨row, -, -, husers⟩ := h.user
    exact ⟨u, by simp [husers, hu], hid, hemail⟩
  role := by
    obtain ⟨new, hroles, -⟩ := h.roles
    apply hold.role.mono (h.frame.roles (by simp))
    rw [hroles]
    exact List.subset_append_left _ _
  event := by
    obtain ⟨u, hu, hid, -⟩ := hold.user
    obtain ⟨o, ho⟩ := hold.event
    obtain ⟨o', -, haggregate, houtbox⟩ := h.event
    have hne : o'.aggregateId ≠ id' := by
      rw [haggregate, ← hid]
      exact (h.newUser u hu).1.symm
    exact ⟨o, by simp [houtbox, List.filter_append, ho, registeredFor, hne]⟩

theorem CreatedRows.noTrace {id' : Uuid} (h : CreatedRows id email db db') (hne : id' ≠ id)
    (hold : NoTrace id' db) : NoTrace id' db' where
  users := by
    obtain ⟨row, hid, -, husers⟩ := h.user
    intro u hu
    rw [husers] at hu
    rcases List.mem_append.mp hu with hu | hu
    · exact hold.users u hu
    · obtain rfl := List.mem_singleton.mp hu
      exact fun h => hne (h.symm.trans hid)
  userRoles := by
    obtain ⟨new, hroles, hnew⟩ := h.roles
    intro ur hur
    rw [hroles] at hur
    rcases List.mem_append.mp hur with hur | hur
    · exact hold.userRoles ur hur
    · exact fun h => hne (h.symm.trans (hnew ur hur))
  memberships := by
    rw [h.frame.memberships (by simp)]
    exact hold.memberships
  outbox := by
    obtain ⟨o', -, haggregate, houtbox⟩ := h.event
    intro o ho
    rw [houtbox] at ho
    rcases List.mem_append.mp ho with ho | ho
    · exact hold.outbox o ho
    · obtain rfl := List.mem_singleton.mp ho
      exact fun h => hne (h.symm.trans haggregate)

/-- A committed transaction of a drawn id. -/
theorem Recorded.create (h : Recorded db₀ log db) (hfresh : NoTrace id db₀)
    (hcreation : creation e = some (id, email)) (henrolment : enrolment e = none)
    (hrows : CreatedRows id email db db') : Recorded db₀ (log ++ [(i, e)]) db' := by
  have hc : Pool.labelled creation (log ++ [(i, e)]) =
      Pool.labelled creation log ++ [(i, id, email)] := by
    simp [Pool.labelled_snoc, hcreation]
  have he : Pool.labelled enrolment (log ++ [(i, e)]) = Pool.labelled enrolment log := by
    simp [Pool.labelled_snoc, henrolment]
  have hnew : ∀ p ∈ Pool.labelled creation log, p.2.1 ≠ id ∧ p.2.2 ≠ email := by
    intro p hp
    obtain ⟨u, hu, hid, hemail⟩ := (h.created p hp).user
    rw [← hid, ← hemail]
    exact hrows.newUser u hu
  refine ⟨h.seeded.of_frame hrows.frame (by simp) (by simp), ?_, ?_, ?_, ?_, ?_⟩
  · rw [hc]
    intro p hp
    rcases List.mem_append.mp hp with hp | hp
    · exact hrows.keeps (h.created p hp)
    · obtain rfl := List.mem_singleton.mp hp
      exact hrows.created h.seeded (h.absent id hfresh fun p hp => (hnew p hp).1)
  · rw [hc, List.map_append]
    refine List.nodup_append.mpr ⟨h.emails, List.nodup_singleton _, ?_⟩
    intro a ha b hb
    obtain ⟨p, hp, rfl⟩ := List.mem_map.mp ha
    obtain rfl := List.mem_singleton.mp hb
    exact (hnew p hp).2
  · rw [hc]
    intro id' hid' hnone
    refine hrows.noTrace (fun h => ?_) (h.absent id' hid' fun p hp => hnone p (by simp [hp]))
    exact hnone (i, id, email) (by simp) h.symm
  · rw [hrows.frame.memberships (by simp)]
    exact h.active
  · rw [he, hrows.frame.memberships (by simp)]
    exact h.enrolled

/-- The membership of an existing user cannot be refused. -/
theorem createMembership_of_user (huser : ∃ u ∈ db.users, u.id = id)
    (hhome : db.tenants.any (fun t => t.id == defaultTenantId) = true) :
    (Repo.createMembership id defaultTenantId db = .ok ((), db) ∧
      ∃ m ∈ db.memberships, m.userId = id ∧ m.tenantId = defaultTenantId) ∨
    Repo.createMembership id defaultTenantId db = .ok ((), { db with
      memberships := db.memberships ++ [⟨id, defaultTenantId, "active"⟩] }) := by
  unfold Repo.createMembership
  split
  · next hany =>
    obtain ⟨m, hm, hkey⟩ := List.any_eq_true.mp hany
    obtain ⟨hmu, hmt⟩ := Prod.mk.inj (eq_of_beq hkey)
    exact .inl ⟨rfl, m, hm, hmu, hmt⟩
  · right
    obtain ⟨u, hu, hid⟩ := huser
    have hexists : db.users.any (fun u => u.id == id) = true :=
      List.any_eq_true.mpr ⟨u, hu, beq_iff_eq.mpr hid⟩
    rw [hexists, hhome, if_neg (by simp)]

/-- The membership of a user created before. -/
theorem Recorded.enrol (h : Recorded db₀ log db) (hfresh : NoTrace id db₀)
    (hcreated : ∃ p ∈ Pool.labelled creation log, p.2.1 = id) (hcreation : creation e = none)
    (henrolment : enrolment e = some id) :
    ∃ db', Repo.createMembership id defaultTenantId db = .ok ((), db') ∧
      Recorded db₀ (log ++ [(i, e)]) db' := by
  obtain ⟨p, hp, rfl⟩ := hcreated
  obtain ⟨u, hu, hid, -⟩ := (h.created p hp).user
  have hc : Pool.labelled creation (log ++ [(i, e)]) = Pool.labelled creation log := by
    simp [Pool.labelled_snoc, hcreation]
  have he : Pool.labelled enrolment (log ++ [(i, e)]) =
      Pool.labelled enrolment log ++ [(i, p.2.1)] := by
    simp [Pool.labelled_snoc, henrolment]
  have hlast : ∀ db' : Db, (∀ q ∈ Pool.labelled enrolment log,
      ⟨q.2, defaultTenantId, "active"⟩ ∈ db'.memberships) →
      ⟨p.2.1, defaultTenantId, "active"⟩ ∈ db'.memberships →
      ∀ q ∈ Pool.labelled enrolment (log ++ [(i, e)]),
        ⟨q.2, defaultTenantId, "active"⟩ ∈ db'.memberships := by
    intro db' hold hnew q hq
    rw [he] at hq
    rcases List.mem_append.mp hq with hq | hq
    · exact hold q hq
    · obtain rfl := List.mem_singleton.mp hq
      exact hnew
  rcases createMembership_of_user ⟨u, hu, hid⟩ h.seeded.home with ⟨hrun, m, hm, huser, htenant⟩ | hrun
  · -- A row that the start had would be a trace of the id.
    have hactive : m.status = "active" := by
      rcases h.active m hm with hold | hactive
      · exact absurd huser (hfresh.memberships m hold)
      · exact hactive
    have hrow : m = ⟨p.2.1, defaultTenantId, "active"⟩ := by
      rw [← huser, ← htenant, ← hactive]
    refine ⟨db, hrun, h.seeded, ?_, ?_, ?_, h.active, hlast db h.enrolled (hrow ▸ hm)⟩
    · rw [hc]
      exact h.created
    · rw [hc]
      exact h.emails
    · rw [hc]
      exact h.absent
  · have hframe := frame_memberships db (db.memberships ++ [⟨p.2.1, defaultTenantId, "active"⟩])
    refine ⟨_, hrun, h.seeded.of_frame hframe (by simp) (by simp), ?_, ?_, ?_, ?_, ?_⟩
    · rw [hc]
      intro q hq
      exact (h.created q hq).of_frame hframe (by simp) (by simp) (by simp) (by simp)
    · rw [hc]
      exact h.emails
    · rw [hc]
      intro id' hid' hnone
      have hold := h.absent id' hid' hnone
      refine ⟨hold.users, hold.userRoles, ?_, hold.outbox⟩
      intro m hm
      rcases List.mem_append.mp hm with hm | hm
      · exact hold.memberships m hm
      · obtain rfl := List.mem_singleton.mp hm
        exact hnone p hp
    · intro m hm
      rcases List.mem_append.mp hm with hm | hm
      · exact h.active m hm
      · obtain rfl := List.mem_singleton.mp hm
        exact .inr rfl
    · refine hlast _ (fun q hq => ?_) (by simp)
      exact List.mem_append_left _ (h.enrolled q hq)

end Recorded

/-! ## Runs -/

/-- new_v4 gives an id that the start does not mention and that no call has drawn. -/
def freshDraw (st : State) (w : RegisterWorld) : RegisterAct → Prop
  | .step i c => w.pending i = some (.sys .newUuid) →
      NoTrace c.uuid st.db ∧ ∀ d ∈ Pool.labelled draw w.log, d.2 ≠ c.uuid
  | _ => True

/-- The statement that writes a membership meets no failure of the database. -/
def membershipCommits (w : RegisterWorld) : RegisterAct → Prop
  | .step i c => ∀ u t, w.pending i = some (.sql (.createMembership u t)) → c.fails = false
  | _ => True

structure RegisterInv (cr : Crates) (st : State) (w : RegisterWorld) : Prop where
  tracks : Pool.Tracks (fun k => registerMonitor k.1) (fun k h r => RegisterPost cr k.1 h r)
    (fun _ => []) w
  drawn : Drawn st.db w.log
  recorded : Recorded st.db w.log w.state.db

variable {cr : Crates} {conn : DbRole} {st : State} {w : RegisterWorld}

theorem registerInv_init (cr : Crates) (hseed : Seeded defaultRole st.db) :
    RegisterInv cr st (Pool.init st) where
  tracks := Pool.tracks_init st
  drawn := ⟨by simp [Pool.init], by simp [Pool.init]⟩
  recorded := ⟨hseed, by simp [Pool.init], by simp [Pool.init], fun _ hid _ => hid,
    fun _ hm => .inl hm, by simp [Pool.init]⟩

theorem RegisterInv.pending (h : RegisterInv cr st w) {i : Nat} {o : Op}
    (hp : w.pending i = some o) : ∃ k, w.callOf i = some k ∧ RegisterRule k.1 (w.hist i) o := by
  obtain ⟨k, hk, hok⟩ :=
    h.tracks.pending_history hp ((machine cr .superuser).exec o (Sample.choice 0 0 "") w.state).1
  exact ⟨k, hk, hok⟩

theorem drawn_next (h : Drawn st.db w.log) (l : RegisterAct) (hfresh : freshDraw st w l) :
    Drawn st.db (Pool.next (machine cr conn) (RegisterCall.body cr) w l).log := by
  refine Pool.logged_next (R := fun log _ => Drawn st.db log) l h (fun i c o hl hp => ?_) fun _ => h
  subst hl
  cases o with
  | sql s => exact h.quiet rfl
  | redis r => exact h.quiet rfl
  | sys s =>
    cases s <;> try exact h.quiet rfl
    case newUuid =>
      obtain ⟨hnone, hunused⟩ := hfresh hp
      exact h.snoc rfl hnone hunused

theorem recorded_next (h : RegisterInv cr st w) (l : RegisterAct) (hcommits : membershipCommits w l) :
    Recorded st.db (Pool.next (machine cr conn) (RegisterCall.body cr) w l).log
      (Pool.next (machine cr conn) (RegisterCall.body cr) w l).state.db := by
  refine Pool.logged_next (R := fun log (s : State) => Recorded st.db log s.db) l h.recorded
    (fun i c o hl hp => ?_) fun e => ?_
  · subst hl
    obtain ⟨k, -, hrule⟩ := h.pending hp
    cases o with
    | redis r => exact hrule.elim
    | sys s => exact h.recorded.quiet (by cases s <;> rfl) (by cases s <;> rfl)
    | sql s =>
      rw [exec_sql_db]
      cases s <;> try exact hrule.elim
      case createUserWithRoleEvent id email hash role eventType payload =>
        obtain ⟨hdrawn, -, rfl, rfl⟩ := hrule
        have hfresh := h.drawn.fresh _ (Pool.mem_labelled.2 hdrawn)
        rcases Sql.run_cases conn (.createUserWithRoleEvent id email hash _ _ payload) c w.state.db with
          ⟨e, he⟩ | ⟨r, db', hx, hr⟩
        · rw [exec_sql_reply, he]
          exact h.recorded.quiet rfl rfl
        · rw [exec_sql_reply, hr]
          exact h.recorded.create hfresh rfl rfl (createdRows hx)
      case createMembership id tenant =>
        obtain ⟨hdrawn, rfl, email, hcreated⟩ := hrule
        have hfresh := h.drawn.fresh _ (Pool.mem_labelled.2 hdrawn)
        obtain ⟨db', hx, hrec⟩ := h.recorded.enrol (i := i)
          (e := ⟨.sql (.createMembership id defaultTenantId), .ok ()⟩) hfresh
          ⟨_, Pool.mem_labelled.2 hcreated, rfl⟩ rfl rfl
        have hrun : Sql.run conn c (.createMembership id defaultTenantId) w.state.db = (.ok (), db') := by
          simp [Sql.run, hcommits _ _ hp, Sql.exec, hx]
        rw [exec_sql_reply, hrun]
        exact hrec
      case insertAudit actorId actorEmail action target detail tenant =>
        have hq := h.recorded.quiet (i := i) (e := ⟨.sql (.insertAudit actorId actorEmail action target
          detail tenant), ((machine cr conn).exec (.sql (.insertAudit actorId actorEmail action target
          detail tenant)) c w.state).1⟩) rfl rfl
        rcases Sql.run_cases conn (.insertAudit actorId actorEmail action target detail tenant) c
          w.state.db with ⟨e, he⟩ | ⟨r, db', hx, hr⟩
        · rw [he]
          exact hq
        · rw [hr]
          exact hq.of_frame (Sql.exec_frame hx)
  · cases e
    exact h.recorded

/-- A call that succeeded left all of its rows, one that failed none of them, and no
two succeeded with one e-mail. -/
structure CompleteOrAbsent (cr : Crates) (w : RegisterWorld) : Prop where
  complete : ∀ i r, w.result i = some (.ok r) → ∃ svc md req h id,
    w.callOf i = some ⟨.rpc svc md (.register req), h⟩ ∧ id ∈ (w.hist i).filterMap draw ∧
    r = .registered ⟨cr.formatUuid id, req.email⟩ ∧ Enrolled id req.email w.state.db
  absent : ∀ i f id, w.result i = some (.error f) → id ∈ (w.hist i).filterMap draw →
    NoTrace id w.state.db
  once : ∀ i j r r', w.result i = some (.ok (.registered r)) →
    w.result j = some (.ok (.registered r')) → r.email = r'.email → i = j

theorem RegisterInv.succeeded (h : RegisterInv cr st w) {i : Nat} {r : Response}
    (hr : w.result i = some (.ok r)) : ∃ svc md req hreq id,
      w.callOf i = some ⟨.rpc svc md (.register req), hreq⟩ ∧
      r = .registered ⟨cr.formatUuid id, req.email⟩ ∧
      (i, id, req.email) ∈ Pool.labelled creation w.log ∧ (i, id) ∈ Pool.labelled enrolment w.log := by
  obtain ⟨⟨k, hk⟩, hcall, hpost⟩ := h.tracks.result_history hr
  obtain ⟨svc, md, req, id, rfl, hresp, hcreated, henrolled⟩ := hpost
  exact ⟨svc, md, req, hk, id, hcall, hresp, Pool.mem_labelled.2 hcreated,
    Pool.mem_labelled.2 henrolled⟩

/-- A user that a log has created has the id that the call drew. -/
theorem RegisterInv.drawn_of_created (h : RegisterInv cr st w) {i : Nat} {p : Uuid × String}
    (hp : (i, p) ∈ Pool.labelled creation w.log) : (i, p.1) ∈ Pool.labelled draw w.log := by
  obtain ⟨e, he, hcreation⟩ := List.mem_filterMap.mp (Pool.mem_labelled.1 hp)
  obtain ⟨h₁, h₂, hsplit⟩ := List.append_of_mem he
  obtain ⟨k, -, hrule⟩ := h.tracks.split_history hsplit
  obtain ⟨o, r⟩ := e
  cases o with
  | redis r => cases hcreation
  | sys s => cases hcreation
  | sql s =>
    cases s <;> try cases hcreation
    case createUserWithRoleEvent id email hash role eventType payload =>
      cases r with
      | error e => cases hcreation
      | ok u =>
        cases hcreation
        apply Pool.mem_labelled.2
        rw [hsplit, List.filterMap_append]
        exact List.mem_append_left _ hrule.1

theorem RegisterInv.completeOrAbsent (h : RegisterInv cr st w) : CompleteOrAbsent cr w where
  complete i r hr := by
    obtain ⟨svc, md, req, hreq, id, hcall, hresp, hcreated, henrolled⟩ := h.succeeded hr
    have hdrawn := Pool.mem_labelled.1 (h.drawn_of_created hcreated)
    exact ⟨svc, md, req, hreq, id, hcall, hdrawn, hresp, h.recorded.created _ hcreated,
      h.recorded.enrolled _ henrolled⟩
  absent i f id hr hdrawn := by
    have hmem := Pool.mem_labelled.2 hdrawn
    obtain ⟨k, hcall, hpost⟩ := h.tracks.result_history hr
    refine h.recorded.absent id (h.drawn.fresh _ hmem) ?_
    intro p hp hid
    -- Whoever created a user with this id has drawn it, and only this call has.
    obtain ⟨j, p⟩ := p
    have hcreator := h.drawn_of_created hp
    have hsame := List.inj_on_of_nodup_map h.drawn.once hcreator hmem hid
    obtain rfl : j = i := congrArg Prod.fst hsame
    have hnone : (w.hist j).filterMap creation = [] := hpost
    have hcreated := Pool.mem_labelled.1 hp
    rw [hnone] at hcreated
    cases hcreated
  once i j r r' hr hr' hemail := by
    obtain ⟨_, _, req, _, id, -, hresp, hcreated, -⟩ := h.succeeded hr
    obtain ⟨_, _, req', _, id', -, hresp', hcreated', -⟩ := h.succeeded hr'
    cases hresp
    cases hresp'
    exact congrArg Prod.fst (List.inj_on_of_nodup_map h.recorded.emails hcreated hcreated' hemail)

theorem registerInv_next (h : RegisterInv cr st w) (l : RegisterAct) (hfresh : freshDraw st w l)
    (hcommits : membershipCommits w l) :
    RegisterInv cr st (Pool.next (machine cr conn) (RegisterCall.body cr) w l) where
  tracks := Pool.tracks_next (along_registerBody cr) l h.tracks
  drawn := drawn_next h.drawn l hfresh
  recorded := recorded_next h l hcommits

/-- In every run of registrations whose memberships are all written, every one is
complete or absent. -/
theorem registration_complete (cr : Crates) (conn : DbRole) {st : State}
    (hseed : Seeded defaultRole st.db) {ls : List RegisterAct}
    (hfresh : Pool.Each (machine cr conn) (RegisterCall.body cr) (freshDraw st) (Pool.init st) ls)
    (hcommits : Pool.Each (machine cr conn) (RegisterCall.body cr) membershipCommits
      (Pool.init st) ls) :
    Pool.Always (machine cr conn) (RegisterCall.body cr) (CompleteOrAbsent cr) (Pool.init st) ls := by
  intro pre hpre
  obtain ⟨post, rfl⟩ := hpre
  have hconditions := (Pool.each_append _ _ _ _ _ _).mp (hfresh.and hcommits)
  have hinv : RegisterInv cr st (Pool.run (machine cr conn) (RegisterCall.body cr) (Pool.init st) pre) :=
    Pool.run_inv (I := RegisterInv cr st) (fun _ l hl h => registerInv_next h l hl.1 hl.2)
      hconditions.1 (registerInv_init cr hseed)
  exact hinv.completeOrAbsent

namespace Sample

def registrant : RegisterCall := ⟨.rpc svc [] (.register ⟨"u@iam.local", "password"⟩), rfl⟩

def registered : List RegisterAct := .start registrant :: List.replicate 4 (.step 0 (choice 0 10 ""))

theorem registration_complete_registered :
    Pool.Always (machine crates .superuser) (RegisterCall.body crates) (CompleteOrAbsent crates)
      (Pool.init ⟨migrated, []⟩) registered := by
  have hseed : Seeded defaultRole (⟨migrated, []⟩ : State).db :=
    seeded_run crates .superuser [] (.inr (.inl rfl)) []
  have hnone : NoTrace 10 migrated := by
    constructor
    all_goals
      intro _ h
      cases h
  refine registration_complete crates .superuser hseed ?_ ?_
  · refine ⟨trivial, ?_, ?_, ?_, ?_, trivial⟩
    all_goals intro hp
    · cases hp
    · refine ⟨hnone, ?_⟩
      intro _ h
      cases h
    · cases hp
    · cases hp
  · exact ⟨trivial, fun _ _ _ => rfl, fun _ _ _ => rfl, fun _ _ _ => rfl, fun _ _ _ => rfl, trivial⟩

/-- The same registration, but the connection is lost at its last statement. -/
def lostMembership : List RegisterAct :=
  .start registrant :: List.replicate 3 (.step 0 (choice 0 10 "")) ++
    [.step 0 { choice 0 10 "" with fails := true }]

/-- It succeeds, and the user is a member of nothing. -/
theorem lostMembership_incomplete :
    let w := Pool.run (machine crates .superuser) (RegisterCall.body crates)
      (Pool.init ⟨migrated, []⟩) lostMembership
    w.result 0 = some (.ok (.registered ⟨formatUuid 10, "u@iam.local"⟩)) ∧
    w.state.db.memberships = [] ∧ ¬CompleteOrAbsent crates w := by
  have hresult : (Pool.run (machine crates .superuser) (RegisterCall.body crates)
      (Pool.init ⟨migrated, []⟩) lostMembership).result 0 =
        some (.ok (.registered ⟨formatUuid 10, "u@iam.local"⟩)) := by decide
  have hnone : (Pool.run (machine crates .superuser) (RegisterCall.body crates)
      (Pool.init ⟨migrated, []⟩) lostMembership).state.db.memberships = [] := by decide
  refine ⟨hresult, hnone, fun h => ?_⟩
  obtain ⟨_, _, _, _, id, -, -, -, hregistered⟩ := h.complete 0 _ hresult
  have hmember := hregistered.member
  rw [hnone] at hmember
  cases hmember

end Sample

end IamAuth
