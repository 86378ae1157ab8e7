import IamAuth.RoleTxns

/-!
# Grants and assignments at their commit

grant_permission and assign_role ignore the row count of their inserts. An insert may
select nothing, and one that finds its row there passes over it without a lock. So a call
that commits has done what it reports if its insert could select, and no other commit has
since deleted a row that it has only found.
-/

set_option autoImplicit false

namespace IamAuth

open Interleave Relational

/-- The calls that report a grant or an assignment. -/
def RoleCall.acks : RoleCall → Bool
  | .grantPermission .. => true
  | .assignRole .. => true
  | _ => false

instance (db : Db) (roleName permName : String) (tenant : Uuid) :
    Decidable (CanGrant db roleName permName tenant) :=
  inferInstanceAs (Decidable ((∃ r ∈ db.roles, _) ∧ ∃ p ∈ db.permissions, _))

instance (db : Db) (name : String) (tenant : Uuid) : Decidable (CanAssign db name tenant) :=
  inferInstanceAs (Decidable (∃ r ∈ db.roles, _))

/-- The insert of the call can select something. -/
def RoleCall.canInsert (db : Db) : RoleCall → Bool
  | .grantPermission roleName permName tenantId => decide (CanGrant db roleName permName tenantId)
  | .assignRole a roleName => decide (CanAssign db roleName a.tenant)
  | _ => true

/-- The rows that an open grant or assignment has found there and not inserted. -/
def RoleTxn.found (t : RoleTxn) : List RoleKey :=
  if t.status == .running && t.call.acks then
    (t.held.filter fun l => l.mode == .probe).map (·.row)
  else []

/-- The insert of a grant or an assignment can select something, and no commit deletes a
row that an open grant or assignment has found. -/
def KeepsFound (s : RoleStore) : RoleLabel → Bool
  | .stmt i =>
    match s.txns[i]? with
    | some t => !(t.status == .running && t.rest == [t.call.stmt]) || t.call.canInsert s.state
    | none => true
  | .commit i =>
    match s.txns[i]? with
    | some t => !(t.status == .running && t.rest.isEmpty) ||
      t.writes.all fun w => (s.txns.flatMap RoleTxn.found).all fun row => !w.removes row
    | none => true
  | _ => true

/-- The step is one of the call. -/
def RoleStore.StepOf (s : RoleStore) (l : RoleLabel) (k : RoleCall) : Prop :=
  ∃ i t, (l = .stmt i ∨ l = .commit i ∨ l = .rollback i) ∧ s.Open i t ∧ t.call = k

/-- The step is the commit of the call, after which it reports success. -/
def RoleStore.Commits (s : RoleStore) (l : RoleLabel) (k : RoleCall) : Prop :=
  ∃ i t, l = .commit i ∧ s.Open i t ∧ t.rest = [] ∧ t.call = k

/-- At its commit, what a call reports is there. -/
structure Acknowledged (conn : DbRole) (s : RoleStore) (l : RoleLabel) : Prop where
  grant : ∀ roleName permName tenant, s.Commits l (.grantPermission roleName permName tenant) →
    HoldsPermission (s.next conn l).state roleName permName tenant
  assign : ∀ a roleName, s.Commits l (.assignRole a roleName) →
    HoldsRole (s.next conn l).state a roleName

/-- A step that adds, at most, the pairs that are to be granted. -/
structure GrantsOnly (roleName permName : String) (tenant : Uuid) (db db' : Db) : Prop where
  userRoles : db'.userRoles = db.userRoles
  kept : db.rolePermissions ⊆ db'.rolePermissions
  new : ∀ rp ∈ db'.rolePermissions, rp ∈ db.rolePermissions ∨
    Granted db roleName permName tenant rp

/-- A step that adds, at most, the assignment that is to be made. -/
structure AssignsOnly (a : Scope) (roleName : String) (db db' : Db) : Prop where
  rolePermissions : db'.rolePermissions = db.rolePermissions
  kept : db.userRoles ⊆ db'.userRoles
  new : ∀ ur ∈ db'.userRoles, ur ∈ db.userRoles ∨
    ∃ r ∈ db.roles, r.name = roleName ∧ visibleIn a.tenant r ∧
      ur = ⟨a.user, r.id, a.tenant, a.project⟩

/-- No step of a grant or an assignment changes any other pair or assignment. -/
structure OnlyAsked (conn : DbRole) (s : RoleStore) (l : RoleLabel) : Prop where
  grant : ∀ roleName permName tenant, s.StepOf l (.grantPermission roleName permName tenant) →
    GrantsOnly roleName permName tenant s.state (s.next conn l).state
  assign : ∀ a roleName, s.StepOf l (.assignRole a roleName) →
    AssignsOnly a roleName s.state (s.next conn l).state

/-! ## One transaction -/

section Txn

variable {conn : DbRole} {k : RoleCall} {db : Db} {n : Nat} {ws : List RoleWrite}

/-- The row that a call reports: it has inserted it, or found it. -/
def Evident (t : RoleTxn) (db : Db) : Prop :=
  ∃ id row, t.call.Asks db id row ∧
    ((∃ w ∈ t.writes, row ∈ w.inserts) ∨ ⟨row, .probe⟩ ∈ t.held ∧ row.In db)

/-- An insert that can select something inserts a row of the call, or finds one. -/
theorem evident_exec (hack : k.acks = true) (hcan : k.canInsert db = true)
    (h : k.stmt.exec conn n db = .ok ws) : ∃ id row, k.Asks db id row ∧
      ((∃ w ∈ ws, row ∈ w.inserts) ∨ ⟨row, .probe⟩ ∈ k.stmt.rows n db ∧ row.In db) := by
  cases k with
  | grantPermission roleName permName tenantId =>
    obtain ⟨⟨r, hr, hname, htenant⟩, p, hp, hperm⟩ := of_decide_eq_true hcan
    obtain ⟨rows, rfl, hrows⟩ := exec_insertRolePermission h
    have hgranted : Granted db roleName permName tenantId ⟨r.id, p.id⟩ :=
      ⟨⟨r, hr, hname, htenant, rfl⟩, p, hp, hperm, rfl⟩
    refine ⟨r.id, .pair ⟨r.id, p.id⟩, ⟨hgranted.1, p, hp, hperm, rfl⟩, ?_⟩
    by_cases hin : (⟨r.id, p.id⟩ : RolePermission) ∈ db.rolePermissions
    · refine .inr ⟨List.mem_flatMap.mpr ⟨_, mem_grantedPairs.2 hgranted, ?_⟩, hin⟩
      simp [insertLocks, hin]
    · exact .inl ⟨_, List.mem_singleton_self _, List.mem_map_of_mem ((hrows _).2 ⟨hgranted, hin⟩)⟩
  | assignRole a roleName =>
    obtain ⟨id, hid⟩ := List.exists_mem_of_ne_nil _ (resolveRole_ne_nil (of_decide_eq_true hcan))
    obtain ⟨rows, rfl, -, hrows⟩ := exec_insertUserRole h
    obtain ⟨r, hr, rfl, hvis, hname⟩ := mem_resolveRole hid
    refine ⟨r.id, .assignment (Repo.assignmentKey ⟨a.user, r.id, a.tenant, a.project⟩),
      ⟨⟨r, hr, hname, hvis, rfl⟩, rfl⟩, ?_⟩
    by_cases hin : ∃ x ∈ db.userRoles,
        Repo.assignmentKey x = Repo.assignmentKey ⟨a.user, r.id, a.tenant, a.project⟩
    · refine .inr ⟨List.mem_flatMap.mpr ⟨r.id, hid, ?_⟩, hin⟩
      have htaken : (db.userRoles.any fun x => Repo.assignmentKey x ==
          Repo.assignmentKey ⟨a.user, r.id, a.tenant, a.project⟩) = true := by
        obtain ⟨x, hx, hkey⟩ := hin
        exact List.any_eq_true.mpr ⟨x, hx, beq_iff_eq.mpr hkey⟩
      simp [insertLocks, htaken]
    · refine .inl ⟨_, List.mem_singleton_self _, List.mem_map.mpr ⟨_, (hrows _).2 ⟨⟨r.id, hid, rfl⟩, ?_⟩, rfl⟩⟩
      intro x hx hkey
      exact hin ⟨x, hx, hkey⟩
  | _ => cases hack

/-- What a grant or an assignment has written when it comes to its commit. -/
theorem ran_acks (hack : k.acks = true) (h : (roleEngine conn).Ran n k.body ws) :
    (∃ rows, ws = [.insertRolePermissions rows]) ∨ ∃ rows, ws = [.insertUserRoles rows] := by
  obtain ⟨db', hx⟩ := ranRole_body h
  cases k with
  | grantPermission roleName permName tenantId =>
    obtain ⟨rows, rfl, -⟩ := exec_insertRolePermission hx
    exact .inl ⟨rows, rfl⟩
  | assignRole a roleName =>
    obtain ⟨rows, rfl, -⟩ := exec_insertUserRole hx
    exact .inr ⟨rows, rfl⟩
  | _ => cases hack

/-- The row is there when the call has committed. -/
theorem Evident.commit {t : RoleTxn} (h : Evident t db) (hack : t.call.acks = true)
    (hran : (roleEngine conn).Ran t.draw t.call.body t.writes) :
    ∃ id row, t.call.Asks ((roleEngine conn).view t.writes db) id row ∧
      row.In ((roleEngine conn).view t.writes db) := by
  obtain ⟨id, row, hasks, hrow⟩ := h
  have hkeep : ∀ w ∈ t.writes, ∀ row, w.removes row = false := by
    rcases ran_acks hack hran with ⟨rows, hws⟩ | ⟨rows, hws⟩
    · simp [hws, RoleWrite.removes]
    · simp [hws, RoleWrite.removes]
  refine ⟨id, row, hasks.view fun w hw => hkeep w hw _, ?_⟩
  rcases hrow with ⟨w, hw, hins⟩ | ⟨-, hin⟩
  · have hone : t.writes = [w] := by
      rcases ran_acks hack hran with ⟨rows, hws⟩ | ⟨rows, hws⟩
      · rw [hws] at hw ⊢
        rw [List.mem_singleton.mp hw]
      · rw [hws] at hw ⊢
        rw [List.mem_singleton.mp hw]
    rw [hone]
    exact in_of_inserts hins
  · exact hin.view fun w hw => hkeep w hw row

theorem holdsPermission_of_asks {roleName permName : String} {tenant : Uuid} {id : Nat} {row : RoleKey}
    (hasks : (RoleCall.grantPermission roleName permName tenant).Asks db id row) (hin : row.In db) :
    HoldsPermission db roleName permName tenant := by
  obtain ⟨hrole, p, hp, hname, rfl⟩ := hasks
  exact ⟨⟨id, p.id⟩, hin, hrole, p, hp, hname, rfl⟩

theorem holdsRole_of_asks {a : Scope} {roleName : String} {id : Nat} {row : RoleKey}
    (hasks : (RoleCall.assignRole a roleName).Asks db id row) (hin : row.In db)
    (hdb : NoNilProject db) (hproject : a.project ≠ some 0) : HoldsRole db a roleName := by
  obtain ⟨⟨r, hr, hname, hvis, rfl⟩, rfl⟩ := hasks
  obtain ⟨x, hx, hkey⟩ := hin
  simp only [Repo.assignmentKey, Prod.mk.injEq] at hkey
  obtain ⟨huser, hrole, htenant, hp⟩ := hkey
  have hxeq : x = ⟨a.user, r.id, a.tenant, a.project⟩ := by
    rw [← huser, ← hrole, ← htenant, ← project_of_key (hdb.userRoles x hx) hproject hp]
  exact ⟨r, hr, hname, hvis, hxeq ▸ hx⟩

end Txn

/-! ## Runs -/

section Run

variable {conn : DbRole} {s : RoleStore} {l : RoleLabel}

theorem onlyAsked_of_sound (h : Store.Sound (roleEngine conn) RoleCall.body NoNilProject RoleGuarded s) :
    OnlyAsked conn s l where
  grant roleName permName tenant hstep := by
    rcases Store.state_next (roleEngine conn) RoleCall.body s l with
      ⟨hstate, -⟩ | ⟨i, t, rfl, ht, hrest, hstate, -⟩
    · rw [RoleStore.next, hstate]
      exact ⟨rfl, List.Subset.refl _, fun rp hrp => .inl hrp⟩
    · obtain ⟨j, t', hl, ht', hcall⟩ := hstep
      obtain rfl : i = j := by simpa using hl
      obtain rfl : t = t' := Option.some.inj (ht.1.symm.trans ht'.1)
      have hran := h.ran ht hrest
      obtain ⟨db', hx⟩ := ranRole_body hran
      rw [hcall] at hx
      obtain ⟨rows, hws, -⟩ := exec_insertRolePermission hx
      rw [RoleStore.next, hstate, hws]
      refine ⟨rfl, fun rp hrp => List.mem_append_left _ hrp, fun rp hrp => ?_⟩
      refine (List.mem_append.mp hrp).imp_right fun hnew => ?_
      obtain ⟨id, hasks, -⟩ := (h.guard i t ht).inserts (.insertRolePermissions rows) (by simp [hws])
        (.pair rp) (List.mem_map_of_mem hnew)
      rw [hcall] at hasks
      obtain ⟨hrole, p, hp, hname, hpair⟩ := hasks
      cases hpair
      exact ⟨hrole, p, hp, hname, rfl⟩
  assign a roleName hstep := by
    rcases Store.state_next (roleEngine conn) RoleCall.body s l with
      ⟨hstate, -⟩ | ⟨i, t, rfl, ht, hrest, hstate, -⟩
    · rw [RoleStore.next, hstate]
      exact ⟨rfl, List.Subset.refl _, fun ur hur => .inl hur⟩
    · obtain ⟨j, t', hl, ht', hcall⟩ := hstep
      obtain rfl : i = j := by simpa using hl
      obtain rfl : t = t' := Option.some.inj (ht.1.symm.trans ht'.1)
      have hran := h.ran ht hrest
      obtain ⟨db', hx⟩ := ranRole_body hran
      rw [hcall] at hx
      obtain ⟨rows, hws, -, hrows⟩ := exec_insertUserRole hx
      rw [RoleStore.next, hstate, hws]
      refine ⟨rfl, fun ur hur => List.mem_append_left _ hur, fun ur hur => ?_⟩
      refine (List.mem_append.mp hur).imp_right fun hnew => ?_
      obtain ⟨id, hasks, -⟩ := (h.guard i t ht).inserts (.insertUserRoles rows) (by simp [hws])
        (.assignment (Repo.assignmentKey ur)) (List.mem_map_of_mem hnew)
      rw [hcall] at hasks
      obtain ⟨⟨r, hr, hname, hvis, rfl⟩, hkey⟩ := hasks
      obtain ⟨⟨id', -, rfl⟩, -⟩ := (hrows ur).1 hnew
      simp only [Repo.assignmentKey, RoleKey.assignment.injEq, Prod.mk.injEq, true_and, and_true] at hkey
      exact ⟨r, hr, hname, hvis, by rw [hkey]⟩

/-- Every grant and every assignment that has come to its commit still has its row. -/
structure KeptFound (conn : DbRole) (s : RoleStore) : Prop where
  sound : Store.Sound (roleEngine conn) RoleCall.body NoNilProject RoleGuarded s
  evident : ∀ i t, s.Open i t → t.rest = [] → t.call.acks = true → Evident t s.state

theorem keptFound_init {db : Db} (hdb : NoNilProject db) : KeptFound conn (Store.init db) where
  sound := Store.sound_init hdb
  evident i t ht := by cases ht.1

/-- A call that is to report comes to its commit by its insert. -/
theorem KeptFound.evident_stmt {i : Nat} {t : RoleTxn} {st : RoleStmt} {new : List RoleWrite}
    (h : KeptFound conn s) (hfits : KeepsFound s (.stmt i) = true) (ht : s.Open i t)
    (hrest : t.rest = [st]) (hack : t.call.acks = true)
    (hx : (roleEngine conn).exec st t.draw ((roleEngine conn).view t.writes s.state) = .ok new) :
    Evident { t with
      rest := []
      writes := t.writes ++ new
      held := t.held ++ (roleEngine conn).rows st t.draw ((roleEngine conn).view t.writes s.state) }
      s.state := by
  obtain ⟨before, hbody, hran⟩ := h.sound.progress i t ht
  rw [hrest] at hbody
  obtain ⟨rfl, -, -⟩ := (roleBody_split hbody).resolve_left fun hcheck => hcheck.2 rfl
  have hnone : t.writes = [] := ran_before hbody hran
  have hcan : t.call.canInsert s.state = true := by
    simpa [KeepsFound, ht.1, ht.2, hrest] using hfits
  rw [hnone, Engine.view_nil] at hx
  obtain ⟨id, row, hasks, hrow⟩ := evident_exec hack hcan hx
  refine ⟨id, row, hasks, hrow.imp ?_ ?_⟩
  · rintro ⟨w, hw, hins⟩
    exact ⟨w, List.mem_append_right _ hw, hins⟩
  · rintro ⟨hlock, hin⟩
    exact ⟨List.mem_append_right _ (by rw [hnone]; exact hlock), hin⟩

/-- The commit of another call leaves a call its row. -/
theorem KeptFound.evident_commit {i j : Nat} {t t' : RoleTxn} (h : KeptFound conn s)
    (hfits : KeepsFound s (.commit i) = true) (ht : s.Open i t) (hrest : t.rest = []) (hne : j ≠ i)
    (hopen : s.Open j t') (hrest' : t'.rest = []) (hack : t'.call.acks = true) :
    Evident t' ((roleEngine conn).view t.writes s.state) := by
  obtain ⟨id, row, hasks, hrow⟩ := h.evident j t' hopen hrest' hack
  rcases hrow with ⟨w, hw, hins⟩ | ⟨hlock, hin⟩
  · -- The role of an inserted row is locked.
    obtain ⟨id', hasks', hshare⟩ := (h.sound.guard j t' hopen).inserts w hw row hins
    have hspares := (h.sound.guard i t ht).spares hshare (h.sound.exclusive j i t' t hne hopen ht)
    exact ⟨id', row, hasks'.view hspares, .inl ⟨w, hw, hins⟩⟩
  · have hfound : row ∈ s.txns.flatMap RoleTxn.found := by
      refine List.mem_flatMap.mpr ⟨t', List.mem_of_getElem? hopen.1, ?_⟩
      simp only [RoleTxn.found, hopen.2, hack, beq_self_eq_true, Bool.and_self, if_true]
      exact List.mem_map.mpr ⟨⟨row, .probe⟩, List.mem_filter.mpr ⟨hlock, rfl⟩, rfl⟩
    have hkeep : ∀ w ∈ t.writes, w.removes row = false := by
      simp only [KeepsFound, ht.1, ht.2, hrest, beq_self_eq_true, List.isEmpty_nil, Bool.and_self,
        Bool.not_true, Bool.false_or, List.all_eq_true, Bool.not_eq_true'] at hfits
      exact fun w hw => hfits w hw row hfound
    exact ⟨id, row, hasks.view fun w hw => hasks.removes (hkeep w hw), .inr ⟨hlock, hin.view hkeep⟩⟩

theorem KeptFound.next (hfits : KeepsFound s l = true) (h : KeptFound conn s) :
    KeptFound conn (s.next conn l) := by
  refine ⟨Store.sound_next (guard_role conn) l h.sound, ?_⟩
  rcases Store.next_cases (roleEngine conn) RoleCall.body s l with ⟨k, n, -, hs⟩ |
    ⟨i, t, st, rest, new, rfl, ht, hrest, -, hx, hs⟩ | ⟨i, t, rfl, ht, hrest, hs⟩ | ⟨i, t, -, -, hs⟩ | hs
  · rw [RoleStore.next, hs]
    intro j t hj hrest hack
    rcases Store.open_start hj with rfl | hold
    · simp [RoleCall.body] at hrest
    · exact h.evident j t hold hrest hack
  · rw [RoleStore.next, hs]
    intro j t' hj hrest' hack
    rcases Store.open_set hj with ⟨-, rfl⟩ | ⟨-, hold⟩
    · obtain rfl : rest = [] := hrest'
      exact h.evident_stmt hfits ht hrest hack hx
    · exact h.evident j t' hold hrest' hack
  · rw [RoleStore.next, hs]
    intro j t' hj hrest' hack
    rcases Store.open_set (s := s) hj with ⟨-, rfl⟩ | ⟨hne, hold⟩
    · cases hj.2
    · exact h.evident_commit hfits ht hrest hne hold hrest' hack
  · rw [RoleStore.next, hs]
    intro j t' hj hrest' hack
    rcases Store.open_set hj with ⟨-, rfl⟩ | ⟨-, hold⟩
    · cases hj.2
    · exact h.evident j t' hold hrest' hack
  · rw [RoleStore.next, hs]
    exact h.evident

theorem KeptFound.acknowledged (h : KeptFound conn s) : Acknowledged conn s l where
  grant roleName permName tenant hcommit := by
    obtain ⟨i, t, rfl, ht, hrest, hcall⟩ := hcommit
    have hack : t.call.acks = true := by rw [hcall]; rfl
    obtain ⟨id, row, hasks, hin⟩ := (h.evident i t ht hrest hack).commit hack (h.sound.ran ht hrest)
    rw [hcall] at hasks
    rw [RoleStore.next, Store.state_commit ht hrest]
    exact holdsPermission_of_asks hasks hin
  assign a roleName hcommit := by
    obtain ⟨i, t, rfl, ht, hrest, hcall⟩ := hcommit
    have hack : t.call.acks = true := by rw [hcall]; rfl
    obtain ⟨id, row, hasks, hin⟩ := (h.evident i t ht hrest hack).commit hack (h.sound.ran ht hrest)
    rw [hcall] at hasks
    have hdb := (Store.sound_next (guard_role conn) (.commit i) h.sound).state
    rw [Store.state_commit ht hrest] at hdb
    rw [RoleStore.next, Store.state_commit ht hrest]
    apply holdsRole_of_asks hasks hin hdb
    intro hproject
    have hcheck := (h.sound.guard i t ht).project a roleName hcall hproject
    rw [hrest] at hcheck
    cases hcheck

/-- In every run from a database that the service can have reached (`noNilProject_run`)
no grant and no assignment changes a pair or an assignment it was not asked for; and if each insert can select something and no commit deletes a row that an
open call has found, what a call reports is there when it commits. -/
theorem acknowledged_run (conn : DbRole) {db : Db} (hdb : NoNilProject db) (ls : List RoleLabel) :
    Steps.Each (RoleStore.next conn) (OnlyAsked conn) (Store.init db) ls ∧
      (Steps.Each (RoleStore.next conn) (fun s l => KeepsFound s l = true) (Store.init db) ls →
        Steps.Each (RoleStore.next conn) (Acknowledged conn) (Store.init db) ls) := by
  constructor
  · have hsound : Store.Sound (roleEngine conn) RoleCall.body NoNilProject RoleGuarded
        (Store.init db : RoleStore) := Store.sound_init hdb
    apply Steps.each_of_inv ?_ ?_ ls hsound
    · exact fun s l => Store.sound_next (guard_role conn) l
    · exact fun s l => onlyAsked_of_sound
  · intro hfits
    apply hfits.imp_inv (I := KeptFound conn) ?_ (keptFound_init hdb)
    intro s l hl hs
    exact ⟨hs.acknowledged, hs.next hl⟩

end Run

namespace Sample

/-- The call runs its statements and commits, with no other in between. -/
def roleTxn (i : Nat) (k : RoleCall) (nextId : Nat) : List RoleLabel :=
  .start k nextId :: k.body.map (fun _ => .stmt i) ++ [.commit i]

def newSupport : RoleCall := .createRole "support" "" defaultTenantId

def noSupport : RoleCall := .deleteRole "support" defaultTenantId

/-- Grants a permission that does not exist. -/
def unknownGrant : RoleCall := .grantPermission "support" "report:read" defaultTenantId

def readGrant : RoleCall := .grantPermission "support" "role:read" defaultTenantId

def noReadGrant : RoleCall := .revokePermission "support" "role:read" defaultTenantId

def supporter : Scope := ⟨10, defaultTenantId, none⟩

def newSupporter : RoleCall := .assignRole supporter "support"

/-- The database once the first user has registered. -/
def registeredDb : Db := (runFrom crates .superuser ⟨migrated, []⟩ registration).state.db

/-- A grant and an assignment overlap, and the deletion of their role waits for both. -/
def overlappingCalls : List RoleLabel :=
  roleTxn 0 newSupport 50 ++
    [.start readGrant 0, .start newSupporter 0, .stmt 1, .stmt 2, .stmt 2, .stmt 1,
      .start noSupport 0, .stmt 3, .stmt 3, .commit 1, .stmt 3, .commit 2, .stmt 3, .commit 3]

theorem acknowledged_overlapping :
    Steps.Each (RoleStore.next .superuser) (OnlyAsked .superuser) (Store.init registeredDb) overlappingCalls ∧
      Steps.Each (RoleStore.next .superuser) (Acknowledged .superuser) (Store.init registeredDb)
        overlappingCalls := by
  have hdb : NoNilProject registeredDb := by
    apply noNilProject_run
    intro i c hc
    obtain ⟨-, rfl⟩ : i = 0 ∧ c = choice 0 10 "" := by simpa [registration, alone] using hc
    decide
  have hrun := acknowledged_run .superuser hdb overlappingCalls
  exact ⟨hrun.1, hrun.2 (by decide)⟩

def afterRoleTxns (ls : List RoleLabel) : RoleStore :=
  Steps.run (RoleStore.next .superuser) (Store.init registeredDb) (roleTxn 0 newSupport 50 ++ ls)

/-- The role is deleted between the check of the assignment and its insert. -/
def lateAssignment : List RoleLabel :=
  [.start newSupporter 0, .stmt 1] ++ roleTxn 2 noSupport 0 ++ [.stmt 1, .commit 1]

/-- The second grant finds the pair there; it is revoked before that grant commits. -/
def revokedMeanwhile : List RoleLabel :=
  roleTxn 1 readGrant 0 ++ [.start readGrant 0, .stmt 2, .stmt 2] ++ roleTxn 3 noReadGrant 0 ++
    [.commit 2]

/-- Each call commits in the last step, and what it reports is not there. -/
theorem unheld_commits :
    (((afterRoleTxns (roleTxn 1 unknownGrant 0)).txns[1]?.map (·.status)) = some .committed ∧
      ¬HoldsPermission (afterRoleTxns (roleTxn 1 unknownGrant 0)).state "support" "report:read"
        defaultTenantId) ∧
    (((afterRoleTxns lateAssignment).txns[1]?.map (·.status)) = some .committed ∧
      ¬HoldsRole (afterRoleTxns lateAssignment).state supporter "support") ∧
    ((afterRoleTxns revokedMeanwhile).txns[2]?.map (·.status)) = some .committed ∧
      ¬HoldsPermission (afterRoleTxns revokedMeanwhile).state "support" "role:read"
        defaultTenantId := by
  decide

end Sample

end IamAuth
