import IamAuth.CacheWrites

/-!
# Validations against role changes

validate_token reads the permissions of a scope and writes them to the cache in two
steps. A role change that commits and goes through the keys of its user in between
leaves the old permissions in the cache. Nothing else does: while every such write
comes before the scans of the role changes it has missed, the entries agree with
the database whenever no call is in flight.
-/

set_option autoImplicit false

namespace IamAuth

open Interleave Relational

/-! ## Statements of validations and role changes -/

/-- What the permissions depend on is left alone. -/
def LeavesPerms : Op → Prop
  | .sql q => .userRoles ∉ q.writes ∧ .rolePermissions ∉ q.writes
  | _ => True

theorem Reads.leavesPerms (o : Op) (h : Reads o) : LeavesPerms o := by
  cases o with
  | sql q =>
    have hwrites : q.writes = [] := h
    simp [LeavesPerms, hwrites]
  | redis c => trivial
  | sys s => trivial

/-- Or it is a change of somebody's roles. -/
def RoleStatement : Op → Prop
  | .sql q => (∃ u, changesRoles u q = true) ∨ LeavesPerms (.sql q)
  | _ => True

theorem filter_insertUserRoles {s : Session} {u u' t : Uuid} {p : Option Uuid} {rs : List Nat}
    {db db' : Db} (h : Repo.insertUserRoles s u t p rs db = .ok db') (hu : u ≠ u') :
    db'.userRoles.filter (fun ur => ur.userId == u') =
      db.userRoles.filter fun ur => ur.userId == u' := by
  obtain ⟨new, hnew, hall⟩ := insertUserRoles_rows h
  have hnone : new.filter (fun ur => ur.userId == u') = [] := by
    apply List.filter_eq_nil_iff.mpr
    intro ur hur
    obtain ⟨⟨r, -, rfl⟩, -⟩ := hall ur hur
    simpa using hu
  rw [hnew, List.filter_append, hnone, List.append_nil]

/-- The roles of another user do not matter. -/
theorem perms_roleStatement {conn : DbRole} {q : Sql} (hq : RoleStatement (.sql q)) (s : Scope)
    (hother : changesRoles s.user q = false) (c : Choice) (db : Db) :
    s.perms conn (q.run conn c db).2 = s.perms conn db := by
  rcases hq with ⟨u, hu⟩ | ⟨hassigned, hgranted⟩
  · rcases Sql.run_cases conn q c db with ⟨e, he⟩ | ⟨r, db', hx, hr⟩
    · rw [he]
    · rw [hr]
      have hframe := Sql.exec_frame hx
      cases q <;> try exact absurd hu Bool.false_ne_true
      case assignRole user role tenant project =>
        have hne : user ≠ s.user := by simpa [changesRoles] using hother
        refine s.perms_congr ?_ (hframe.rolePermissions (by simp [Sql.writes])) hframe.permissions
        simp only [Sql.exec, Repo.assignRole] at hx
        split at hx
        · next db₁ h₁ =>
          cases hx
          exact filter_insertUserRoles h₁ hne
        · cases hx
      case revokeRole user role tenant project =>
        have hne : user ≠ s.user := by simpa [changesRoles] using hother
        refine s.perms_congr ?_ (hframe.rolePermissions (by simp [Sql.writes])) hframe.permissions
        simp only [Sql.exec, Repo.revokeRole] at hx
        split at hx
        · cases hx
        · cases hx
          apply filter_deleteWhere
          intro ur hur
          simp only [Bool.and_eq_true, beq_iff_eq] at hur
          simpa [hur.1.1.1.2] using hne
  · exact s.perms_frame (Sql.run_frame conn q c db) hassigned hgranted

/-- Validations, and role changes at replicas with Redis that name their user as
`Uuid::to_string` does. -/
def Call.keepsCache (cr : Crates) : Call → Bool
  | .rpc _ _ (.validateToken _) => true
  | .rpc svc _ (.assignRole req) => svc.cacheConn && canonical cr req.userId
  | .rpc svc _ (.revokeRole req) => svc.cacheConn && canonical cr req.userId
  | _ => false

section Handlers

variable (cr : Crates) (svc : AuthSvc) (md : MetadataMap)

theorem roleStatement_audit (action target detail : String) :
    (audit cr svc md action target detail).Emits RoleStatement := by
  simp [audit, Prog.Emits, RoleStatement, LeavesPerms, Sql.writes]

theorem roleStatement_assignRole (req : AssignRoleRequest) :
    (assignRole cr svc md req).Emits RoleStatement := by
  refine .bind (by simp [Prog.Emits]) fun _ => .bind (by simp [Prog.Emits]) fun _ => ?_
  refine .bind (by simp [Prog.Emits]) fun uid => .bind ?_ fun _ => ?_
  · refine .bind (by simp [Prog.Emits, RoleStatement, LeavesPerms, Sql.writes]) fun _ => ?_
    refine .bind (by simp [Prog.Emits]) fun _ => .bind (by simp [Prog.Emits]) ?_
    rintro (_ | pid) <;> simp [Prog.Emits, RoleStatement, LeavesPerms, Sql.writes]
  refine .bind (by simp [Prog.Emits, RoleStatement, changesRoles]) fun _ => ?_
  refine .bind (emits_invalidatePerms (fun _ _ => trivial) (fun _ => trivial) svc _) fun _ => ?_
  exact .bind (roleStatement_audit cr svc md _ _ _) fun _ => trivial

theorem roleStatement_revokeRole (req : AssignRoleRequest) :
    (revokeRole cr svc md req).Emits RoleStatement := by
  refine .bind (by simp [Prog.Emits]) fun _ => .bind (by simp [Prog.Emits]) fun _ => ?_
  refine .bind (by simp [Prog.Emits]) fun _ => ?_
  refine .bind (by simp [Prog.Emits, RoleStatement, LeavesPerms, Sql.writes]) fun _ => ?_
  refine .bind (by simp [Prog.Emits]) fun _ => .bind (by simp [Prog.Emits]) fun _ => ?_
  refine .bind (by simp [Prog.Emits, RoleStatement, changesRoles]) fun _ => ?_
  refine .bind (emits_invalidatePerms (fun _ _ => trivial) (fun _ => trivial) svc _) fun _ => ?_
  exact .bind (roleStatement_audit cr svc md _ _ _) fun _ => trivial

end Handlers

/-- What these calls do to the permissions, they follow by an invalidation. -/
def roleMonitor (cr : Crates) (k : Call) : Monitor Resp Unit :=
  Monitor.emitting fun o => k.keepsCache cr = true →
    LeavesPerms o ∨ (RoleStatement o ∧ (k.invalidates cr).isSome)

theorem along_roleBody (cr : Crates) (k : Call) :
    (k.body cr).Along (roleMonitor cr k) (fun _ _ => True) () := by
  by_cases hk : k.keepsCache cr = true
  · suffices h : (k.body cr).Emits (fun o => LeavesPerms o ∨
      (RoleStatement o ∧ (k.invalidates cr).isSome)) from h.imp fun o ho _ => ho
    cases k with
    | rpc svc md r =>
      cases r
      case validateToken req =>
        refine .bind ((reads_validateToken cr svc req).imp ?_) fun _ => trivial
        intro o ho
        exact .inl (ho.leavesPerms o)
      case assignRole req =>
        have hfuel : ((Call.rpc svc md (.assignRole req)).invalidates cr).isSome := by
          have hk : (svc.cacheConn && canonical cr req.userId) = true := hk
          rw [Call.invalidates, if_pos hk]
          rfl
        refine .bind ((roleStatement_assignRole cr svc md req).imp ?_) fun _ => trivial
        intro o ho
        exact .inr ⟨ho, hfuel⟩
      case revokeRole req =>
        have hfuel : ((Call.rpc svc md (.revokeRole req)).invalidates cr).isSome := by
          have hk : (svc.cacheConn && canonical cr req.userId) = true := hk
          rw [Call.invalidates, if_pos hk]
          rfl
        refine .bind ((roleStatement_revokeRole cr svc md req).imp ?_) fun _ => trivial
        intro o ho
        exact .inr ⟨ho, hfuel⟩
      all_goals cases hk
    | start env => cases hk
    | profileCreationFailed userId reason => cases hk
  · exact Prog.along_trivial (fun _ _ h => absurd h hk) (fun _ _ => trivial) _ _

/-! ## Runs -/

/-- What call `i` has just read of somebody's permissions. -/
def justRead (w : World) (i : Nat) : Option (List String) :=
  match (w.hist i).getLast? with
  | some ⟨.sql (.getUserPermissionsScoped ..), .ok perms⟩ => some perms
  | _ => none

/-- A validation that writes to the cache has not been overtaken: the permissions of
the scope are still what it has read, or a role change of the user has committed and
not begun its scan. -/
def NotOvertaken (cr : Crates) (conn : DbRole) (w : World) : Act → Prop
  | .step i _ =>
    match w.pending i with
    | some (.redis (.setEx key _ _)) => ∀ s ∈ scopeOf cr key,
      justRead w i = some (s.perms conn w.state.db) ∨
      ∃ j < w.threads.length, (inval cr w j).unbegun s.user = true
    | _ => True
  | _ => True

instance (cr : Crates) (conn : DbRole) (w : World) (l : Act) :
    Decidable (NotOvertaken cr conn w l) := by
  unfold NotOvertaken
  match l with
  | .start k => exact isTrue trivial
  | .env e => exact isTrue trivial
  | .step i c =>
    dsimp only
    generalize w.pending i = pending
    match pending with
    | none => exact isTrue trivial
    | some (.sql s) => exact isTrue trivial
    | some (.sys s) => exact isTrue trivial
    | some (.redis (.setEx key value secs)) => exact inferInstanceAs (Decidable (∀ s ∈ _, _ ∨ _))
    | some (.redis (.exists _)) | some (.redis (.get _)) | some (.redis (.scan ..))
    | some (.redis (.del _)) => exact isTrue trivial

/-- A run of validations and role changes. -/
def RoleCalls (cr : Crates) : Act → Prop
  | .start k => k.keepsCache cr = true
  | _ => True

instance (cr : Crates) (l : Act) : Decidable (RoleCalls cr l) := by
  unfold RoleCalls
  match l with
  | .start k => exact inferInstanceAs (Decidable (_ = _))
  | .step i c => exact isTrue trivial
  | .env e => exact isTrue trivial

/-- One label of such a run over a Redis that works. -/
structure RoleRun (cr : Crates) (conn : DbRole) (now : DateTime) (w : World) (l : Act) : Prop where
  calls : RoleCalls cr l
  clock : now ≤ redisNow w now l
  redis : RedisWorks cr conn w l

instance (cr : Crates) (conn : DbRole) (now : DateTime) (w : World) (l : Act) :
    Decidable (RoleRun cr conn now w l) :=
  decidable_of_iff (RoleCalls cr l ∧ now ≤ redisNow w now l ∧ RedisWorks cr conn w l)
    ⟨fun h => ⟨h.1, h.2.1, h.2.2⟩, fun h => ⟨h.calls, h.clock, h.redis⟩⟩

/-- What holds in every state of such a run. -/
structure Validations (cr : Crates) (conn : DbRole) (now : DateTime) (w : World) : Prop where
  cache : CacheInv cr conn (fun _ _ => False) w now
  reads : TracksReads cr w
  roles : Pool.Tracks (roleMonitor cr) (fun _ _ _ => True) (fun _ => ()) w
  calls : ∀ i k, w.callOf i = some k → k.keepsCache cr = true

section Step

variable {cr : Crates} {conn : DbRole} {now : DateTime} {w : World}

/-- The next statement of a call leaves the permissions of a scope alone, or is a
change of its user's roles that an invalidation follows. -/
theorem Validations.statement (h : Validations cr conn now w) {i : Nat} {q : Sql}
    (hp : w.pending i = some (.sql q)) (c : Choice) (s : Scope) :
    s.perms conn (q.run conn c w.state.db).2 = s.perms conn w.state.db ∨
      announced cr w i q s.user = true := by
  obtain ⟨k, hk, hok⟩ := h.roles.pending hp (.error .connection)
  rcases hok (h.calls i k hk) with hleaves | ⟨hrole, hfuel⟩
  · exact .inl (s.perms_frame (Sql.run_frame conn q c _) hleaves.1 hleaves.2)
  · cases hchanges : changesRoles s.user q with
    | false => exact .inl (perms_roleStatement hrole s hchanges c _)
    | true =>
      right
      rw [announced, hchanges, hk, Option.bind_some, hfuel]
      rfl

theorem Validations.keepsPerms (h : Validations cr conn now w) (l : Act) :
    KeepsPerms cr conn (fun _ _ => False) now w l := by
  cases l with
  | start k => trivial
  | env e => trivial
  | step i c =>
    simp only [KeepsPerms]
    split
    · next q hp =>
      intro e _ _ s _
      refine ⟨?_, False.elim⟩
      exact (h.statement hp c s).imp_right .inl
    · trivial

theorem Validations.writesFresh (h : Validations cr conn now w) {l : Act}
    (hl : NotOvertaken cr conn w l) : WritesFresh cr conn w l := by
  cases l with
  | start k => trivial
  | env e => trivial
  | step i c =>
    simp only [NotOvertaken] at hl
    simp only [WritesFresh]
    split
    · next key value ttl hp =>
      rw [hp] at hl
      intro s hs
      obtain ⟨k, -, hrule⟩ := h.reads.pending_history hp none
      obtain ⟨h', perms, hhist, hvalue⟩ := hrule s hs
      rcases hl s hs with hread | ⟨j, -, hj⟩
      · left
        have hperms : perms = s.perms conn w.state.db := by
          simpa [justRead, hhist] using hread
        rw [hvalue, hperms]
      · exact .inr ⟨j, hj⟩
    · trivial

theorem Validations.next (hcr : CacheCrates cr) {l : Act}
    (hl : RoleRun cr conn now w l ∧ NotOvertaken cr conn w l) (h : Validations cr conn now w) :
    Validations cr conn (redisNow w now l) (Pool.next (machine cr conn) (Call.body cr) w l) where
  cache := h.cache.next hcr l hl.1.clock hl.1.redis (h.keepsPerms l) (h.writesFresh hl.2)
  reads := Pool.tracks_next (along_readBody hcr) l h.reads
  roles := Pool.tracks_next (along_roleBody cr) l h.roles
  calls := by
    intro i k hk
    rcases Pool.callOf_of_next hk with hold | ⟨hstart, -⟩
    · exact h.calls i k hold
    · rw [hstart] at hl
      exact hl.1.calls

theorem Validations.init {st : State} (hst : CacheCoherent cr conn now st) :
    Validations cr conn now (Pool.init st) where
  cache := .init hst
  reads := Pool.tracks_init st
  roles := Pool.tracks_init st
  calls := by
    intro i k hk
    cases hk

end Step

/-- In a run of validations and role changes over a Redis that works, in which no
validation writes after it has been overtaken, every entry agrees with the database
whenever no call is in flight. -/
theorem cacheCoherent_roleRun {cr : Crates} (hcr : CacheCrates cr) (conn : DbRole) {now : DateTime}
    {st : State} (hst : CacheCoherent cr conn now st) {ls : List Act}
    (hrun : Timed cr conn (fun now w l => RoleRun cr conn now w l ∧ NotOvertaken cr conn w l) now
      (Pool.init st) ls)
    (hquiet : ∀ i, (runFrom cr conn st ls).pending i = none) :
    CacheCoherent cr conn (redisTime cr conn now (Pool.init st) ls) (runFrom cr conn st ls).state := by
  have hinv := timed_inv (I := Validations cr conn) (fun now w l hl h => h.next hcr hl) hrun
    (Validations.init hst)
  intro s e he hkey hlive
  have hs : scopeOf cr e.key = some s := by
    rw [hkey]
    exact scopeOf_key hcr s
  rcases hinv.cache.quiescent hquiet he hlive hs with hvalue | hgone
  · exact hvalue
  · exact hgone.elim

/-! ## A race -/

namespace Sample

/-- An administrator makes the member a viewer. -/
def assignment : Call :=
  .rpc cacheSvc (metadata 9 defaultTenantId "role:assign") (.assignRole ⟨formatUuid 7, "viewer", ""⟩)

/-- The whole role change falls between the validation's read and its write. -/
def overtaken : List Act :=
  .start memberValidation :: moves 0 7 ++ .start assignment :: moves 1 3 ++ moves 0 1

/-- The scan of the role change comes after the write, and a second validation
writes what is then in the database. -/
def inOrder : List Act :=
  .start memberValidation :: moves 0 7 ++ .start assignment :: moves 1 2 ++ moves 0 1 ++
    .step 1 { choice 1 0 "" with texts := [memberScope.key jsonCrates] } :: moves 1 1 ++
    .start memberValidation :: moves 2 8

end Sample

/-- The cache is left with the permissions from before the role change. -/
theorem overtaken_stale :
    Timed Sample.jsonCrates .superuser (RoleRun Sample.jsonCrates .superuser) 0
      (Pool.init (Sample.stateOf Sample.member)) Sample.overtaken ∧
    CacheCoherent Sample.jsonCrates .superuser 0 (Sample.stateOf Sample.member) ∧
    (∀ i, (runFrom Sample.jsonCrates .superuser (Sample.stateOf Sample.member)
      Sample.overtaken).pending i = none) ∧
    ¬ CacheCoherent Sample.jsonCrates .superuser
      (redisTime Sample.jsonCrates .superuser 0 (Pool.init (Sample.stateOf Sample.member))
        Sample.overtaken)
      (runFrom Sample.jsonCrates .superuser (Sample.stateOf Sample.member)
        Sample.overtaken).state := by
  have hrun : Timed Sample.jsonCrates .superuser (RoleRun Sample.jsonCrates .superuser) 0
        (Pool.init (Sample.stateOf Sample.member)) Sample.overtaken ∧
      (∀ i < (runFrom Sample.jsonCrates .superuser (Sample.stateOf Sample.member)
        Sample.overtaken).threads.length, (runFrom Sample.jsonCrates .superuser
        (Sample.stateOf Sample.member) Sample.overtaken).pending i = none) ∧
      ∃ e ∈ (runFrom Sample.jsonCrates .superuser (Sample.stateOf Sample.member)
        Sample.overtaken).state.redis, e.key = Sample.memberScope.key Sample.jsonCrates ∧
        redisTime Sample.jsonCrates .superuser 0 (Pool.init (Sample.stateOf Sample.member))
          Sample.overtaken < e.expiresAt ∧
        e.value ≠ Sample.jsonCrates.permsToJson (Sample.memberScope.perms .superuser
          (runFrom Sample.jsonCrates .superuser (Sample.stateOf Sample.member)
            Sample.overtaken).state.db) := by
    decide +kernel
  obtain ⟨hworks, hquiet, e, he, hkey, hlive, hstale⟩ := hrun
  refine ⟨hworks, ?_, Pool.quiet_of_threads hquiet, ?_⟩
  · intro s e he
    cases he
  · intro hcoherent
    exact hstale (hcoherent Sample.memberScope e he hkey hlive)

theorem cacheCoherent_inOrder : CacheCoherent Sample.jsonCrates .superuser
    (redisTime Sample.jsonCrates .superuser 0 (Pool.init (Sample.stateOf Sample.member))
      Sample.inOrder)
    (runFrom Sample.jsonCrates .superuser (Sample.stateOf Sample.member) Sample.inOrder).state := by
  have hrun : Timed Sample.jsonCrates .superuser (fun now w l =>
        RoleRun Sample.jsonCrates .superuser now w l ∧ NotOvertaken Sample.jsonCrates .superuser w l)
        0 (Pool.init (Sample.stateOf Sample.member)) Sample.inOrder ∧
      ∀ i < (runFrom Sample.jsonCrates .superuser (Sample.stateOf Sample.member)
        Sample.inOrder).threads.length, (runFrom Sample.jsonCrates .superuser
        (Sample.stateOf Sample.member) Sample.inOrder).pending i = none := by
    decide +kernel
  refine cacheCoherent_roleRun Sample.cacheCrates .superuser ?_ hrun.1
    (Pool.quiet_of_threads hrun.2)
  intro s e he
  cases he

end IamAuth
