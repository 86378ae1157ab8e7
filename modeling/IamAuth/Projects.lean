import IamAuth.Issued
import IamAuth.RefreshTokens

/-!
# Projects and the tenants they are paired with

Refresh tokens, API keys and assignments name a tenant and a project side by
side, and so do the claims of an access token. No foreign key ties the two
together. Each pair is one a guard has checked, one read from an older refresh
token, or one of the caller's metadata, which goes back to an older access token.
-/

set_option autoImplicit false

namespace IamAuth

open Interleave Relational

/-- The project is one of the tenant. -/
def Paired (db : Db) (t p : Uuid) : Prop := ∃ pr ∈ db.projects, pr.id = p ∧ pr.tenantId = t

structure ProjectRows (db : Db) : Prop where
  refreshTokens : ∀ x ∈ db.refreshTokens, ∀ p, x.projectId = some p → Paired db x.tenantId p
  apiKeys : ∀ x ∈ db.apiKeys, ∀ p, x.projectId = some p → Paired db x.tenantId p
  userRoles : ∀ x ∈ db.userRoles, ∀ p, x.projectId = some p → Paired db x.tenantId p

/-- The tenant and the project a statement writes side by side. -/
def Sql.pair : Sql → Option (Uuid × Uuid)
  | .createRefreshToken _ _ _ t p => p.map fun p => (t, p)
  | .createApiKey _ _ _ _ _ _ t p => p.map fun p => (t, p)
  | .assignRole _ _ t p => p.map fun p => (t, p)
  | _ => none

/-! ## One statement -/

section Statement

variable {conn : DbRole} {c : Choice} {s : Sql} {db db' : Db} {r : Reply s}

theorem Paired.mono {t p : Uuid} (h : Paired db t p) (hsub : db.projects ⊆ db'.projects) :
    Paired db' t p := by
  obtain ⟨pr, hpr, hid, ht⟩ := h
  exact ⟨pr, hsub hpr, hid, ht⟩

/-- Projects are never deleted. -/
theorem projects_exec (h : s.exec conn c db = .ok (r, db')) : db.projects ⊆ db'.projects := by
  by_cases hw : .projects ∈ s.writes
  · cases s <;> simp only [Sql.writes, List.mem_cons, List.not_mem_nil, reduceCtorEq, or_self] at hw
    case createProject t slug name =>
      simp only [Sql.exec, Repo.createProject] at h
      repeat' split at h
      all_goals cases h
      exact List.subset_append_left _ _
  · rw [(Sql.exec_frame h).projects hw]
    exact List.Subset.refl _

/-- A row with a project was there before, or holds the pair of the statement. -/
theorem refreshTokens_exec (h : s.exec conn c db = .ok (r, db')) {x' : RefreshToken}
    (hx' : x' ∈ db'.refreshTokens) {p : Uuid} (hp : x'.projectId = some p) :
    s.pair = some (x'.tenantId, p) ∨
    ∃ x ∈ db.refreshTokens, x.tenantId = x'.tenantId ∧ x.projectId = some p := by
  have hstep := tokenStep_exec h
  generalize db'.refreshTokens = table' at hstep hx'
  cases hstep with
  | same hs => exact .inr ⟨x', hx', rfl, hp⟩
  | update hs hf hkey hrevoked hreplaced =>
    obtain ⟨x, hx, rfl⟩ := mem_updateWhere.1 hx'
    split at hp
    · next hhit =>
      rw [if_pos hhit]
      have hsame := hkey x
      simp only [RefreshToken.key, TokenKey.mk.injEq] at hsame
      exact .inr ⟨x, hx, hsame.2.2.1.symm, hsame.2.2.2.symm.trans hp⟩
    · next hmiss =>
      rw [if_neg hmiss]
      exact .inr ⟨x, hx, rfl, hp⟩
  | delete hs id => exact .inr ⟨x', (mem_deleteWhere.1 hx').1, rfl, hp⟩
  | insert hs hlive hlast hnew =>
    rcases List.mem_append.mp hx' with hx' | hx'
    · exact .inr ⟨x', hx', rfl, hp⟩
    · obtain rfl := List.mem_singleton.mp hx'
      left
      cases s <;> cases hs
      simp [Sql.pair, hp]

theorem apiKeys_exec (h : s.exec conn c db = .ok (r, db')) {x' : ApiKeyRecord}
    (hx' : x' ∈ db'.apiKeys) {p : Uuid} (hp : x'.projectId = some p) :
    s.pair = some (x'.tenantId, p) ∨
    ∃ x ∈ db.apiKeys, x.tenantId = x'.tenantId ∧ x.projectId = some p := by
  by_cases hw : .apiKeys ∈ s.writes
  · cases s <;> simp only [Sql.writes, List.mem_cons, List.not_mem_nil, reduceCtorEq, or_self,
      or_false, false_or] at hw
    case deleteUserEventSoft id hard eventType payload =>
      rw [(frame_insertOutbox (deleteUserEventSoft_ok h)).apiKeys (by simp)] at hx'
      split at hx'
      · exact .inr ⟨x', (mem_deleteWhere.1 hx').1, rfl, hp⟩
      · exact .inr ⟨x', hx', rfl, hp⟩
    case createApiKey id userId hash name scopes expiresAt t project =>
      simp only [Sql.exec, Repo.createApiKey] at h
      repeat' split at h
      all_goals cases h
      rcases List.mem_append.mp hx' with hx' | hx'
      · exact .inr ⟨x', hx', rfl, hp⟩
      · obtain rfl := List.mem_singleton.mp hx'
        obtain rfl : project = some p := hp
        exact .inl rfl
    all_goals
      cases h
      obtain ⟨x, hx, rfl⟩ := mem_updateWhere.1 hx'
      refine .inr ⟨x, hx, ?_, ?_⟩
      · split <;> rfl
      · split at hp <;> exact hp
  · rw [(Sql.exec_frame h).apiKeys hw] at hx'
    exact .inr ⟨x', hx', rfl, hp⟩

theorem userRoles_exec (h : s.exec conn c db = .ok (r, db')) {x' : UserRole}
    (hx' : x' ∈ db'.userRoles) {p : Uuid} (hp : x'.projectId = some p) :
    s.pair = some (x'.tenantId, p) ∨ x' ∈ db.userRoles := by
  by_cases hw : .userRoles ∈ s.writes
  · cases s <;> simp only [Sql.writes, List.mem_cons, List.not_mem_nil, reduceCtorEq, or_self,
      or_false, or_true] at hw
    case createUserWithRole email hash role =>
      obtain ⟨db₁, -, h₁, h₂⟩ := createUserWithRole_ok h
      rcases mem_insertUserRoles h₂ hx' with hx' | ⟨rid, -, rfl⟩
      · rw [(frame_insertUser h₁).userRoles (by simp)] at hx'
        exact .inr hx'
      · cases hp
    case createUserWithRoleEvent id email hash role eventType payload =>
      obtain ⟨db₁, db₂, h₁, h₂, h₃⟩ := createUserWithRoleEvent_ok h
      rw [(frame_insertOutbox h₃).userRoles (by simp)] at hx'
      rcases mem_insertUserRoles h₂ hx' with hx' | ⟨rid, -, rfl⟩
      · rw [(frame_insertUser h₁).userRoles (by simp)] at hx'
        exact .inr hx'
      · cases hp
    case deleteUserEventSoft id hard eventType payload =>
      rw [(frame_insertOutbox (deleteUserEventSoft_ok h)).userRoles (by simp)] at hx'
      split at hx'
      · exact .inr (mem_deleteWhere.1 hx').1
      · exact .inr hx'
    case createTenantWithAdmin slug name creator =>
      obtain ⟨db₁, db₂, -, h₁, h₂, h₃⟩ := createTenantWithAdmin_ok h
      rcases mem_insertUserRoles h₃ hx' with hx' | ⟨rid, -, rfl⟩
      · rw [(frame_createMembership h₂).userRoles (by simp),
          (frame_insertTenant h₁).userRoles (by simp)] at hx'
        exact .inr hx'
      · cases hp
    case assignRole userId roleName t project =>
      simp only [Sql.exec, Repo.assignRole] at h
      split at h
      · next h' =>
        cases h
        rcases mem_insertUserRoles h' hx' with hx' | ⟨rid, -, rfl⟩
        · exact .inr hx'
        · obtain rfl : project = some p := hp
          exact .inl rfl
      · cases h
    case revokeRole userId roleName t project =>
      simp only [Sql.exec, Repo.revokeRole] at h
      split at h <;> cases h
      exact .inr (mem_deleteWhere.1 hx').1
    case deleteRole name t =>
      cases h
      exact .inr (mem_deleteWhere.1 hx').1
  · rw [(Sql.exec_frame h).userRoles hw] at hx'
    exact .inr hx'

theorem projectRows_exec (h : s.exec conn c db = .ok (r, db'))
    (hnew : ∀ t p, s.pair = some (t, p) → Paired db t p) (hdb : ProjectRows db) :
    ProjectRows db' := by
  have hsub := projects_exec h
  constructor
  · intro x' hx' p hp
    rcases refreshTokens_exec h hx' hp with hpair | ⟨x, hx, ht, hold⟩
    · exact (hnew _ p hpair).mono hsub
    · rw [← ht]
      exact (hdb.refreshTokens x hx p hold).mono hsub
  · intro x' hx' p hp
    rcases apiKeys_exec h hx' hp with hpair | ⟨x, hx, ht, hold⟩
    · exact (hnew _ p hpair).mono hsub
    · rw [← ht]
      exact (hdb.apiKeys x hx p hold).mono hsub
  · intro x' hx' p hp
    rcases userRoles_exec h hx' hp with hpair | hx
    · exact (hnew _ p hpair).mono hsub
    · exact (hdb.userRoles x' hx p hp).mono hsub

theorem projectRows_migrated : ProjectRows migrated where
  refreshTokens := by simp [migrated]
  apiKeys := by simp [migrated]
  userRoles := by simp [migrated]

end Statement

/-! ## What a call knows about a pair -/

/-- Why the call may name the project with the tenant: the guard found it there,
a refresh token it read names both, or its caller does. -/
inductive Known (cr : Crates) (h : List (Event Resp)) : Call → Uuid → Uuid → Prop where
  | checked {k : Call} {t p : Uuid} (hcheck : ⟨.sql (.isProjectInTenant p t), .ok true⟩ ∈ h) :
    Known cr h k t p
  | read {k : Call} {hash : String} {row : RefreshTokenRow} {p : Uuid}
    (hread : ⟨.sql (.getRefreshToken hash), .ok (some row)⟩ ∈ h) (hp : row.projectId = some p) :
    Known cr h k row.tenantId p
  | metadata {svc : AuthSvc} {md : MetadataMap} {r : Rpc} {t p : Uuid}
    (ht : cr.parseUuid (metaOf md "x-tenant-id") = some t)
    (hne : metaOf md "x-project-id" ≠ "")
    (hp : cr.parseUuid (metaOf md "x-project-id") = some p) : Known cr h (.rpc svc md r) t p

theorem Known.append {cr : Crates} {k : Call} {h : List (Event Resp)} {t p : Uuid}
    (hk : Known cr h k t p) (h' : List (Event Resp)) : Known cr (h ++ h') k t p := by
  cases hk with
  | checked hcheck => exact .checked (List.mem_append_left _ hcheck)
  | read hread hp => exact .read (List.mem_append_left _ hread) hp
  | metadata ht hne hp => exact .metadata ht hne hp

/-- The event tells its call about the pair. -/
def shows (t p : Uuid) : Event Resp → Prop
  | ⟨.sql (.isProjectInTenant p' t'), .ok found⟩ => found = true ∧ p' = p ∧ t' = t
  | ⟨.sql (.getRefreshToken _), .ok (some row)⟩ => row.tenantId = t ∧ row.projectId = some p
  | _ => False

theorem Known.snoc {cr : Crates} {k : Call} {h : List (Event Resp)} {e : Event Resp} {t p : Uuid}
    (hk : Known cr (h ++ [e]) k t p) : Known cr h k t p ∨ shows t p e := by
  cases hk with
  | checked hcheck =>
    rcases List.mem_append.mp hcheck with hcheck | hcheck
    · exact .inl (.checked hcheck)
    · rw [← List.mem_singleton.mp hcheck]
      exact .inr ⟨rfl, rfl, rfl⟩
  | read hread hp =>
    rcases List.mem_append.mp hread with hread | hread
    · exact .inl (.read hread hp)
    · rw [← List.mem_singleton.mp hread]
      exact .inr ⟨rfl, hp⟩
  | metadata ht hne hp => exact .inl (.metadata ht hne hp)

/-- What an event shows was so in the database. -/
theorem shows_exec {conn : DbRole} {c : Choice} {s : Sql} {db db' : Db} {r : Reply s} {t p : Uuid}
    (h : s.exec conn c db = .ok (r, db')) (hdb : ProjectRows db) (hs : shows t p ⟨.sql s, .ok r⟩) :
    Paired db t p := by
  cases s <;> try exact hs.elim
  case isProjectInTenant p' t' =>
    obtain ⟨hfound, rfl, rfl⟩ := hs
    have hany : Repo.isProjectInTenant conn p' t' db = r := congrArg Prod.fst (Except.ok.inj h)
    rw [hfound] at hany
    obtain ⟨pr, hpr, hids⟩ := List.any_eq_true.mp hany
    simp only [Bool.and_eq_true, beq_iff_eq] at hids
    exact ⟨pr, (List.mem_filter.mp hpr).1, hids.1, hids.2⟩
  case getRefreshToken hash =>
    have hrow : Repo.getRefreshToken hash db = r := congrArg Prod.fst (Except.ok.inj h)
    cases r with
    | none => exact hs.elim
    | some row =>
      obtain ⟨rfl, hp⟩ := hs
      obtain ⟨x, hx, rfl⟩ := Option.map_eq_some_iff.mp hrow
      exact hdb.refreshTokens x (List.mem_of_find?_eq_some hx) p hp

/-- A call writes only pairs it knows, into rows and into tokens. -/
def pairRule (cr : Crates) (k : Call) (h : List (Event Resp)) : Event Resp → Prop
  | ⟨.sql s, _⟩ => ∀ t p, s.pair = some (t, p) → Known cr h k t p
  | ⟨.sys (.jwtIssue _ _ tenant project), _⟩ => project ≠ "" →
    ∃ t p, tenant = cr.formatUuid t ∧ project = cr.formatUuid p ∧ Known cr h k t p
  | _ => True

/-- What validate_token returns are claims of the token it was given. -/
def pairPost : Call → List (Event Resp) → Except Failure Response → Prop
  | .rpc _ _ (.validateToken req), h, .ok (.token resp) => ∃ claims,
    ⟨.sys (.jwtParseAccess req.accessToken), some claims⟩ ∈ h ∧
      resp.tenantId = claims.tenantId ∧ resp.projectId = claims.projectId
  | _, _, _ => True

def pairMonitor (cr : Crates) (k : Call) : Monitor Resp (List (Event Resp)) :=
  .history (pairRule cr k)

@[simp] theorem pairMonitor_upd (cr : Crates) (k : Call) (h : List (Event Resp)) (e : Event Resp) :
    (pairMonitor cr k).upd h e = h ++ [e] := rfl

section Handlers

variable {cr : Crates} {k : Call} {h : List (Event Resp)}

theorem Unbound.pairRule {e : Event Resp} (he : Unbound e.1) : pairRule cr k h e := by
  obtain ⟨o, r⟩ := e
  cases o with
  | redis c => trivial
  | sys s =>
    cases s <;> try trivial
    case jwtIssue sub email tenant project => exact fun hne => absurd he hne
  | sql s =>
    cases s <;> try exact he.elim
    case createRefreshToken userId hash expiresAt t project =>
      obtain rfl : project = none := he
      intro t p hpair
      cases hpair
    all_goals
      intro t p hpair
      cases hpair

theorem Plain.pairRule {e : Event Resp} (he : Plain e.1) : pairRule cr k h e :=
  (he.unbound e.1).pairRule

/-- The statement names no tenant and project but these. -/
def Binds (cr : Crates) (t : Uuid) (project : Option Uuid) : Op → Prop
  | .sql s => ∀ t' p, s.pair = some (t', p) → t' = t ∧ project = some p
  | .sys (.jwtIssue _ _ tenant text) =>
    tenant = cr.formatUuid t ∧ text = (project.map cr.formatUuid).getD ""
  | _ => True

theorem Plain.binds {t : Uuid} {project : Option Uuid} (o : Op) (ho : Plain o) :
    Binds cr t project o := by
  cases o with
  | redis c => trivial
  | sys s => cases s <;> first | exact ho.elim | trivial
  | sql s =>
    cases s <;> try exact ho.elim
    all_goals
      intro t' p hpair
      cases hpair

/-- Statements that name one pair, which the call knows. -/
theorem along_binds {α : Type} {p : Handler α} (t : Uuid) (project : Option Uuid)
    (hp : p.Emits (Binds cr t project)) (hknown : ∀ q, project = some q → Known cr h k t q) :
    p.Along (pairMonitor cr k) (fun _ _ => True) h := by
  refine Prog.Emits.along_persists (Q := fun h => ∀ q, project = some q → Known cr h k t q)
    ?_ (fun h e hh q hq => (hh q hq).append [e]) (fun _ _ _ => trivial) hp hknown
  intro h e he hh
  obtain ⟨o, r⟩ := e
  cases o with
  | redis c => trivial
  | sys s =>
    cases s <;> try trivial
    case jwtIssue sub email tenant text =>
      obtain ⟨rfl, rfl⟩ := he
      intro hne
      cases project with
      | none => exact absurd rfl hne
      | some q => exact ⟨t, q, rfl, rfl, hh q rfl⟩
  | sql s =>
    intro t' q hpair
    obtain ⟨rfl, hq⟩ := he t' q hpair
    exact hh q hq

theorem binds_pair {s : Sql} {t : Uuid} {project : Option Uuid}
    (hs : s.pair = project.map fun p => (t, p)) : Binds cr t project (.sql s) := by
  intro t' p hpair
  rw [hs] at hpair
  obtain ⟨q, hq, heq⟩ := Option.map_eq_some_iff.mp hpair
  cases heq
  exact ⟨rfl, hq⟩

variable (cr) (svc : AuthSvc) (md : MetadataMap)

theorem binds_issueTokens (userId : Uuid) (email : String) (t : Uuid) (project : Option Uuid) :
    (issueTokens cr svc userId email t project).Emits (Binds cr t project) := by
  have hcreate : ∀ hash expiresAt,
      Binds cr t project (.sql (.createRefreshToken userId hash expiresAt t project)) :=
    fun _ _ => binds_pair rfl
  have hissue : ∀ sub, Binds cr t project (.sys (.jwtIssue sub email (cr.formatUuid t)
      ((project.map cr.formatUuid).getD ""))) := fun _ => ⟨rfl, rfl⟩
  have hclock : ∀ s, (∀ sub email t p, s ≠ .jwtIssue sub email t p) → Binds cr t project (.sys s) := by
    intro s hs
    cases s <;> first | trivial | exact absurd rfl (hs _ _ _ _)
  simp [issueTokens, Prog.Emits, hcreate, hissue, hclock]

theorem binds_reissue (row : RefreshTokenRow) :
    (reissue cr svc row).Emits (Binds cr row.tenantId row.projectId) := by
  refine .bind (by simp [Prog.Emits, Binds, Sql.pair]) fun found => ?_
  exact .bind (by simp [Prog.Emits]) fun user => binds_issueTokens cr svc _ _ _ _

/-- Both branches of refresh pass the pair of the row on. -/
theorem along_refresh_pair (req : RefreshRequest) :
    (refresh cr svc req).Along (pairMonitor cr (.rpc svc md (.refresh req)))
      (fun _ _ => True) [] := by
  apply (Prog.along_bind _ _ _ _ _).mpr
  apply (along_query _ _ _).mpr
  refine ⟨?_, fun d => ⟨by simp [pairMonitor, pairRule, Sql.pair], trivial⟩⟩
  intro found
  refine ⟨by simp [pairMonitor, pairRule, Sql.pair], ?_⟩
  apply (Prog.along_bind _ _ _ _ _).mpr
  apply (Prog.along_okOr _ _ _ _ _).mpr
  refine ⟨fun _ => trivial, ?_⟩
  intro row hfound
  subst hfound
  have hwipe : (wipeFamily cr svc row).Emits (Binds cr row.tenantId row.projectId) :=
    (plain_wipeFamily cr svc row).imp Plain.binds
  apply along_binds row.tenantId row.projectId
  · dsimp only
    split
    · split
      · refine .bind (by simp [Prog.Emits, Binds]) fun now => ?_
        split
        · exact binds_reissue cr svc row
        · exact hwipe
      · exact hwipe
    · refine .bind (by simp [Prog.Emits, Binds]) fun now => .bind (by simp [Prog.Emits]) fun _ => ?_
      exact .bind (binds_reissue cr svc row) fun pair => by simp [Prog.Emits, Binds, Sql.pair]
  · intro q hq
    exact .read (List.mem_append_right _ (List.mem_singleton_self _)) hq

/-- What `switchProject` and `validateAssign` return, their guard has checked. -/
def Checked (h : List (Event Resp)) (t : Uuid) : Except Failure (Option Uuid) → Prop
  | .ok project => ∀ q, project = some q → ⟨.sql (.isProjectInTenant q t), .ok true⟩ ∈ h
  | .error _ => True

/-- The guard of both. -/
theorem along_projectCheck (text : String) (t : Uuid) (failed foreign : Failure) :
    ((do
      match ← parseOptProject cr text with
      | none => pure none
      | some pid => do
        let inTenant ← query (.isProjectInTenant pid t) failed
        Prog.failIf (!inTenant) foreign
        return some pid) : Handler (Option Uuid)).Along (pairMonitor cr k)
      (fun h r => Checked h t r) h := by
  apply (Prog.along_bind _ _ _ _ _).mpr
  apply (along_parseOptProject _ _).mpr
  refine ⟨?_, fun _ _ => trivial, ?_⟩
  · intro _ q hq
    cases hq
  · intro p _ _
    apply (Prog.along_bind _ _ _ _ _).mpr
    apply (along_query _ _ _).mpr
    refine ⟨?_, fun d => ⟨by simp [pairMonitor, pairRule, Sql.pair], trivial⟩⟩
    intro inTenant
    refine ⟨by simp [pairMonitor, pairRule, Sql.pair], ?_⟩
    apply (Prog.along_bind _ _ _ _ _).mpr
    apply (Prog.along_failIf _ _ _ _ _).mpr
    refine ⟨fun _ => trivial, ?_⟩
    intro hin q hq
    obtain rfl : inTenant = true := by simpa using hin
    obtain rfl : p = q := Option.some.inj hq
    exact List.mem_append_right _ (List.mem_singleton_self _)

/-- After the guard a call names the pair it has checked. -/
theorem along_checked {α : Type} {p : Handler (Option Uuid)} {f : Option Uuid → Handler α} {t : Uuid}
    (hp : p.Along (pairMonitor cr k) (fun h r => Checked h t r) h)
    (hf : ∀ project, (f project).Emits (Binds cr t project)) :
    (p >>= f).Along (pairMonitor cr k) (fun _ _ => True) h := by
  apply (Prog.along_bind _ _ _ _ _).mpr
  apply hp.mono
  rintro h (e | project) hchecked
  · trivial
  · apply along_binds t project (hf project)
    intro q hq
    exact .checked (hchecked q hq)

theorem along_switchTenant_pair (req : SwitchTenantRequest) :
    (switchTenant cr svc md req).Along (pairMonitor cr (.rpc svc md (.switchTenant req)))
      (fun _ _ => True) [] := by
  have hplain : ∀ h e, Plain e.1 → pairRule cr (.rpc svc md (.switchTenant req)) h e :=
    fun _ _ => Plain.pairRule
  refine Prog.Emits.bind_stretch hplain (by simp [Prog.Emits]) (fun _ _ => trivial) ?_
  intro caller h₁
  refine Prog.Emits.bind_stretch hplain (by simp [Prog.Emits]) (fun _ _ => trivial) ?_
  intro t h₂
  refine Prog.Emits.bind_stretch hplain (by simp [Prog.Emits, Plain]) (fun _ _ => trivial) ?_
  intro member h₃
  refine Prog.Emits.bind_stretch hplain (by simp [Prog.Emits]) (fun _ _ => trivial) ?_
  intro _ h₄
  apply along_checked cr (t := t)
  · exact along_projectCheck cr _ _ _ _
  · intro project
    refine .bind (by simp [Prog.Emits, Binds, Sql.pair]) fun found => ?_
    exact .bind (by simp [Prog.Emits]) fun user => binds_issueTokens cr svc _ _ _ _

theorem along_validateAssign (roleName text : String) (t : Uuid) :
    (validateAssign cr roleName text t).Along (pairMonitor cr k)
      (fun h r => Checked h t r) h := by
  have hplain : ∀ h e, Plain e.1 → pairRule cr k h e := fun _ _ => Plain.pairRule
  refine Prog.Emits.bind_stretch hplain (by simp [Prog.Emits, Plain]) (fun _ _ => trivial) ?_
  intro visible h₁
  refine Prog.Emits.bind_stretch hplain (by simp [Prog.Emits]) (fun _ _ => trivial) ?_
  intro _ h₂
  exact along_projectCheck cr _ _ _ _

theorem along_assignRole_pair (req : AssignRoleRequest) :
    (assignRole cr svc md req).Along (pairMonitor cr (.rpc svc md (.assignRole req)))
      (fun _ _ => True) [] := by
  have hplain : ∀ h e, Plain e.1 → pairRule cr (.rpc svc md (.assignRole req)) h e :=
    fun _ _ => Plain.pairRule
  refine Prog.Emits.bind_stretch hplain (by simp [Prog.Emits]) (fun _ _ => trivial) ?_
  intro _ h₁
  refine Prog.Emits.bind_stretch hplain (by simp [Prog.Emits]) (fun _ _ => trivial) ?_
  intro t h₂
  refine Prog.Emits.bind_stretch hplain (by simp [Prog.Emits]) (fun _ _ => trivial) ?_
  intro userId h₃
  apply along_checked cr (t := t)
  · exact along_validateAssign cr _ _ _
  · intro project
    have hassign : Binds cr t project (.sql (.assignRole userId req.roleName t project)) :=
      binds_pair rfl
    refine .bind (by simp [Prog.Emits, hassign]) fun _ => ?_
    refine .bind (emits_invalidatePerms (fun _ _ => trivial) (fun _ => trivial) svc _) fun _ => ?_
    simp [audit, Prog.Emits, Binds, Sql.pair]

theorem along_assignRoleBulk_pair (req : AssignRoleBulkRequest) :
    (assignRoleBulk cr svc md req).Along (pairMonitor cr (.rpc svc md (.assignRoleBulk req)))
      (fun _ _ => True) [] := by
  have hplain : ∀ h e, Plain e.1 → pairRule cr (.rpc svc md (.assignRoleBulk req)) h e :=
    fun _ _ => Plain.pairRule
  refine Prog.Emits.bind_stretch hplain (by simp [Prog.Emits]) (fun _ _ => trivial) ?_
  intro _ h₁
  refine Prog.Emits.bind_stretch hplain (by simp [Prog.Emits]) (fun _ _ => trivial) ?_
  intro t h₂
  apply along_checked cr (t := t)
  · exact along_validateAssign cr _ _ _
  · intro project
    refine .bind (emits_assignEach (fun _ _ => trivial) (fun _ => trivial) cr svc
      (fun userId => binds_pair rfl) _) fun out => ?_
    simp [audit, Prog.Emits, Binds, Sql.pair]

/-- create_api_key takes the pair of its caller as it is. -/
theorem along_createApiKey_pair (req : CreateApiKeyRequest) :
    (createApiKey cr svc md req).Along (pairMonitor cr (.rpc svc md (.createApiKey req)))
      (fun _ _ => True) [] := by
  have hplain : ∀ h e, Plain e.1 → pairRule cr (.rpc svc md (.createApiKey req)) h e :=
    fun _ _ => Plain.pairRule
  refine Prog.Emits.bind_stretch hplain (by simp [Prog.Emits]) (fun _ _ => trivial) ?_
  intro uid h₁
  refine Prog.Emits.bind_stretch hplain (by simp [Prog.Emits]) (fun _ _ => trivial) ?_
  intro _ h₂
  refine Prog.Emits.bind_stretch hplain (emits_requireScopes _ _) (fun _ _ => trivial) ?_
  intro _ h₃
  refine Prog.Emits.bind_stretch hplain (by simp [Prog.Emits, Plain]) (fun _ _ => trivial) ?_
  intro keyId h₄
  refine Prog.Emits.bind_stretch hplain (by simp [Prog.Emits, Plain]) (fun _ _ => trivial) ?_
  intro secret h₅
  refine Prog.Emits.bind_stretch hplain ?_ (fun _ _ => trivial) ?_
  · unfold apiKeyExpiry addSeconds
    simp [Prog.Emits, Plain]
  intro expires h₆
  apply (Prog.along_bind _ _ _ _ _).mpr
  apply (along_activeTenant _).mpr
  refine ⟨fun _ => trivial, fun _ _ => trivial, ?_⟩
  intro t ht
  apply (Prog.along_bind _ _ _ _ _).mpr
  apply (along_parseOptProject _ _).mpr
  have hcreate : ∀ hash project, Binds cr t project
      (.sql (.createApiKey keyId uid hash req.name req.scopes expires t project)) :=
    fun _ _ => binds_pair rfl
  refine ⟨?_, fun _ _ => trivial, ?_⟩
  · intro _
    apply along_binds t none
    · simp only [audit, Prog.Emits, Prog.along_bind, along_query, along_auditAs, along_sys,
        Prog.along_pure, Prog.then_ok, Prog.then_error, Monitor.emitting_ok, hcreate]
      simp [Binds, Sql.pair]
    · simp
  · intro p hne hp
    apply along_binds t (some p)
    · simp only [audit, Prog.Emits, Prog.along_bind, along_query, along_auditAs, along_sys,
        Prog.along_pure, Prog.then_ok, Prog.then_error, Monitor.emitting_ok, hcreate]
      simp [Binds, Sql.pair]
    · intro q hq
      obtain rfl : p = q := Option.some.inj hq
      refine .metadata ?_ hne hp
      simp only [activeTenantOpt] at ht
      split at ht
      · cases ht
      · exact ht

/-- validate_token answers with the claims it has parsed. -/
theorem along_validateToken_pair (req : ValidateTokenRequest) :
    (validateToken cr svc req).Along (pairMonitor cr (.rpc svc md (.validateToken req)))
      (fun h r => ∀ resp, r = .ok resp → ∃ claims,
        ⟨.sys (.jwtParseAccess req.accessToken), some claims⟩ ∈ h ∧
          resp.tenantId = claims.tenantId ∧ resp.projectId = claims.projectId) [] := by
  have hplain : ∀ h e, Plain e.1 → pairRule cr (.rpc svc md (.validateToken req)) h e :=
    fun _ _ => Plain.pairRule
  apply (Prog.along_bind _ _ _ _ _).mpr
  apply (along_sys _ _).mpr
  intro parsed
  refine ⟨trivial, ?_⟩
  apply (Prog.along_bind _ _ _ _ _).mpr
  apply (Prog.along_okOr _ _ _ _ _).mpr
  refine ⟨by simp, ?_⟩
  intro claims hclaims
  subst hclaims
  refine Prog.Emits.bind_stretch hplain (plain_refuseIfDenied svc _) (by simp) ?_
  intro _ h₁
  refine Prog.Emits.bind_stretch hplain (by simp [Prog.Emits]) (by simp) ?_
  intro userId h₂
  refine Prog.Emits.bind_stretch hplain (by simp [Prog.Emits, Plain]) (by simp) ?_
  intro active h₃
  refine Prog.Emits.bind_stretch hplain (by simp [Prog.Emits]) (by simp) ?_
  intro _ h₄
  refine Prog.Emits.bind_stretch hplain (plain_tokenTenant cr _ _) (by simp) ?_
  intro tenant h₅
  refine Prog.Emits.bind_stretch hplain (by simp [tokenProject, Prog.Emits]) (by simp) ?_
  intro project h₆
  refine Prog.Emits.bind_stretch hplain (plain_tokenRoles _ _ _) (by simp) ?_
  intro roles h₇
  refine Prog.Emits.bind_stretch hplain (plain_tokenPermissions cr svc _ _ _ _) (by simp) ?_
  intro permissions h₈ resp hresp
  obtain rfl := Except.ok.inj hresp
  exact ⟨claims, by simp, rfl, rfl⟩

end Handlers

theorem along_pairBody (cr : Crates) (k : Call) :
    (k.body cr).Along (pairMonitor cr k) (pairPost k) [] := by
  have hbinds : k.binds = false → (∀ h r, pairPost k h r) →
      (k.body cr).Along (pairMonitor cr k) (pairPost k) [] := by
    intro hk hpost
    refine Prog.Along.mono (fun h r _ => hpost h r) ((unbound_body cr k hk).along_of ?_ [])
    exact fun h e he => Unbound.pairRule he
  cases k with
  | rpc svc md r =>
    cases r
    case refresh req => exact along_wrap _ (along_refresh_pair cr svc md req)
    case switchTenant req => exact along_wrap _ (along_switchTenant_pair cr svc md req)
    case assignRole req => exact along_wrap _ (along_assignRole_pair cr svc md req)
    case assignRoleBulk req => exact along_wrap _ (along_assignRoleBulk_pair cr svc md req)
    case createApiKey req => exact along_wrap _ (along_createApiKey_pair cr svc md req)
    case validateToken req =>
      apply (Prog.along_bind _ _ _ _ _).mpr
      apply (along_validateToken_pair cr svc md req).mono
      rintro h (e | resp) hclaims
      · trivial
      · exact hclaims resp rfl
    all_goals exact hbinds rfl fun _ _ => trivial
  | start env => exact hbinds rfl fun _ _ => trivial
  | profileCreationFailed userId reason => exact hbinds rfl fun _ _ => trivial

/-! ## Runs -/

/-- The tokens the service hands out: access, MFA and ID tokens. -/
def issuedToken : Event Resp → Option String
  | ⟨.sys (.jwtIssue ..), token⟩ => token
  | ⟨.sys (.jwtIssueMfa ..), token⟩ => token
  | ⟨.sys (.jwtIssueIdToken ..), token⟩ => token
  | _ => none

/-- The caller of a call got its tenant and project from validate_token, for a
token of the service. -/
def validatedAs (w : World) (md : MetadataMap) (i : Nat) : Prop :=
  match w.callOf i, w.result i with
  | some (.rpc _ _ (.validateToken req)), some (.ok (.token resp)) =>
    (∃ x ∈ w.log, issuedToken x.2 = some req.accessToken) ∧
      metaOf md "x-tenant-id" = resp.tenantId ∧ metaOf md "x-project-id" = resp.projectId
  | _, _ => False

/-- Every call starts with such metadata, or without a tenant and a project. -/
def fromToken (w : World) : Act → Prop
  | .start (.rpc _ md _) =>
    (metaOf md "x-tenant-id" = "" ∧ metaOf md "x-project-id" = "") ∨
    ∃ i ∈ List.range w.threads.length, validatedAs w md i
  | _ => True

instance (w : World) (md : MetadataMap) (i : Nat) : Decidable (validatedAs w md i) := by
  unfold validatedAs
  split <;> infer_instance

instance (w : World) (l : Act) : Decidable (fromToken w l) := by
  unfold fromToken
  split <;> infer_instance

/-- What is documented of the uuid crate and of the JWTs of `common`: a UUID
parses back, an access token keeps its claims, and `parse_access` rejects MFA
and ID tokens. -/
structure TokenCrates (cr : Crates) : Prop where
  uuid : ∀ u, cr.parseUuid (cr.formatUuid u) = some u
  access : ∀ c sub email tenant project token now claims,
    cr.jwtIssue c sub email tenant project = some token →
    cr.jwtParseAccess now token = some claims →
    claims.tenantId = tenant ∧ claims.projectId = project
  mfa : ∀ c sub ttl token now, cr.jwtIssueMfa c sub ttl = some token →
    cr.jwtParseAccess now token = none
  idToken : ∀ c sub email aud nonce issuer token now,
    cr.jwtIssueIdToken c sub email aud nonce issuer = some token →
    cr.jwtParseAccess now token = none

/-- Both texts name a project and its tenant. -/
def PairedText (cr : Crates) (db : Db) (tenant project : String) : Prop :=
  ∃ t p, tenant = cr.formatUuid t ∧ project = cr.formatUuid p ∧ Paired db t p

/-- An access token with a project names the tenant of the project. -/
def PairedToken (cr : Crates) (db : Db) : Event Resp → Prop
  | ⟨.sys (.jwtIssue _ _ tenant project), some _⟩ => project ≠ "" → PairedText cr db tenant project
  | _ => True

structure ProjectTenancy (cr : Crates) (w : World) : Prop where
  rows : ProjectRows w.state.db
  tokens : ∀ x ∈ w.log, PairedToken cr w.state.db x.2

/-- The same for the pairs in circulation: those the calls in flight know. -/
structure PairInv (cr : Crates) (w : World) : Prop extends ProjectTenancy cr w where
  tracks : Pool.Tracks (pairMonitor cr) pairPost (fun _ => []) w
  known : ∀ i k t p, w.callOf i = some k → Known cr (w.hist i) k t p → Paired w.state.db t p
  replies : ∀ i s r, (i, (⟨.sys s, r⟩ : Event Resp)) ∈ w.log → ∃ c, r = s.exec cr c

section Runs

variable {cr : Crates} {conn : DbRole} {w : World}

theorem PairedToken.mono {db db' : Db} {e : Event Resp} (h : PairedToken cr db e)
    (hsub : db.projects ⊆ db'.projects) : PairedToken cr db' e := by
  unfold PairedToken at h ⊢
  split
  · intro hne
    obtain ⟨t, p, ht, hp, hpaired⟩ := h hne
    exact ⟨t, p, ht, hp, hpaired.mono hsub⟩
  · trivial

/-- What a token of the service says, the service has written into it. -/
theorem PairInv.validated (hcr : TokenCrates cr) (h : PairInv cr w) {md : MetadataMap} {i : Nat}
    (hv : validatedAs w md i) (hne : metaOf md "x-project-id" ≠ "") :
    PairedText cr w.state.db (metaOf md "x-tenant-id") (metaOf md "x-project-id") := by
  unfold validatedAs at hv
  split at hv
  · next svc md' req resp hcall hresult =>
    obtain ⟨⟨⟨j, o, r⟩, hx, htoken⟩, ht, hp⟩ := hv
    obtain ⟨k, hk, hpost⟩ := h.tracks.result_history hresult
    cases hcall.symm.trans hk
    obtain ⟨claims, hparsed, htenant, hproject⟩ := hpost
    obtain ⟨c, hparse⟩ := h.replies i _ _ (Pool.mem_hist.1 hparsed)
    have hparse : cr.jwtParseAccess c.now req.accessToken = some claims := hparse.symm
    rw [ht, hp, htenant, hproject]
    rw [hp, hproject] at hne
    cases o with
    | sql s => cases htoken
    | redis q => cases htoken
    | sys s =>
      obtain ⟨c', hissue⟩ := h.replies j s r hx
      cases s <;> try exact (Option.some_ne_none _ htoken.symm).elim
      case jwtIssue sub email tenant project =>
        obtain rfl : r = some req.accessToken := htoken
        obtain ⟨ht', hp'⟩ := hcr.access c' _ _ _ _ _ _ claims hissue.symm hparse
        rw [hp'] at hne
        rw [ht', hp']
        exact h.tokens _ hx hne
      case jwtIssueMfa sub ttl =>
        obtain rfl : r = some req.accessToken := htoken
        rw [hcr.mfa c' _ _ _ _ hissue.symm] at hparse
        cases hparse
      case jwtIssueIdToken sub email aud nonce issuer =>
        obtain rfl : r = some req.accessToken := htoken
        rw [hcr.idToken c' _ _ _ _ _ _ _ hissue.symm] at hparse
        cases hparse
  · exact hv.elim

/-- What a call that starts knows, it knows from its caller. -/
theorem PairInv.started (hcr : TokenCrates cr) (h : PairInv cr w) {k : Call}
    (hl : fromToken w (.start k)) {t p : Uuid} (hk : Known cr [] k t p) :
    Paired w.state.db t p := by
  cases hk with
  | checked hcheck => cases hcheck
  | read hread hp => cases hread
  | metadata ht hne hp =>
    rcases hl with ⟨-, hempty⟩ | ⟨i, -, hv⟩
    · exact absurd hempty hne
    · obtain ⟨t', p', htext, hptext, hpaired⟩ := h.validated hcr hv hne
      rw [htext, hcr.uuid] at ht
      rw [hptext, hcr.uuid] at hp
      cases ht
      cases hp
      exact hpaired

/-- The state after a statement that a call was allowed to issue. -/
theorem PairInv.exec (h : PairInv cr w) {i : Nat} {o : Op} (hp : w.pending i = some o)
    (c : Choice) :
    w.state.db.projects ⊆ ((machine cr conn).exec o c w.state).2.db.projects ∧
    ProjectRows ((machine cr conn).exec o c w.state).2.db ∧
    (∀ t p, shows t p ⟨o, ((machine cr conn).exec o c w.state).1⟩ → Paired w.state.db t p) ∧
    PairedToken cr w.state.db ⟨o, ((machine cr conn).exec o c w.state).1⟩ := by
  obtain ⟨k, hk, hrule⟩ := h.tracks.pending_history hp ((machine cr conn).exec o c w.state).1
  cases o with
  | redis q => exact ⟨List.Subset.refl _, h.rows, fun _ _ hs => hs.elim, trivial⟩
  | sys s =>
    refine ⟨List.Subset.refl _, h.rows, fun _ _ hs => hs.elim, ?_⟩
    cases s <;> try trivial
    case jwtIssue sub email tenant project =>
      generalize ((machine cr conn).exec (.sys (.jwtIssue sub email tenant project)) c w.state).1 =
        token at hrule ⊢
      cases token with
      | none => trivial
      | some token =>
        intro hne
        obtain ⟨t, p, ht, hp, hknown⟩ := hrule hne
        exact ⟨t, p, ht, hp, h.known i k t p hk hknown⟩
  | sql s =>
    rcases Sql.run_cases conn s c w.state.db with ⟨e, he⟩ | ⟨r, db', hx, hr⟩
    · refine ⟨?_, ?_, ?_, ?_⟩
      · rw [exec_sql_db, he]
        exact List.Subset.refl _
      · rw [exec_sql_db, he]
        exact h.rows
      · intro t p hs
        rw [exec_sql_reply, he] at hs
        cases s <;> exact hs.elim
      · trivial
    · rw [exec_sql_db, exec_sql_reply, hr]
      refine ⟨projects_exec hx, ?_, fun t p hs => shows_exec hx h.rows hs, trivial⟩
      apply projectRows_exec hx ?_ h.rows
      intro t p hpair
      exact h.known i k t p hk (hrule t p hpair)

theorem pairInv_next (hcr : TokenCrates cr) {l : Act} (hl : fromToken w l) (h : PairInv cr w) :
    PairInv cr (Pool.next (machine cr conn) (Call.body cr) w l) := by
  have htracks := Pool.tracks_next (M := machine cr conn) (along_pairBody cr) l h.tracks
  rcases Pool.next_cases (machine cr conn) (Call.body cr) w l with
    ⟨k₀, rfl, hw⟩ | ⟨j, c, k₀, o, f, rfl, hj, hw⟩ | ⟨j, c, -, -, hw⟩ | ⟨e, -, hw⟩
  · refine ⟨⟨?_, ?_⟩, htracks, ?_, ?_⟩
    · rw [hw]
      exact h.rows
    · rw [hw]
      exact h.tokens
    · intro i k t p hcall hknown
      have hhist : (Pool.next (machine cr conn) (Call.body cr) w (.start k₀)).hist i = w.hist i := by
        rw [hw]
        rfl
      rw [hhist] at hknown
      rw [hw]
      rcases Pool.callOf_of_next hcall with hcall | ⟨hl', rfl⟩
      · exact h.known i k t p hcall hknown
      · cases hl'
        rw [Pool.hist_fresh h.tracks.fresh (Nat.le_refl _)] at hknown
        exact h.started hcr hl hknown
    · rw [hw]
      exact h.replies
  · have hp : w.pending j = some o := Pool.pending_eq_some.2 ⟨k₀, f, hj⟩
    obtain ⟨hsub, hrows, hshows, htoken⟩ := h.exec hp c
    have hdb : (Pool.next (machine cr conn) (Call.body cr) w (.step j c)).state.db =
        ((machine cr conn).exec o c w.state).2.db := by rw [hw]
    have hlog : ∀ x ∈ (Pool.next (machine cr conn) (Call.body cr) w (.step j c)).log,
        x ∈ w.log ∨ x = (j, ⟨o, ((machine cr conn).exec o c w.state).1⟩) := by
      rw [hw]
      simp
    refine ⟨⟨?_, ?_⟩, htracks, ?_, ?_⟩
    · rw [hdb]
      exact hrows
    · intro x hx
      rw [hdb]
      rcases hlog x hx with hx | rfl
      · exact (h.tokens x hx).mono hsub
      · exact htoken.mono hsub
    · intro i k t p hcall hknown
      rw [hdb]
      have hcall : w.callOf i = some k := by
        rcases Pool.callOf_of_next hcall with hcall | ⟨hl', -⟩
        · exact hcall
        · cases hl'
      rcases Pool.hist_next (machine cr conn) (Call.body cr) w (.step j c) i with
        hhist | ⟨c', o', hl', hp', hhist⟩
      · rw [hhist] at hknown
        exact (h.known i k t p hcall hknown).mono hsub
      · cases hl'
        cases hp.symm.trans hp'
        rw [hhist] at hknown
        rcases hknown.snoc with hknown | hs
        · exact (h.known _ k t p hcall hknown).mono hsub
        · exact (hshows t p hs).mono hsub
    · intro i s r hx
      rcases hlog _ hx with hx | heq
      · exact h.replies i s r hx
      · cases heq
        exact ⟨c, rfl⟩
  · rw [hw]
    exact h
  · rw [hw]
    rw [hw] at htracks
    exact ⟨⟨h.rows, h.tokens⟩, htracks, h.known, h.replies⟩

theorem pairInv_init (redis : Redis) : PairInv cr (Pool.init ⟨migrated, redis⟩) := by
  refine ⟨⟨projectRows_migrated, ?_⟩, Pool.tracks_init _, ?_, ?_⟩
  · intro x hx
    cases hx
  · intro i k t p hk
    cases hk
  · intro i s r hx
    cases hx

/-- In every run of the service in which callers act in the tenant and project
of their token, a project stays with its tenant. -/
theorem projectTenancy_run (hcr : TokenCrates cr) (redis : Redis) (ls : List Act)
    (hls : Pool.Each (machine cr conn) (Call.body cr) fromToken (Pool.init ⟨migrated, redis⟩) ls) :
    ProjectTenancy cr (runFrom cr conn ⟨migrated, redis⟩ ls) :=
  (Pool.run_inv (fun _ _ hl h => pairInv_next hcr hl h) hls (pairInv_init redis)).toProjectTenancy

end Runs

/-! ## A run -/

namespace Sample

/-- ID tokens with a purpose of their own. -/
def jwtCrates : Crates :=
  { crates with
    jwtIssueIdToken := fun c sub email _ nonce _ =>
      some (encodeClaims ⟨sub, email, "", "", "id", nonce, timestamp c.now + 900⟩) }

theorem jwtIssue_eq (c : Choice) (sub email tenant project : String) :
    jwtCrates.jwtIssue c sub email tenant project =
      some (encodeClaims ⟨sub, email, tenant, project, "", c.text, timestamp c.now + 900⟩) := rfl

theorem jwtParseAccess_eq (now : DateTime) (token : String) :
    jwtCrates.jwtParseAccess now token =
      (decodeClaims now token).filter fun k => k.purpose == "" := rfl

theorem parseAccess_purpose {k : Claims} (hk : k.purpose ≠ "") (now : DateTime) :
    jwtCrates.jwtParseAccess now (encodeClaims k) = none := by
  rw [jwtParseAccess_eq]
  apply Option.filter_eq_none_iff.mpr
  intro claims hparse
  obtain ⟨-, -, -, -, hpurpose, -⟩ := decode_encode hparse
  simpa [hpurpose] using hk

theorem tokenCrates : TokenCrates jwtCrates where
  uuid := by
    intro u
    have hparse : jwtCrates.parseUuid = parseUuid := rfl
    have hformat : jwtCrates.formatUuid = formatUuid := rfl
    rw [hparse, hformat]
    exact parse_format u
  access := by
    intro c sub email tenant project token now claims hissue hparse
    rw [jwtIssue_eq] at hissue
    rw [← Option.some.inj hissue, jwtParseAccess_eq] at hparse
    obtain ⟨hparse, -⟩ := Option.filter_eq_some_iff.mp hparse
    obtain ⟨-, -, ht, hp, -⟩ := decode_encode hparse
    exact ⟨ht, hp⟩
  mfa := by
    intro c sub ttl token now hissue
    have hmfa : jwtCrates.jwtIssueMfa c sub ttl =
      some (encodeClaims ⟨sub, "", "", "", "mfa", c.text, timestamp c.now + ttl⟩) := rfl
    rw [hmfa] at hissue
    rw [← Option.some.inj hissue]
    exact parseAccess_purpose (by simp) now
  idToken := by
    intro c sub email aud nonce issuer token now hissue
    have hid : jwtCrates.jwtIssueIdToken c sub email aud nonce issuer =
      some (encodeClaims ⟨sub, email, "", "", "id", nonce, timestamp c.now + 900⟩) := rfl
    rw [hid] at hissue
    rw [← Option.some.inj hissue]
    exact parseAccess_purpose (by simp) now

/-- The demo user of a start switches into the default project, has the new
token validated, and mints a key with the metadata it gives. -/
def keyRun : List Act :=
  let step := fun n : Nat => choice 0 (BitVec.ofNat 128 n) ""
  let token := encodeClaims ⟨formatUuid 30, "demo@iam.local", formatUuid defaultTenantId,
    formatUuid defaultProjectId, "", "", 900⟩
  alone 0 (.start ⟨"", "", "console", "secret", "", "demo@iam.local", "demo1234"⟩)
    [step 0, step 0, step 0, step 30, step 0] ++
  alone 1 (.rpc svc [("x-user-id", formatUuid 30)]
    (.switchTenant ⟨formatUuid defaultTenantId, formatUuid defaultProjectId⟩))
    (List.replicate 7 (step 0)) ++
  alone 2 (.rpc svc [] (.validateToken ⟨token⟩)) (List.replicate 6 (step 0)) ++
  alone 3 (.rpc svc [("x-user-id", formatUuid 30), ("x-tenant-id", formatUuid defaultTenantId),
    ("x-project-id", formatUuid defaultProjectId)] (.createApiKey ⟨"key", [], 0⟩))
    (List.replicate 4 (step 0))

end Sample

/-- The key is stored with the project and its tenant. -/
example : (runFrom Sample.jwtCrates .superuser ⟨migrated, []⟩ Sample.keyRun).state.db.apiKeys.map
    (fun k => (k.tenantId, k.projectId)) = [(defaultTenantId, some defaultProjectId)] := by
  decide +kernel

theorem projectTenancy_keyRun : ProjectTenancy Sample.jwtCrates
    (runFrom Sample.jwtCrates .superuser ⟨migrated, []⟩ Sample.keyRun) :=
  projectTenancy_run Sample.tokenCrates [] Sample.keyRun (by decide +kernel)

end IamAuth
