import IamAuth.Deleted
import IamAuth.Interleave.Latch

/-!
# Removed members and deleted accounts

validate_token and validate_api_key ask the database on every call whether the
account is there and not deleted and whether its membership stands. Neither asks
the permission cache before that, so no cached entry lets a revoked user in.
-/

set_option autoImplicit false

namespace IamAuth

open Interleave Relational

/-! ## Events -/

/-- `u` has been removed from `tenant`. -/
def removes (u tenant : Uuid) : Event Resp → Bool
  | ⟨.sql (.removeMember id t), .ok _⟩ => id == u && t == tenant
  | _ => false

/-- add_member has added `u` to `tenant`. -/
def readds (u tenant : Uuid) : Event Resp → Bool
  | ⟨.sql (.addMember id t), .ok _⟩ => id == u && t == tenant
  | _ => false

/-- `u` has been made a member of `tenant`, by add_member, by the last statement
of a registration or of a start, or as the creator of the tenant. -/
def enrolls (u tenant : Uuid) : Event Resp → Bool
  | ⟨.sql (.addMember id t), .ok _⟩ => id == u && t == tenant
  | ⟨.sql (.createMembership id t), .ok _⟩ => id == u && t == tenant
  | ⟨.sql (.createTenantWithAdmin _ _ id), .ok t⟩ => id == u && t.id == tenant
  | _ => false

/-- `u` has been deleted, softly or not. -/
def deletes (u : Uuid) : Event Resp → Bool
  | ⟨.sql (.deleteUserEventSoft id ..), .ok _⟩ => id == u
  | _ => false

def restores (u : Uuid) : Event Resp → Bool
  | ⟨.sql (.restoreUserEvent id _ _), .ok _⟩ => id == u
  | _ => false

theorem removes_sql {u tenant : Uuid} {e : Event Resp} (h : removes u tenant e = true) :
    ∃ s r, e = ⟨.sql s, .ok r⟩ := by
  obtain ⟨o, r⟩ := e
  cases o with
  | redis c => cases h
  | sys s => cases h
  | sql s => cases s <;> cases r <;> first | exact ⟨_, _, rfl⟩ | cases h

theorem deletes_sql {u : Uuid} {e : Event Resp} (h : deletes u e = true) :
    ∃ s r, e = ⟨.sql s, .ok r⟩ := by
  obtain ⟨o, r⟩ := e
  cases o with
  | redis c => cases h
  | sys s => cases h
  | sql s => cases s <;> cases r <;> first | exact ⟨_, _, rfl⟩ | cases h

/-! ## Conditions on the database -/

def NoMember (u tenant : Uuid) (db : Db) : Prop :=
  ∀ m ∈ db.memberships, Repo.membershipKey m ≠ (u, tenant)

section Statement

variable {conn : DbRole} {c : Choice} {s : Sql} {db db' : Db} {u tenant : Uuid}

theorem NoMember.not_active (h : NoMember u tenant db) : Repo.isActiveMember u tenant db = false := by
  unfold Repo.isActiveMember
  rw [Bool.and_eq_false_iff]
  left
  apply List.any_eq_false.mpr
  intro m hm
  simp [h m hm]

theorem Deleted.not_active (h : Deleted u db) : Repo.isUserActive u db = false := by
  unfold Repo.isUserActive
  split
  · next x hx =>
    have hdeleted := h x (List.mem_of_find?_eq_some hx) (getUserById_id hx)
    simpa using hdeleted
  · rfl

theorem NoMember.createMembership (hdb : NoMember u tenant db) {id t : Uuid} {r : Unit}
    (hne : (id == u && t == tenant) = false) (h : Repo.createMembership id t db = .ok (r, db')) :
    NoMember u tenant db' := by
  rcases createMembership_ok h with rfl | rfl
  · exact hdb
  · intro m hm
    rcases List.mem_append.mp hm with hm | hm
    · exact hdb m hm
    · obtain rfl := List.mem_singleton.mp hm
      simpa [Repo.membershipKey] using hne

theorem noMember_exec {r : Reply s} (hopen : enrolls u tenant ⟨.sql s, .ok r⟩ = false)
    (h : s.exec conn c db = .ok (r, db')) (hdb : NoMember u tenant db) : NoMember u tenant db' := by
  by_cases hw : .memberships ∈ s.writes
  · cases s <;> simp only [Sql.writes, List.mem_cons, List.not_mem_nil, reduceCtorEq, or_self,
      or_false, false_or] at hw
    case deleteUserEventSoft id hard eventType payload =>
      have hframe := frame_insertOutbox (deleteUserEventSoft_ok h)
      rw [NoMember, hframe.memberships (by simp)]
      split
      · exact fun m hm => hdb m (mem_deleteWhere.1 hm).1
      · exact hdb
    case createMembership id t => exact hdb.createMembership hopen h
    case addMember id t => exact hdb.createMembership hopen h
    case removeMember id t =>
      cases h
      exact fun m hm => hdb m (mem_deleteWhere.1 hm).1
    case createTenantWithAdmin slug name creator =>
      obtain ⟨db₁, db₂, rfl, h₁, h₂, h₃⟩ := createTenantWithAdmin_ok h
      rw [NoMember, (frame_insertUserRoles h₃).memberships (by simp)]
      have hkept : NoMember u tenant db₁ := by
        rw [insertTenant_ok h₁]
        exact hdb
      exact hkept.createMembership hopen h₂
  · rw [NoMember, (Sql.exec_frame h).memberships hw]
    exact hdb

theorem noMember_removed {r : Reply s} (hclose : removes u tenant ⟨.sql s, .ok r⟩ = true)
    (h : s.exec conn c db = .ok (r, db')) : NoMember u tenant db' := by
  cases s <;> try exact absurd hclose Bool.false_ne_true
  case removeMember id t =>
    cases h
    intro m hm hkey
    have hkept := (mem_deleteWhere.1 hm).2
    simp only [removes, Bool.and_eq_true, beq_iff_eq] at hclose
    simp [hclose, hkey] at hkept

theorem deleted_deleted {r : Reply s} (hclose : deletes u ⟨.sql s, .ok r⟩ = true)
    (h : s.exec conn c db = .ok (r, db')) : Deleted u db' := by
  cases s <;> try exact absurd hclose Bool.false_ne_true
  case deleteUserEventSoft id hard eventType payload =>
    obtain rfl : id = u := by simpa [deletes] using hclose
    rw [Deleted, (frame_insertOutbox (deleteUserEventSoft_ok h)).users (by simp)]
    cases hard with
    | true =>
      intro x hx hxu
      have hkept := (mem_deleteWhere.1 hx).2
      simp [hxu] at hkept
    | false =>
      intro x hx hxu
      obtain ⟨y, hy, rfl⟩ := mem_updateWhere.1 hx
      by_cases hp : (y.id == id && y.deletedAt.isNone) = true
      · rw [if_pos hp]
        rfl
      · rw [if_neg hp] at hxu ⊢
        simpa [hxu, Option.isSome_iff_ne_none] using hp

end Statement

theorem latch_of_db {cr : Crates} {conn : DbRole} {closes opens : Event Resp → Bool} {I : Db → Prop}
    (hsql : ∀ e, closes e = true → ∃ s r, e = ⟨.sql s, .ok r⟩)
    (hclose : ∀ (s : Sql) (c : Choice) (db db' : Db) (r : Reply s),
      closes ⟨.sql s, .ok r⟩ = true → s.exec conn c db = .ok (r, db') → I db')
    (hkeep : ∀ (s : Sql) (c : Choice) (db db' : Db) (r : Reply s),
      opens ⟨.sql s, .ok r⟩ = false → s.exec conn c db = .ok (r, db') → I db → I db') :
    Pool.Latch (machine cr conn) closes opens (fun st : State => I st.db) where
  close := by
    intro o c st hc
    obtain ⟨s, r, he⟩ := hsql _ hc
    obtain ⟨rfl, hr⟩ := Sigma.mk.inj he
    have hr := eq_of_heq hr
    rw [hr] at hc
    obtain ⟨-, db', hx, hs⟩ := exec_sql_ok hr
    rw [hs]
    exact hclose s c st.db db' r hc hx
  keep := by
    intro o c st ho hI
    cases o with
    | redis q => rwa [exec_redis_db]
    | sys q => rwa [exec_sys]
    | sql s =>
      rcases Sql.run_cases conn s c st.db with ⟨e, he⟩ | ⟨r, db', hx, hr⟩
      · rw [exec_sql_db, he]
        exact hI
      · rw [exec_sql_reply, hr] at ho
        rw [exec_sql_db, hr]
        exact hkeep s c st.db db' r ho hx hI
  keep_env := by
    intro e st hI
    rwa [env_db]

/-! ## What the two calls have asked -/

/-- The tenant an access token is bound to. -/
def boundTenant (cr : Crates) (claims : Claims) : Option Uuid :=
  if claims.tenantId.isEmpty then none else cr.parseUuid claims.tenantId

/-- The call presents an access token of `u` bound to `tenant`, or an API key
that `u` has minted in `tenant`. Reading it is the first thing the call does. -/
def Presents (cr : Crates) : Call → List (Event Resp) → Uuid → Option Uuid → Prop
  | .rpc _ _ (.validateToken req), h, u, tenant => ∃ claims,
      h.head? = some ⟨.sys (.jwtParseAccess req.accessToken), some claims⟩ ∧
      cr.parseUuid claims.sub = some u ∧ boundTenant cr claims = tenant
  | .rpc _ _ (.validateApiKey req), h, u, tenant => ∃ row : ApiKeyRow,
      h.head? = some ⟨.sql (.getApiKeyByHash (hashToken cr req.apiKey)), .ok (some row)⟩ ∧
      row.userId = u ∧ some row.tenantId = tenant
  | _, _, _, _ => False

/-- The account, and the membership if there is one, have been found standing. -/
structure Admitted (h : List (Event Resp)) (u : Uuid) (tenant : Option Uuid) : Prop where
  account : ⟨.sql (.isUserActive u), .ok true⟩ ∈ h ∨ ∃ user : UserRow,
    ⟨.sql (.getUserById u), .ok (some user)⟩ ∈ h ∧ user.deletedAt = none
  member : ∀ t, tenant = some t → ⟨.sql (.isActiveMember u t), .ok true⟩ ∈ h

theorem Admitted.append {h : List (Event Resp)} {u : Uuid} {tenant : Option Uuid}
    (hadm : Admitted h u tenant) (h' : List (Event Resp)) : Admitted (h ++ h') u tenant where
  account := by
    rcases hadm.account with hactive | ⟨user, hfound, hlive⟩
    · exact .inl (List.mem_append_left _ hactive)
    · exact .inr ⟨user, List.mem_append_left _ hfound, hlive⟩
  member t ht := List.mem_append_left _ (hadm.member t ht)

/-- What each call has done when it succeeds. -/
def accessPost (cr : Crates) : Call → List (Event Resp) → Except Failure Response → Prop
  | .rpc svc md (.validateToken req), h, .ok _ =>
    ∀ u tenant, Presents cr (.rpc svc md (.validateToken req)) h u tenant → Admitted h u tenant
  | .rpc svc md (.validateApiKey req), h, .ok _ =>
    ∀ u tenant, Presents cr (.rpc svc md (.validateApiKey req)) h u tenant → Admitted h u tenant
  | .rpc _ md (.removeMember req), h, .ok _ => ∀ u tenant, cr.parseUuid req.userId = some u →
    activeTenantOpt cr md = some tenant → ⟨.sql (.removeMember u tenant), .ok ()⟩ ∈ h
  | .rpc _ _ (.deleteUser req), h, .ok _ => ∀ u, cr.parseUuid req.userId = some u →
    ⟨.sql (.deleteUserEventSoft u req.hard typeUserDeleted (.userDeleted req.userId req.hard)),
      .ok ()⟩ ∈ h
  | _, _, _ => True

def accessMonitor : Monitor Resp (List (Event Resp)) := .history fun _ _ => True

section Handlers

variable (cr : Crates) (svc : AuthSvc) (md : MetadataMap)

theorem along_removeMember_access (req : UserIdRequest) :
    ((Rpc.removeMember req).handle cr svc md).Along accessMonitor
      (accessPost cr (.rpc svc md (.removeMember req))) [] := by
  simp [Rpc.handle, removeMember, accessMonitor, accessPost]
  intro hperm tenant htenant u hu
  constructor <;> intro haudit u' tenant' hu' htenant' <;> simp_all

theorem along_deleteUser_access (req : DeleteUserRequest) :
    ((Rpc.deleteUser req).handle cr svc md).Along accessMonitor
      (accessPost cr (.rpc svc md (.deleteUser req))) [] := by
  simp [Rpc.handle, deleteUser, accessMonitor, accessPost, audit]
  intro hperm u hu
  constructor <;> intro haudit u' hu' <;> simp_all

theorem emits_any {α : Type} (p : Handler α) : p.Emits fun _ => True :=
  Prog.along_trivial (fun _ _ => trivial) (fun _ _ => trivial) p ()

/-- Whatever comes next, the call stays admitted. -/
theorem along_admitted {α : Type} (p : Handler α) {u : Uuid} {tenant : Option Uuid}
    {e : Event Resp} {h : List (Event Resp)}
    {post : List (Event Resp) → Except Failure α → Prop}
    (hpost : ∀ h' r, Admitted (e :: h') u tenant → post (e :: h') r)
    (hadm : Admitted (e :: h) u tenant) : p.Along accessMonitor post (e :: h) := by
  apply Prog.Emits.along_stretch (P := fun _ => True) (fun _ _ _ => trivial) (emits_any p)
  intro h' r
  exact hpost (h ++ h') r (hadm.append h')

theorem along_validateApiKey_access (req : ValidateApiKeyRequest) :
    ((Rpc.validateApiKey req).handle cr svc md).Along accessMonitor
      (accessPost cr (.rpc svc md (.validateApiKey req))) [] := by
  simp [Rpc.handle, validateApiKey, accessMonitor, accessPost]
  rintro found row rfl hrevoked
  apply Prog.Emits.then_stretch (P := fun _ => True) (fun _ _ _ => trivial) (emits_any _)
  · intro h' e
    trivial
  intro _ h'
  simp [accessPost]
  intro owner user howner hlive perms touched u tenant
  rintro ⟨row', hhead, rfl, rfl⟩
  obtain rfl : row = row' := by simpa using hhead
  subst howner
  constructor
  · exact .inr ⟨user, by simp, hlive⟩
  · rintro t ⟨rfl⟩
    simp

theorem along_validateToken_access (req : ValidateTokenRequest) :
    ((Rpc.validateToken req).handle cr svc md).Along accessMonitor
      (accessPost cr (.rpc svc md (.validateToken req))) [] := by
  simp only [Rpc.handle, validateToken, accessMonitor, Prog.along_bind, along_sys,
    Monitor.history_ok, Monitor.history_upd, Prog.then_ok, Prog.along_okOr]
  refine fun r => ⟨trivial, fun _ => trivial, ?_⟩
  rintro claims rfl
  apply Prog.Emits.then_stretch (P := fun _ => True) (fun _ _ _ => trivial) (emits_any _)
  · intro h' e
    trivial
  intro _ h'
  simp [accessPost]
  intro u hu
  have hpost : ∀ h', Admitted (⟨.sys (.jwtParseAccess req.accessToken), some claims⟩ :: h') u
      (boundTenant cr claims) → ∀ resp, accessPost cr (.rpc svc md (.validateToken req))
        (⟨.sys (.jwtParseAccess req.accessToken), some claims⟩ :: h') (.ok resp) := by
    rintro h' hadm resp u' tenant ⟨claims', hhead, hu', rfl⟩
    obtain rfl : claims = claims' := by simpa using hhead
    obtain rfl : u = u' := Option.some.inj (hu.symm.trans hu')
    exact hadm
  have hrest : ∀ tenant h', Admitted (⟨.sys (.jwtParseAccess req.accessToken), some claims⟩ :: h') u
      (boundTenant cr claims) → Prog.Along accessMonitor (do
        let project ← tokenProject cr claims
        let roles ← tokenRoles u tenant project
        let permissions ← tokenPermissions cr svc claims u tenant project
        pure ⟨claims.sub, claims.email, roles, permissions, claims.tenantId, claims.projectId⟩)
        (Prog.Then accessMonitor (accessPost cr (.rpc svc md (.validateToken req)))
          fun resp => pure (.token resp))
        (⟨.sys (.jwtParseAccess req.accessToken), some claims⟩ :: h') := by
    intro tenant h' hadm
    refine along_admitted _ ?_ hadm
    rintro h'' (e | resp) hadm'
    · trivial
    · exact hpost h'' hadm' (.token resp)
  by_cases hempty : claims.tenantId = ""
  · rw [tokenTenant, if_pos (by simp [hempty])]
    refine hrest none _ ?_
    constructor
    · simp
    · intro t ht
      simp [boundTenant, hempty] at ht
  · simp [tokenTenant, hempty, accessPost]
    intro t ht
    refine (Prog.along_bind _ _ _ _ _).mp (hrest (some t) _ ?_)
    constructor
    · simp
    · intro t' ht'
      obtain rfl : t = t' := by simpa [boundTenant, hempty, ht] using ht'
      simp

end Handlers

theorem along_accessBody (cr : Crates) (k : Call) :
    (k.body cr).Along accessMonitor (accessPost cr k) [] := by
  cases k with
  | rpc svc md r =>
    cases r
    case validateToken req => exact along_validateToken_access cr svc md req
    case validateApiKey req => exact along_validateApiKey_access cr svc md req
    case removeMember req => exact along_removeMember_access cr svc md req
    case deleteUser req => exact along_deleteUser_access cr svc md req
    all_goals exact Prog.along_trivial (fun _ _ => trivial) (fun _ _ => trivial) _ _
  | start env => exact Prog.along_trivial (fun _ _ => trivial) (fun _ _ => trivial) _ _
  | profileCreationFailed userId reason =>
    exact Prog.along_trivial (fun _ _ => trivial) (fun _ _ => trivial) _ _

/-! ## Runs -/

/-- After `ls₁`, in any state and over any cache, a revocation that has returned
refuses every call that starts later, up to an event of kind `joins` or `returns`. -/
structure RevocationBites (joins : Uuid → Uuid → Event Resp → Bool)
    (returns : Uuid → Event Resp → Bool) (cr : Crates) (conn : DbRole) (st : State)
    (ls₁ ls₂ : List Act) : Prop where
  member : ∀ i svc md req u tenant,
    (runFrom cr conn st ls₁).callOf i = some (.rpc svc md (.removeMember req)) →
    (runFrom cr conn st ls₁).result i = some (.ok (.success true)) →
    cr.parseUuid req.userId = some u → activeTenantOpt cr md = some tenant →
    (∀ x ∈ Pool.since (removes u tenant) i (runFrom cr conn st (ls₁ ++ ls₂)).log,
      joins u tenant x.2 = false) →
    ∀ k call, (runFrom cr conn st ls₁).threads.length ≤ k →
      (runFrom cr conn st (ls₁ ++ ls₂)).callOf k = some call →
      Presents cr call ((runFrom cr conn st (ls₁ ++ ls₂)).hist k) u (some tenant) →
      ∀ resp, (runFrom cr conn st (ls₁ ++ ls₂)).result k ≠ some (.ok resp)
  account : ∀ i svc md req u,
    (runFrom cr conn st ls₁).callOf i = some (.rpc svc md (.deleteUser req)) →
    (runFrom cr conn st ls₁).result i = some (.ok (.success true)) →
    cr.parseUuid req.userId = some u →
    (∀ x ∈ Pool.since (deletes u) i (runFrom cr conn st (ls₁ ++ ls₂)).log,
      returns u x.2 = false) →
    ∀ k call tenant, (runFrom cr conn st ls₁).threads.length ≤ k →
      (runFrom cr conn st (ls₁ ++ ls₂)).callOf k = some call →
      Presents cr call ((runFrom cr conn st (ls₁ ++ ls₂)).hist k) u tenant →
      ∀ resp, (runFrom cr conn st (ls₁ ++ ls₂)).result k ≠ some (.ok resp)

section Runs

variable {cr : Crates} {conn : DbRole} {st : State} {ls₁ ls₂ : List Act}

theorem tracks_accessBody (ls : List Act) :
    Pool.Tracks (fun _ => accessMonitor) (accessPost cr) (fun _ => []) (runFrom cr conn st ls) :=
  Pool.tracks_run (along_accessBody cr) st ls

theorem latch_member (u tenant : Uuid) : Pool.Latch (machine cr conn) (removes u tenant)
    (enrolls u tenant) (fun st : State => NoMember u tenant st.db) :=
  latch_of_db (fun _ h => removes_sql h) (fun _ _ _ _ _ hc hx => noMember_removed hc hx)
    (fun _ _ _ _ _ ho hx hI => noMember_exec ho hx hI)

theorem latch_account (u : Uuid) : Pool.Latch (machine cr conn) (deletes u) (revives u)
    (fun st : State => Deleted u st.db) :=
  latch_of_db (fun _ h => deletes_sql h) (fun _ _ _ _ _ hc hx => deleted_deleted hc hx)
    (fun _ _ _ _ _ ho hx hI => deleted_exec ho hx hI)

/-- A call that presents something and succeeds has been admitted. -/
theorem admitted_of_ok {k : Nat} {call : Call} {u : Uuid} {tenant : Option Uuid} {resp : Response}
    {ls : List Act} (hcall : (runFrom cr conn st ls).callOf k = some call)
    (hpresents : Presents cr call ((runFrom cr conn st ls).hist k) u tenant)
    (hok : (runFrom cr conn st ls).result k = some (.ok resp)) :
    Admitted ((runFrom cr conn st ls).hist k) u tenant := by
  obtain ⟨call', hcall', hpost⟩ := (tracks_accessBody ls).result_history hok
  cases hcall.symm.trans hcall'
  obtain ⟨svc, md, r⟩ | env | ⟨userId, reason⟩ := call
  · cases r <;> first | exact hpresents.elim | exact hpost u tenant hpresents
  · exact hpresents.elim
  · exact hpresents.elim

/-- Both revocations bite from the statement that makes them until one that
undoes them. -/
theorem revocationBites (cr : Crates) (conn : DbRole) (st : State) (ls₁ ls₂ : List Act) :
    RevocationBites enrolls revives cr conn st ls₁ ls₂ where
  member := by
    intro i svc md req u tenant hi hend hu htenant hjoins k call hlater hcall hpresents resp hok
    have hadm := admitted_of_ok hcall hpresents hok
    have hread := hadm.member tenant rfl
    rw [runFrom_append] at hread
    obtain ⟨pre, c, post, db', hls, -, -, hx⟩ :=
      read_later (tracks_accessBody ls₁).fresh hlater hread
    obtain ⟨call', hcall', hpost⟩ := (tracks_accessBody ls₁).result_history hend
    cases hi.symm.trans hcall'
    have hclose := hpost u tenant hu htenant
    have hgone := (latch_member u tenant).holds_since hend ⟨_, hclose, by simp [removes]⟩ hjoins hls
    have hactive : Repo.isActiveMember u tenant _ = true := congrArg Prod.fst (Except.ok.inj hx)
    rw [hgone.not_active] at hactive
    cases hactive
  account := by
    intro i svc md req u hi hend hu hrevives k call tenant hlater hcall hpresents resp hok
    have hadm := admitted_of_ok hcall hpresents hok
    obtain ⟨call', hcall', hpost⟩ := (tracks_accessBody ls₁).result_history hend
    cases hi.symm.trans hcall'
    have hclose := hpost u hu
    have hgone : ∀ {pre post}, ls₂ = pre ++ post →
        Deleted u (Pool.run (machine cr conn) (Call.body cr) (runFrom cr conn st ls₁) pre).state.db :=
      fun hls => (latch_account u).holds_since hend ⟨_, hclose, by simp [deletes]⟩ hrevives hls
    rcases hadm.account with hread | ⟨user, hread, hlive⟩
    · rw [runFrom_append] at hread
      obtain ⟨pre, c, post, db', hls, -, -, hx⟩ :=
        read_later (tracks_accessBody ls₁).fresh hlater hread
      have hactive : Repo.isUserActive u _ = true := congrArg Prod.fst (Except.ok.inj hx)
      rw [(hgone hls).not_active] at hactive
      cases hactive
    · rw [runFrom_append] at hread
      obtain ⟨pre, c, post, db', hls, -, -, hx⟩ :=
        read_later (tracks_accessBody ls₁).fresh hlater hread
      have hfound : Repo.getUserById u _ = some user := congrArg Prod.fst (Except.ok.inj hx)
      have hdeleted := hgone hls user (List.mem_of_find?_eq_some hfound) (getUserById_id hfound)
      rw [hlive] at hdeleted
      cases hdeleted

end Runs

/-! A registration in flight: it has created the account but not the membership,
or has drawn the id but not created the account. -/

def registering : Call := .rpc Sample.svc [] (.register ⟨"u@iam.local", "password"⟩)

def removingMember : Call :=
  .rpc Sample.svc (Sample.metadata 11 defaultTenantId "member:write")
    (.removeMember ⟨Sample.formatUuid 10⟩)

/-- As a sign-in of that account issues it. -/
def registeredToken : Claims :=
  ⟨Sample.formatUuid 10, "u@iam.local", Sample.formatUuid defaultTenantId, "", "", "j1", 900⟩

def validating : Call :=
  .rpc Sample.svc [] (.validateToken ⟨Sample.encodeClaims registeredToken⟩)

/-- The registration makes `n` steps before the revocation runs. -/
def revokedInFlight (n : Nat) (revocation : Call) : List Act :=
  Sample.alone 0 registering (List.replicate n (Sample.choice 0 10 "")) ++
    Sample.alone 1 revocation [Sample.choice 0 11 ""]

/-- Its other `n` steps, and then the token is validated. -/
def registeredAfter (n : Nat) : List Act :=
  List.replicate n (.step 0 (Sample.choice 0 12 "")) ++
    Sample.alone 2 validating (List.replicate 8 (Sample.choice 0 0 ""))

/-- What validate_token answers for the new account. -/
def admitted : Response :=
  .token ⟨Sample.formatUuid 10, "u@iam.local", ["user"], ["profile:read", "profile:write"],
    Sample.formatUuid defaultTenantId, ""⟩

def parsesRegistered : Event Resp → Bool
  | ⟨.sys (.jwtParseAccess token), r⟩ =>
    token == Sample.encodeClaims registeredToken && r == some registeredToken
  | _ => false

theorem presents_registered {h : List (Event Resp)}
    (hparse : h.head?.any parsesRegistered = true) :
    Presents Sample.crates validating h 10 (some defaultTenantId) := by
  obtain ⟨e, he, hparses⟩ := (Option.any_eq_true _ _).mp hparse
  refine ⟨registeredToken, ?_, by decide +kernel, by decide +kernel⟩
  obtain ⟨o, r⟩ := e
  cases o with
  | redis c => cases hparses
  | sql q => cases hparses
  | sys q =>
    cases q <;> try exact absurd hparses Bool.false_ne_true
    case jwtParseAccess token =>
      obtain ⟨rfl, rfl⟩ : token = _ ∧ r = _ := by simpa [parsesRegistered] using hparses
      exact he

theorem removed_inFlight_run :
    let w₁ := runFrom Sample.crates .superuser ⟨migrated, []⟩ (revokedInFlight 3 removingMember)
    let w₂ := runFrom Sample.crates .superuser ⟨migrated, []⟩
      (revokedInFlight 3 removingMember ++ registeredAfter 1)
    w₁.callOf 1 = some removingMember ∧ w₁.result 1 = some (.ok (.success true)) ∧
    (∀ x ∈ Pool.since (removes 10 defaultTenantId) 1 w₂.log,
      readds 10 defaultTenantId x.2 = false) ∧
    w₁.threads.length = 2 ∧ w₂.callOf 2 = some validating ∧
    (w₂.hist 2).head?.any parsesRegistered = true ∧ w₂.result 2 = some (.ok admitted) := by
  decide +kernel

theorem deleted_inFlight_run :
    let w₁ := runFrom Sample.crates .superuser ⟨migrated, []⟩ (revokedInFlight 2 deletion)
    let w₂ := runFrom Sample.crates .superuser ⟨migrated, []⟩
      (revokedInFlight 2 deletion ++ registeredAfter 2)
    w₁.callOf 1 = some deletion ∧ w₁.result 1 = some (.ok (.success true)) ∧
    (∀ x ∈ Pool.since (deletes 10) 1 w₂.log, restores 10 x.2 = false) ∧
    w₁.threads.length = 2 ∧ w₂.callOf 2 = some validating ∧
    (w₂.hist 2).head?.any parsesRegistered = true ∧ w₂.result 2 = some (.ok admitted) := by
  decide +kernel

/-- Neither add_member nor restore_user runs, and yet the account is let in: the
registration goes on after the revocation. -/
theorem registration_letIn :
    ¬RevocationBites readds restores Sample.crates .superuser ⟨migrated, []⟩
      (revokedInFlight 3 removingMember) (registeredAfter 1) ∧
    ¬RevocationBites readds restores Sample.crates .superuser ⟨migrated, []⟩
      (revokedInFlight 2 deletion) (registeredAfter 2) := by
  have huser : Sample.crates.parseUuid (Sample.formatUuid 10) = some 10 := by decide +kernel
  constructor
  · intro h
    obtain ⟨hcall, hend, hsince, hlen, hlater, hparse, hok⟩ := removed_inFlight_run
    exact h.member 1 _ _ _ 10 defaultTenantId hcall hend huser (by decide +kernel) hsince 2 _
      hlen.le hlater (presents_registered hparse) admitted hok
  · intro h
    obtain ⟨hcall, hend, hsince, hlen, hlater, hparse, hok⟩ := deleted_inFlight_run
    exact h.account 1 _ _ _ 10 hcall hend huser hsince 2 _ _
      hlen.le hlater (presents_registered hparse) admitted hok

end IamAuth
