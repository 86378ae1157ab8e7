import IamAuth.Along
import IamAuth.Frame
import Mathlib.Data.List.Infix

/-!
# The permission cache

validate_token reads the permissions of a scope through an entry of Redis. A role
change commits, and then scans for the entries of its user and deletes what it
finds. An entry may be out of date while such a scan still has it to come;
`CacheInv` says that no other entry is.
-/

set_option autoImplicit false

namespace IamAuth

open Interleave

/-! ## Scopes and keys -/

/-- What an entry of the cache is about. -/
structure Scope where
  user : Uuid
  tenant : Uuid
  project : Option Uuid
  deriving DecidableEq, Repr

def Scope.key (cr : Crates) (s : Scope) : String :=
  permsKey (cr.formatUuid s.tenant) ((s.project.map cr.formatUuid).getD "") (cr.formatUuid s.user)

def Scope.perms (conn : DbRole) (s : Scope) (db : Db) : List String :=
  Repo.getUserPermissionsScoped conn s.user s.tenant s.project db

/-- The scope that a key names. -/
def scopeOf (cr : Crates) (key : String) : Option Scope :=
  match (key.toList.splitOn ':').map String.ofList with
  | [_, tenant, project, user] => do
    let s : Scope := ⟨← cr.parseUuid user, ← cr.parseUuid tenant, cr.parseUuid project⟩
    if s.key cr = key then some s else none
  | _ => none

/-- What the cache relies on in uuid and serde_json: `Uuid::to_string` parses back
and has no character of a key or a pattern, and `from_str` undoes `to_string`. -/
structure CacheCrates (cr : Crates) : Prop where
  uuid : ∀ u, cr.parseUuid (cr.formatUuid u) = some u
  plain : ∀ u, ∀ c ∈ (cr.formatUuid u).toList, c ≠ ':' ∧ c ≠ '*' ∧ c ≠ '?'
  long : ∀ u, 1 < (cr.formatUuid u).toList.length
  dash : cr.parseUuid "-" = none
  json : ∀ ps ps', cr.permsFromJson (cr.permsToJson ps) = some ps' → ps' = ps

section Keys

variable {cr : Crates}

/-- The four parts of a key. -/
def Scope.parts (cr : Crates) (s : Scope) : List (List Char) :=
  ["perms".toList, (cr.formatUuid s.tenant).toList,
    ((s.project.map cr.formatUuid).getD "-").toList, (cr.formatUuid s.user).toList]

theorem CacheCrates.nonempty (hcr : CacheCrates cr) (u : Uuid) : cr.formatUuid u ≠ "" := by
  intro h
  have hlong := hcr.long u
  rw [h] at hlong
  simp at hlong

theorem Scope.key_toList (hcr : CacheCrates cr) (s : Scope) :
    (s.key cr).toList = [':'].intercalate (s.parts cr) := by
  have htenant := hcr.nonempty s.tenant
  cases hp : s.project with
  | none => simp [Scope.key, Scope.parts, permsKey, htenant, hp]
  | some p => simp [Scope.key, Scope.parts, permsKey, htenant, hp, hcr.nonempty p]

theorem CacheCrates.not_colon (hcr : CacheCrates cr) (u : Uuid) :
    ':' ∉ (cr.formatUuid u).toList :=
  fun hmem => (hcr.plain u ':' hmem).1 rfl

theorem CacheCrates.not_colon_project (hcr : CacheCrates cr) (s : Scope) :
    ':' ∉ ((s.project.map cr.formatUuid).getD "-").toList := by
  cases s.project with
  | none => exact (by decide : ':' ∉ "-".toList)
  | some p => exact hcr.not_colon p

theorem Scope.splitOn_key (hcr : CacheCrates cr) (s : Scope) :
    (s.key cr).toList.splitOn ':' = s.parts cr := by
  rw [s.key_toList hcr]
  apply List.splitOn_intercalate
  · intro part hpart
    simp only [Scope.parts, List.mem_cons, List.not_mem_nil, or_false] at hpart
    rcases hpart with rfl | rfl | rfl | rfl
    · decide
    · exact hcr.not_colon _
    · exact hcr.not_colon_project s
    · exact hcr.not_colon _
  · simp [Scope.parts]

theorem scopeOf_key (hcr : CacheCrates cr) (s : Scope) : scopeOf cr (s.key cr) = some s := by
  have hproject : cr.parseUuid ((s.project.map cr.formatUuid).getD "-") = s.project := by
    cases s.project with
    | none => exact hcr.dash
    | some p => exact hcr.uuid p
  unfold scopeOf
  rw [s.splitOn_key hcr]
  simp [Scope.parts, hcr.uuid, hproject]

theorem key_of_scopeOf {key : String} {s : Scope} (h : scopeOf cr key = some s) :
    s.key cr = key := by
  unfold scopeOf at h
  split at h
  · simp only [Option.bind_eq_bind, Option.bind_eq_some_iff] at h
    obtain ⟨user, -, tenant, -, h⟩ := h
    split at h
    · next hkey => rw [← Option.some.inj h, hkey]
    · cases h
  · cases h

/-! ## What the permissions of a scope depend on -/

section Perms

variable {conn : DbRole} {db db' : Db}

theorem Scope.perms_congr (s : Scope)
    (hassigned : db'.userRoles.filter (fun ur => ur.userId == s.user) =
      db.userRoles.filter fun ur => ur.userId == s.user)
    (hgranted : db'.rolePermissions = db.rolePermissions)
    (hnamed : db'.permissions = db.permissions) : s.perms conn db' = s.perms conn db := by
  have hscoped : ∀ d : Db, Repo.scopedUserRoles (tenantGucTx conn s.tenant) s.user s.tenant s.project d =
      (d.userRoles.filter fun ur => ur.userId == s.user).filter fun ur =>
        (tenantGucTx conn s.tenant).sees (some ur.tenantId) && (ur.tenantId == s.tenant &&
          Repo.inProject s.project ur) := by
    intro d
    rw [Repo.scopedUserRoles, Session.userRoles, List.filter_filter, List.filter_filter]
    apply List.filter_congr
    intro ur _
    ac_rfl
  have hurs : Repo.scopedUserRoles (tenantGucTx conn s.tenant) s.user s.tenant s.project db' =
      Repo.scopedUserRoles (tenantGucTx conn s.tenant) s.user s.tenant s.project db := by
    rw [hscoped, hscoped, hassigned]
  rw [Scope.perms, Scope.perms, Repo.getUserPermissionsScoped, Repo.getUserPermissionsScoped, hurs,
    Repo.permissionNames, Repo.permissionNames, hgranted, hnamed]

theorem Scope.perms_frame (s : Scope) {ts : List Table} (h : Frame ts db db')
    (hassigned : .userRoles ∉ ts) (hgranted : .rolePermissions ∉ ts) :
    s.perms conn db' = s.perms conn db := by
  apply s.perms_congr
  · rw [h.userRoles hassigned]
  · exact h.rolePermissions hgranted
  · exact h.permissions

end Perms

/-! ## The pattern of an invalidation -/

def permsPattern (cr : Crates) (user : Uuid) : String := "perms:*:*:" ++ cr.formatUuid user

theorem globMatch_star {p s : List Char} (h : globMatch p s = true) (x : List Char) :
    globMatch ('*' :: p) (x ++ s) = true := by
  rw [globMatch]
  apply List.any_eq_true.mpr
  exact ⟨s, (List.mem_tails _ _).mpr (List.suffix_append x s), h⟩

theorem globMatch_literal {l : List Char} (hl : ∀ c ∈ l, c ≠ '*' ∧ c ≠ '?') (p s : List Char) :
    globMatch (l ++ p) (l ++ s) = globMatch p s := by
  induction l with
  | nil => rfl
  | cons c l ih =>
    have hc := hl c (by simp)
    have ih := ih fun d hd => hl d (by simp [hd])
    rw [List.cons_append, List.cons_append, globMatch]
    · simp [ih]
    · exact hc.1
    · exact hc.2

theorem globMatch_key (hcr : CacheCrates cr) (s : Scope) :
    globMatch (permsPattern cr s.user).toList (s.key cr).toList = true := by
  have huser : globMatch (':' :: (cr.formatUuid s.user).toList) (':' :: (cr.formatUuid s.user).toList) =
      true := by
    have hself := globMatch_literal (l := ':' :: (cr.formatUuid s.user).toList) ?_ [] []
    · simpa [globMatch] using hself
    · intro c hc
      rcases List.mem_cons.mp hc with rfl | hc
      · decide
      · exact (hcr.plain s.user c hc).2
  have hproject := globMatch_star huser ((s.project.map cr.formatUuid).getD "-").toList
  have htenant := globMatch_star
    ((globMatch_literal (l := [':']) (by simp) _ _).trans hproject) (cr.formatUuid s.tenant).toList
  have hall := (globMatch_literal (l := "perms:".toList) (by simp) _ _).trans htenant
  have hkey : (s.key cr).toList = "perms:".toList ++ ((cr.formatUuid s.tenant).toList ++
      ([':'] ++ (((s.project.map cr.formatUuid).getD "-").toList ++
        (':' :: (cr.formatUuid s.user).toList)))) := by
    rw [s.key_toList hcr]
    simp [Scope.parts]
  rw [hkey, ← hall, permsPattern, String.toList_append]
  rfl

end Keys

/-! ## Invalidations in progress -/

/-- What a call still has to do after a role change of `user`: scan from cursor
`next` with replies left for `fuel` of them, or delete `keys` first. `returned`
are the keys of the replies so far. A scan that has not begun is at cursor 0. -/
inductive Invalidation where
  | idle
  | scanning (user : Uuid) (returned : List String) (next fuel : Nat)
  | deleting (user : Uuid) (returned : List String) (next : Nat) (keys : List String) (fuel : Nat)
  deriving DecidableEq, Repr

namespace Invalidation

def proceed (user : Uuid) (returned : List String) (next fuel : Nat) : Invalidation :=
  if next = 0 then .idle else .scanning user returned next fuel

def found (user : Uuid) (returned : List String) (next : Nat) (keys : List String) (fuel : Nat) :
    Invalidation :=
  if keys.isEmpty then proceed user returned next fuel else .deleting user returned next keys fuel

/-- After an event; `fuel` is that of a new invalidation. -/
def step (fuel : Nat) (g : Invalidation) : Event Resp → Invalidation
  | ⟨.sql (.assignRole user ..), .ok _⟩ => .scanning user [] 0 fuel
  | ⟨.sql (.revokeRole user ..), .ok _⟩ => .scanning user [] 0 fuel
  | ⟨.redis (.scan ..), r⟩ =>
    match g, r with
    | .scanning user returned _ (n + 1), some (next, keys) =>
      found user (returned ++ keys) next keys n
    | _, _ => .idle
  | ⟨.redis (.del _), _⟩ =>
    match g with
    | .deleting user returned next _ n => proceed user returned next n
    | g => g
  | _ => g

/-- The next statement is the next one of the invalidation. -/
def due (cr : Crates) (g : Invalidation) (o : Op) : Prop :=
  match g with
  | .scanning user _ next (_ + 1) => o = .redis (.scan next (permsPattern cr user))
  | .deleting _ _ _ keys _ => o = .redis (.del keys)
  | _ => True

/-- The replies have run out before the cursor was back at 0. -/
def exhausted : Invalidation → Bool
  | .scanning _ _ _ 0 => true
  | _ => false

/-- A role change of `user` has committed, and its scan has not begun. -/
def unbegun (user : Uuid) : Invalidation → Bool
  | .scanning u [] 0 _ => u == user
  | _ => false

def returned : Invalidation → List String
  | .scanning _ returned _ _ => returned
  | .deleting _ returned _ _ _ => returned
  | .idle => []

def ended (g : Invalidation) : Prop := g = .idle ∨ g.exhausted = true

end Invalidation

/-- The text is the one `Uuid::to_string` gives for the id that it names. -/
def canonical (cr : Crates) (id : String) : Bool := (cr.parseUuid id).map cr.formatUuid == some id

/-- The calls that invalidate the entries of a user whose roles they change, with
the scan replies each of their invalidations may read. -/
def Call.invalidates (cr : Crates) : Call → Option Nat
  | .rpc svc _ (.assignRole req) =>
    if svc.cacheConn && canonical cr req.userId then some svc.scanFuel else none
  | .rpc svc _ (.revokeRole req) =>
    if svc.cacheConn && canonical cr req.userId then some svc.scanFuel else none
  | .rpc svc _ (.assignRoleBulk req) =>
    if svc.cacheConn && req.userIds.all (fun id => (cr.parseUuid id).isNone || canonical cr id) then
      some svc.scanFuel
    else none
  | _ => none

def permsMonitor (cr : Crates) (k : Call) : Monitor Resp Invalidation where
  upd g e :=
    match k.invalidates cr with
    | some fuel => g.step fuel e
    | none => g
  ok g e := g.due cr e.1

def permsPost (g : Invalidation) : Except Failure Response → Prop := fun _ => g.ended

section Handlers

variable {cr : Crates} {k : Call} {fuel : Nat}

theorem canonical_eq {id : String} {u : Uuid} (hid : canonical cr id = true)
    (hu : cr.parseUuid id = some u) : id = cr.formatUuid u := by
  unfold canonical at hid
  rw [hu, beq_iff_eq] at hid
  exact (Option.some.inj hid).symm

theorem permsMonitor_upd (hk : k.invalidates cr = some fuel) (g : Invalidation) (e : Event Resp) :
    (permsMonitor cr k).upd g e = g.step fuel e := by
  simp only [permsMonitor, hk]

/-- The loop of an invalidation, from a cursor to its end. -/
theorem along_scanLoop {post : Invalidation → Except Failure Unit → Prop}
    (hk : k.invalidates cr = some fuel) (hpost : ∀ g : Invalidation, g.ended → post g (.ok ()))
    (user : Uuid) (returned : List String) (next n : Nat) :
    (scanLoop (permsPattern cr user) n next).Along (permsMonitor cr k) post
      (.scanning user returned next n) := by
  induction n generalizing returned next with
  | zero => exact hpost _ (.inr rfl)
  | succ n ih =>
    refine (Prog.along_bind _ _ _ _ _).mpr ((along_redis _ _).mpr ?_)
    intro r
    refine ⟨rfl, ?_⟩
    rw [permsMonitor_upd hk]
    rcases r with _ | ⟨next', keys⟩
    · exact hpost _ (.inl rfl)
    · have hrest : ∀ returned, (if next' = 0 then pure () else
          scanLoop (permsPattern cr user) n next' : Handler Unit).Along (permsMonitor cr k) post
            (Invalidation.proceed user returned next' n) := by
        intro returned
        unfold Invalidation.proceed
        split
        · exact hpost _ (.inl rfl)
        · exact ih returned next'
      refine (Prog.along_bind _ _ _ _ _).mpr ?_
      simp only [Invalidation.step, Invalidation.found, delKeys]
      split
      · exact hrest _
      · refine (Prog.along_bind _ _ _ _ _).mpr ((along_redis _ _).mpr ?_)
        intro r'
        refine ⟨rfl, ?_⟩
        rw [permsMonitor_upd hk]
        exact hrest _

/-- What follows a role change of `user`, whatever the replies. -/
theorem along_invalidatePerms {post : Invalidation → Except Failure Unit → Prop} {svc : AuthSvc}
    (hk : k.invalidates cr = some svc.scanFuel) (hconn : svc.cacheConn = true)
    (hpost : ∀ g : Invalidation, g.ended → post g (.ok ())) {id : String} {user : Uuid}
    (hid : id = cr.formatUuid user) :
    (invalidatePerms svc id).Along (permsMonitor cr k) post
      (.scanning user [] 0 svc.scanFuel) := by
  rw [invalidatePerms, if_pos hconn, hid]
  exact along_scanLoop hk hpost user [] 0 svc.scanFuel

/-- No role is assigned or revoked. -/
def Unchanging : Op → Prop
  | .sql (.assignRole ..) => False
  | .sql (.revokeRole ..) => False
  | _ => True

theorem Invalidation.ended_step {g : Invalidation} (hg : g.ended) {e : Event Resp}
    (he : Unchanging e.1) (fuel : Nat) : (g.step fuel e).ended := by
  obtain ⟨o, r⟩ := e
  cases o with
  | sys s => exact hg
  | sql s => cases s <;> first | exact he.elim | exact hg
  | redis c =>
    cases c with
    | setEx key value ttl => exact hg
    | «exists» key => exact hg
    | get key => exact hg
    | scan cursor pattern =>
      rcases g with _ | ⟨u, ret, next, _ | n⟩ | ⟨u, ret, next, keys, n⟩
      · exact .inl rfl
      · exact .inl rfl
      · rcases hg with hg | hg <;> cases hg
      · exact .inl rfl
    | del keys =>
      rcases g with _ | ⟨u, ret, next, n⟩ | ⟨u, ret, next, keys, n⟩
      · exact hg
      · exact hg
      · rcases hg with hg | hg <;> cases hg

theorem Invalidation.ended_due {g : Invalidation} (hg : g.ended) (o : Op) : g.due cr o := by
  rcases g with _ | ⟨u, ret, next, _ | n⟩ | ⟨u, ret, next, keys, n⟩
  · trivial
  · trivial
  · rcases hg with hg | hg <;> cases hg
  · rcases hg with hg | hg <;> cases hg

/-- Statements other than role changes leave an ended invalidation ended. -/
theorem along_ended {α : Type} {p : Handler α} (hp : p.Emits Unchanging)
    {post : Invalidation → Except Failure α → Prop}
    (hpost : ∀ (g : Invalidation) r, g.ended → post g r) {g : Invalidation} (hg : g.ended) :
    p.Along (permsMonitor cr k) post g := by
  refine hp.along_inv (Q := Invalidation.ended) ?_ hpost hg
  intro g e he hg
  refine ⟨Invalidation.ended_due hg e.1, ?_⟩
  unfold permsMonitor
  dsimp only
  split
  · exact Invalidation.ended_step hg he _
  · exact hg

theorem along_ended_bind {α β : Type} {p : Handler α} {f : α → Handler β} (hp : p.Emits Unchanging)
    {post : Invalidation → Except Failure β → Prop}
    (hpost : ∀ (g : Invalidation) r, g.ended → post g r)
    (hf : ∀ a (g : Invalidation), g.ended → (f a).Along (permsMonitor cr k) post g)
    {g : Invalidation} (hg : g.ended) : (p >>= f).Along (permsMonitor cr k) post g := by
  refine (Prog.along_bind _ _ _ _ _).mpr (along_ended hp ?_ hg)
  rintro g (e | a) hg
  · exact hpost g _ hg
  · exact hf a g hg

variable (cr) (svc : AuthSvc) (md : MetadataMap)

theorem unchanging_validateAssign (roleName projectId : String) (tenant : Uuid) :
    (validateAssign cr roleName projectId tenant).Emits Unchanging := by
  refine .bind (by simp [Prog.Emits, Unchanging]) fun _ => .bind (by simp [Prog.Emits]) fun _ => ?_
  refine .bind (by simp [Prog.Emits]) ?_
  rintro (_ | pid) <;> simp [Prog.Emits, Unchanging]

theorem unchanging_audit (action target detail : String) :
    (audit cr svc md action target detail).Emits Unchanging := by
  simp [audit, Prog.Emits, Unchanging]

/-- A role change, the invalidation it is followed by, and what comes after. -/
theorem along_change {α : Type} {post : Invalidation → Except Failure α → Prop}
    {s : Sql} {e : Failure} {user : Uuid} {id : String} {p : Handler α}
    (hk : k.invalidates cr = some svc.scanFuel) (hconn : svc.cacheConn = true)
    (hid : id = cr.formatUuid user)
    (hchange : ∀ (g : Invalidation) (r : Reply s), g.step svc.scanFuel ⟨.sql s, .ok r⟩ =
      .scanning user [] 0 svc.scanFuel)
    (hfail : ∀ (g : Invalidation) d, g.step svc.scanFuel ⟨.sql s, .error d⟩ = g)
    (hpost : ∀ (g : Invalidation) r, g.ended → post g r)
    (hp : p.Emits Unchanging) {g : Invalidation} (hg : g.ended) :
    (do
      let _ ← query s e
      invalidatePerms svc id
      p : Handler α).Along (permsMonitor cr k) post g := by
  refine (Prog.along_bind _ _ _ _ _).mpr ((along_query _ _ _).mpr ⟨?_, ?_⟩)
  · intro r
    refine ⟨Invalidation.ended_due hg _, ?_⟩
    rw [permsMonitor_upd hk, hchange]
    refine (Prog.along_bind _ _ _ _ _).mpr (along_invalidatePerms hk hconn ?_ hid)
    intro g' hg'
    exact along_ended hp hpost hg'
  · intro d
    refine ⟨Invalidation.ended_due hg _, ?_⟩
    rw [permsMonitor_upd hk, hfail]
    exact hpost g _ hg

variable {post : Invalidation → Except Failure Bool → Prop}

theorem along_assignRole_perms (req : AssignRoleRequest)
    (hk : k.invalidates cr = some svc.scanFuel) (hconn : svc.cacheConn = true)
    (hid : canonical cr req.userId = true) (hpost : ∀ (g : Invalidation) r, g.ended → post g r) :
    (assignRole cr svc md req).Along (permsMonitor cr k) post .idle := by
  refine along_ended_bind (by simp [Prog.Emits]) hpost (fun _ g hg => ?_) (.inl rfl)
  refine along_ended_bind (by simp [Prog.Emits]) hpost (fun tenant g hg => ?_) hg
  refine (Prog.along_bind _ _ _ _ _).mpr ((along_parseUserId _ _).mpr ⟨fun _ => hpost g _ hg, ?_⟩)
  intro user huser
  refine along_ended_bind (unchanging_validateAssign cr _ _ _) hpost (fun project g hg => ?_) hg
  refine along_change cr svc hk hconn (canonical_eq hid huser) (fun _ _ => rfl) (fun _ _ => rfl)
    hpost ?_ hg
  exact .bind (unchanging_audit cr svc md _ _ _) fun _ => trivial

theorem along_revokeRole_perms (req : AssignRoleRequest)
    (hk : k.invalidates cr = some svc.scanFuel) (hconn : svc.cacheConn = true)
    (hid : canonical cr req.userId = true) (hpost : ∀ (g : Invalidation) r, g.ended → post g r) :
    (revokeRole cr svc md req).Along (permsMonitor cr k) post .idle := by
  refine along_ended_bind (by simp [Prog.Emits]) hpost (fun _ g hg => ?_) (.inl rfl)
  refine along_ended_bind (by simp [Prog.Emits]) hpost (fun tenant g hg => ?_) hg
  refine (Prog.along_bind _ _ _ _ _).mpr ((along_parseUserId _ _).mpr ⟨fun _ => hpost g _ hg, ?_⟩)
  intro user huser
  refine along_ended_bind (by simp [Prog.Emits, Unchanging]) hpost (fun known g hg => ?_) hg
  refine along_ended_bind (by simp [Prog.Emits]) hpost (fun _ g hg => ?_) hg
  refine along_ended_bind (by simp [Prog.Emits]) hpost (fun project g hg => ?_) hg
  refine along_change cr svc hk hconn (canonical_eq hid huser) (fun _ _ => rfl) (fun _ _ => rfl)
    hpost ?_ hg
  exact .bind (unchanging_audit cr svc md _ _ _) fun _ => trivial

theorem along_assignOne_perms (roleName : String) (tenant : Uuid) (project : Option Uuid)
    (hk : k.invalidates cr = some svc.scanFuel) (hconn : svc.cacheConn = true) {id : String}
    (hid : (cr.parseUuid id).isNone = true ∨ canonical cr id = true)
    (hpost : ∀ (g : Invalidation) r, g.ended → post g r) {g : Invalidation} (hg : g.ended) :
    (assignOne cr svc roleName tenant project id).Along (permsMonitor cr k) post g := by
  unfold assignOne
  cases huser : cr.parseUuid id with
  | none => exact hpost g _ hg
  | some user =>
    have hid : canonical cr id = true := by simpa [huser] using hid
    refine (Prog.along_bind _ _ _ _ _).mpr ((along_attempt _ _).mpr ?_)
    intro r
    refine ⟨Invalidation.ended_due hg _, ?_⟩
    rw [permsMonitor_upd hk]
    rcases r with d | _
    · exact hpost g _ hg
    · refine (Prog.along_bind _ _ _ _ _).mpr ?_
      refine along_invalidatePerms hk hconn ?_ (canonical_eq hid huser)
      intro g' hg'
      exact hpost g' _ hg'

theorem along_assignEach_perms (roleName : String) (tenant : Uuid) (project : Option Uuid)
    (hk : k.invalidates cr = some svc.scanFuel) (hconn : svc.cacheConn = true) (ids : List String)
    (hids : ∀ id ∈ ids, (cr.parseUuid id).isNone = true ∨ canonical cr id = true)
    {post : Invalidation → Except Failure AssignRoleBulkResponse → Prop}
    (hpost : ∀ (g : Invalidation) r, g.ended → post g r) {g : Invalidation} (hg : g.ended) :
    (assignEach cr svc roleName tenant project ids).Along (permsMonitor cr k) post g := by
  induction ids generalizing post g with
  | nil => exact hpost g _ hg
  | cons id ids ih =>
    refine (Prog.along_bind _ _ _ _ _).mpr ?_
    refine along_assignOne_perms cr svc roleName tenant project hk hconn (hids id (by simp)) ?_ hg
    rintro g (e | done) hg
    · exact hpost g _ hg
    · refine (Prog.along_bind _ _ _ _ _).mpr ?_
      refine ih (fun id hid => hids id (by simp [hid])) ?_ hg
      rintro g (e | out) hg
      · exact hpost g _ hg
      · cases done <;> exact hpost g _ hg

theorem along_assignRoleBulk_perms (req : AssignRoleBulkRequest)
    (hk : k.invalidates cr = some svc.scanFuel) (hconn : svc.cacheConn = true)
    (hids : ∀ id ∈ req.userIds, (cr.parseUuid id).isNone = true ∨ canonical cr id = true)
    {post : Invalidation → Except Failure AssignRoleBulkResponse → Prop}
    (hpost : ∀ (g : Invalidation) r, g.ended → post g r) :
    (assignRoleBulk cr svc md req).Along (permsMonitor cr k) post .idle := by
  refine along_ended_bind (by simp [Prog.Emits]) hpost (fun _ g hg => ?_) (.inl rfl)
  refine along_ended_bind (by simp [Prog.Emits]) hpost (fun tenant g hg => ?_) hg
  refine along_ended_bind (unchanging_validateAssign cr _ _ _) hpost (fun project g hg => ?_) hg
  refine (Prog.along_bind _ _ _ _ _).mpr ?_
  refine along_assignEach_perms cr svc _ _ _ hk hconn _ hids ?_ hg
  rintro g (e | out) hg
  · exact hpost g _ hg
  · refine along_ended_bind (unchanging_audit cr svc md _ _ _) hpost (fun _ g hg => ?_) hg
    exact hpost g _ hg

end Handlers

theorem along_permsBody (cr : Crates) (k : Call) :
    (k.body cr).Along (permsMonitor cr k) permsPost .idle := by
  have hwrap : ∀ {α : Type} (f : α → Response) (g : Invalidation) (r : Except Failure α), g.ended →
      Prog.Then (permsMonitor cr k) permsPost (fun a => pure (f a)) g r := by
    rintro α f g (e | a) hg <;> exact hg
  by_cases hnone : k.invalidates cr = none
  · -- Such a call keeps its ghost value.
    have hany : (k.body cr).Emits fun _ => True :=
      Prog.along_trivial (fun _ _ => trivial) (fun _ _ => trivial) _ _
    refine hany.along_inv (Q := (· = .idle)) ?_ (fun g r hg => .inl hg) rfl
    rintro g e - rfl
    simp [permsMonitor, hnone, Invalidation.due]
  cases k with
  | start env => exact absurd rfl hnone
  | profileCreationFailed userId reason => exact absurd rfl hnone
  | rpc svc md r =>
    cases r with
    | assignRole req =>
      have hk : svc.cacheConn = true ∧ canonical cr req.userId = true := by
        simpa [Call.invalidates] using hnone
      exact (Prog.along_bind _ _ _ _ _).mpr (along_assignRole_perms cr svc md req
        (by simp [Call.invalidates, hk]) hk.1 hk.2 (hwrap _))
    | revokeRole req =>
      have hk : svc.cacheConn = true ∧ canonical cr req.userId = true := by
        simpa [Call.invalidates] using hnone
      exact (Prog.along_bind _ _ _ _ _).mpr (along_revokeRole_perms cr svc md req
        (by simp [Call.invalidates, hk]) hk.1 hk.2 (hwrap _))
    | assignRoleBulk req =>
      have hk : (svc.cacheConn && req.userIds.all (fun id => (cr.parseUuid id).isNone ||
          canonical cr id)) = true := by
        by_contra hc
        exact hnone (if_neg hc)
      obtain ⟨hconn, hids⟩ := (Bool.and_eq_true _ _).mp hk
      have hk : (Call.rpc svc md (.assignRoleBulk req)).invalidates cr = some svc.scanFuel := if_pos hk
      refine (Prog.along_bind _ _ _ _ _).mpr (along_assignRoleBulk_perms cr svc md req
        hk hconn ?_ (hwrap _))
      intro id hid
      exact (Bool.or_eq_true _ _).mp (List.all_eq_true.mp hids id hid)
    | _ => exact absurd rfl hnone

/-! ## An instance to run the model on -/

namespace Sample

def escape (c : Char) : List Char := if c = '"' ∨ c = '\\' then ['\\', c] else [c]

/-- The rest of an array of strings from within a string. -/
def jsonRest (p : List Char) (ps : List (List Char)) : List Char :=
  p.flatMap escape ++ '"' :: (ps.flatMap fun q => ',' :: '"' :: (q.flatMap escape ++ ['"'])) ++ [']']

/-- An array of strings, as serde_json writes it where no control character occurs. -/
def jsonChars : List (List Char) → List Char
  | [] => ['[', ']']
  | p :: ps => '[' :: '"' :: jsonRest p ps

/-- What `jsonRest` wrote, or with `within` false the rest after a string. -/
def parseRest : Bool → List Char → Option (List (List Char))
  | true, '"' :: rest => (parseRest false rest).map ([] :: ·)
  | true, '\\' :: c :: rest => (parseRest true rest).map (List.modifyHead (c :: ·))
  | true, c :: rest => (parseRest true rest).map (List.modifyHead (c :: ·))
  | false, ',' :: '"' :: rest => parseRest true rest
  | false, [']'] => some []
  | _, _ => none

def parseChars : List Char → Option (List (List Char))
  | ['[', ']'] => some []
  | '[' :: '"' :: rest => parseRest true rest
  | _ => none

theorem parseRest_escape (c : Char) (rest : List Char) :
    parseRest true (escape c ++ rest) = (parseRest true rest).map (List.modifyHead (c :: ·)) := by
  unfold escape
  split
  · rw [List.cons_append, List.cons_append, List.nil_append, parseRest]
  · next hc =>
    rw [List.cons_append, List.nil_append, parseRest]
    · intro h
      exact hc (.inl h)
    · intro c' rest' h _
      exact hc (.inr h)

theorem parseRest_jsonRest (p : List Char) (ps : List (List Char)) :
    parseRest true (jsonRest p ps) = some (p :: ps) := by
  induction ps generalizing p with
  | nil =>
    induction p with
    | nil => rfl
    | cons c p ih =>
      have hcons : jsonRest (c :: p) [] = escape c ++ jsonRest p [] := by simp [jsonRest]
      rw [hcons, parseRest_escape, ih]
      rfl
  | cons q ps ih =>
    induction p with
    | nil =>
      have hcons : jsonRest [] (q :: ps) = '"' :: ',' :: '"' :: jsonRest q ps := by simp [jsonRest]
      rw [hcons, parseRest, parseRest, ih]
      rfl
    | cons c p ihp =>
      have hcons : jsonRest (c :: p) (q :: ps) = escape c ++ jsonRest p (q :: ps) := by
        simp [jsonRest]
      rw [hcons, parseRest_escape, ihp]
      rfl

theorem parseChars_jsonChars (ps : List (List Char)) : parseChars (jsonChars ps) = some ps := by
  cases ps with
  | nil => rfl
  | cons p ps => exact parseRest_jsonRest p ps

/-- `crates`, with permissions as JSON. -/
def jsonCrates : Crates :=
  { crates with
    permsToJson := fun ps => String.ofList (jsonChars (ps.map String.toList))
    permsFromJson := fun s => (parseChars s.toList).map fun ps => ps.map String.ofList }

theorem mem_hyphenate {ds : List Char} {c : Char} (h : c ∈ hyphenate ds) : c ∈ ds ∨ c = '-' := by
  simp only [hyphenate, List.mem_append, List.mem_cons] at h
  rcases h with ((((h | h | h) | h | h) | h | h) | h | h)
  all_goals first
    | exact .inr h
    | exact .inl (List.mem_of_mem_take h)
    | exact .inl (List.mem_of_mem_drop h)
    | exact .inl (List.mem_of_mem_drop (List.mem_of_mem_take h))

theorem plain_hexDigit : ∀ n < 16, hexDigit n ≠ ':' ∧ hexDigit n ≠ '*' ∧ hexDigit n ≠ '?' := by
  decide

theorem jsonCrates_parseUuid : jsonCrates.parseUuid = parseUuid := rfl

theorem jsonCrates_formatUuid : jsonCrates.formatUuid = formatUuid := rfl

theorem permsFromJson_toJson (ps : List String) :
    jsonCrates.permsFromJson (jsonCrates.permsToJson ps) = some ps := by
  have hto : jsonCrates.permsToJson ps = String.ofList (jsonChars (ps.map String.toList)) := rfl
  have hfrom : ∀ s, jsonCrates.permsFromJson s =
      (parseChars s.toList).map fun ps => ps.map String.ofList := fun _ => rfl
  rw [hfrom, hto, String.toList_ofList, parseChars_jsonChars]
  simp

theorem cacheCrates : CacheCrates jsonCrates where
  uuid := by
    rw [jsonCrates_parseUuid, jsonCrates_formatUuid]
    exact parse_format
  plain := by
    intro u c hc
    rw [jsonCrates_formatUuid, formatUuid_toList] at hc
    rcases mem_hyphenate hc with hdigit | rfl
    · obtain ⟨n, hn, rfl⟩ := List.mem_map.mp hdigit
      exact plain_hexDigit n (hexDigits_lt u n hn)
    · decide
  long := by
    intro u
    rw [jsonCrates_formatUuid, formatUuid_toList]
    simp [hyphenate, length_hexDigits]
  dash := by
    rw [jsonCrates_parseUuid]
    decide
  json := by
    intro ps ps' h
    rw [permsFromJson_toJson] at h
    exact (Option.some.inj h).symm

/-- A replica with Redis. -/
def cacheSvc : AuthSvc := { svc with cacheConn := true, scanFuel := 2 }

/-- A member of the default tenant, who has no role. -/
def member : UserRow := user 7 none false

def memberScope : Scope := ⟨7, defaultTenantId, none⟩

/-- The member's token is validated. -/
def memberValidation : Call :=
  .rpc cacheSvc [] (.validateToken ⟨encodeClaims
    ⟨formatUuid 7, "u@iam.local", formatUuid defaultTenantId, "", "", "jti", 900⟩⟩)

/-- Steps of call `i` alone. -/
def moves (i n : Nat) : List Act := List.replicate n (.step i (choice 1 0 ""))

end Sample

end IamAuth
