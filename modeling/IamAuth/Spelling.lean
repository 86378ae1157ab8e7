import IamAuth.RoleUndo

/-!
# Invalidating by the text of a request

assign_role, assign_role_bulk and revoke_role change the roles of the user that the
text of the request parses to, and delete the cache entries whose key ends in that
text. The keys end in the text of `Uuid::to_string`. So exactly the users whose id
is spelled that way lose their entries.
-/

set_option autoImplicit false

namespace IamAuth

open Interleave Relational

/-! ## Keys and patterns -/

/-- `Uuid::parse_str` accepts no wildcard of a Redis pattern. -/
structure SpellingCrates (cr : Crates) : Prop extends CacheCrates cr where
  accepted : ∀ s u, cr.parseUuid s = some u → ∀ c ∈ s.toList, c ≠ '*' ∧ c ≠ '?'

/-- The keys under which validate_token keeps permissions of this user, in any
tenant and project. -/
def EntryOf (cr : Crates) (u : Uuid) (key : String) : Prop :=
  ∃ tenant project : String, ':' ∉ tenant.toList ∧ ':' ∉ project.toList ∧
    key = permsKey tenant project (cr.formatUuid u)

/-- The pattern of an invalidation for a user named `s`. -/
def spelledPattern (s : String) : String := "perms:*:*:" ++ s

section Glob

theorem globMatch_nil_iff {s : List Char} : globMatch [] s = true ↔ s = [] := by
  rw [globMatch, List.isEmpty_iff]

theorem globMatch_star_iff {p s : List Char} :
    globMatch ('*' :: p) s = true ↔ ∃ x y, s = x ++ y ∧ globMatch p y = true := by
  constructor
  · intro h
    rw [globMatch] at h
    obtain ⟨y, hy, hmatch⟩ := List.any_eq_true.mp h
    obtain ⟨x, rfl⟩ := (List.mem_tails _ _).mp hy
    exact ⟨x, y, rfl, hmatch⟩
  · rintro ⟨x, y, rfl, h⟩
    exact globMatch_star h x

theorem globMatch_literal_iff {l : List Char} (hl : ∀ c ∈ l, c ≠ '*' ∧ c ≠ '?') {p s : List Char} :
    globMatch (l ++ p) s = true ↔ ∃ y, s = l ++ y ∧ globMatch p y = true := by
  induction l generalizing s with
  | nil => simp
  | cons c l ih =>
    have hc := hl c (by simp)
    have hrest : ∀ d ∈ l, d ≠ '*' ∧ d ≠ '?' := fun d hd => hl d (by simp [hd])
    cases s with
    | nil =>
      rw [List.cons_append, globMatch]
      · simp
      · exact hc.1
      · exact hc.2
    | cons d s =>
      rw [List.cons_append, globMatch]
      · simp only [Bool.and_eq_true, beq_iff_eq, ih hrest]
        constructor
        · rintro ⟨rfl, y, rfl, h⟩
          exact ⟨y, rfl, h⟩
        · rintro ⟨y, heq, h⟩
          obtain ⟨rfl, rfl⟩ := List.cons.inj heq
          exact ⟨rfl, y, rfl, h⟩
      · exact hc.1
      · exact hc.2

end Glob

section Match

variable {cr : Crates} {u : Uuid} {key s : String}

theorem EntryOf.toList (h : EntryOf cr u key) : ∃ tenant project : List Char, ':' ∉ tenant ∧
    ':' ∉ project ∧ key.toList =
      "perms:".toList ++ (tenant ++ ':' :: (project ++ ':' :: (cr.formatUuid u).toList)) := by
  obtain ⟨tenant, project, htenant, hproject, rfl⟩ := h
  have hdash : ∀ {x : String}, ':' ∉ x.toList → ':' ∉ (if x.isEmpty then "-" else x).toList := by
    intro x hx
    split
    · decide
    · exact hx
  refine ⟨_, _, hdash htenant, hdash hproject, ?_⟩
  simp [permsKey]

theorem match_spelledPattern (hs : ∀ c ∈ s.toList, c ≠ '*' ∧ c ≠ '?') {k : List Char} :
    globMatch (spelledPattern s).toList k = true ↔
      ∃ x y, k = "perms:".toList ++ (x ++ ':' :: (y ++ ':' :: s.toList)) := by
  have hpattern : (spelledPattern s).toList =
      "perms:".toList ++ '*' :: ([':'] ++ '*' :: ((':' :: s.toList) ++ [])) := by
    simp [spelledPattern]
  have hlast : ∀ c ∈ ':' :: s.toList, c ≠ '*' ∧ c ≠ '?' := by
    intro c hc
    rcases List.mem_cons.mp hc with rfl | hc
    · decide
    · exact hs c hc
  rw [hpattern, globMatch_literal_iff (by simp)]
  simp only [globMatch_star_iff, globMatch_literal_iff (l := [':']) (by simp),
    globMatch_literal_iff hlast, globMatch_nil_iff]
  constructor
  · rintro ⟨_, rfl, x, _, rfl, _, rfl, y, _, rfl, _, rfl, rfl⟩
    exact ⟨x, y, by simp⟩
  · rintro ⟨x, y, rfl⟩
    exact ⟨_, rfl, x, _, rfl, _, rfl, y, _, rfl, [], by simp, rfl⟩

/-- The pattern finds the entries of a user exactly under the spelling of the keys. -/
theorem match_entry (hcr : SpellingCrates cr) (hs : ∀ c ∈ s.toList, c ≠ '*' ∧ c ≠ '?')
    (hkey : EntryOf cr u key) :
    globMatch (spelledPattern s).toList key.toList = true ↔ s = cr.formatUuid u := by
  obtain ⟨tenant, project, htenant, hproject, hparts⟩ := hkey.toList
  rw [match_spelledPattern hs, hparts]
  constructor
  · rintro ⟨x, y, heq⟩
    have hjoin : [':'].intercalate ["perms".toList, x, y, s.toList] =
        [':'].intercalate ["perms".toList, tenant, project, (cr.formatUuid u).toList] := by
      simpa using heq.symm
    obtain ⟨-, -, hlast⟩ := parts_eq htenant hproject (hcr.not_colon u) hjoin
    exact String.toList_inj.mp hlast
  · rintro rfl
    exact ⟨tenant, project, rfl⟩

end Match

/-! ## An invalidation that nothing interrupts -/

/-- The key lists that the scan in progress has returned. -/
def scanReplies (h : List (Event Resp)) : List (List String) :=
  h.foldl (fun replies e => match e with
    | ⟨.redis (.scan cursor _), some (_, keys)⟩ => (if cursor = 0 then [] else replies) ++ [keys]
    | _ => replies) []

/-- Redis does what it documents: no command fails, and a scan comes back to cursor
0, within `fuel` replies, when it has returned every key that was there all along.
All this happens by the time `T`. -/
def RedisServes (T : DateTime) (fuel : Nat) (st : State) (h : List (Event Resp)) (c : Choice) :
    Event Resp → Prop
  | ⟨.redis (.scan cursor pattern), _⟩ => c.fails = false ∧ c.now ≤ T ∧
    (c.cursor = 0 → ∀ x ∈ st.redis, c.now < x.expiresAt →
      globMatch pattern.toList x.key.toList = true →
      x.key ∈ c.texts ∨ x.key ∈ (if cursor = 0 then [] else scanReplies h).flatten) ∧
    (c.cursor ≠ 0 → (if cursor = 0 then [] else scanReplies h).length + 1 < fuel)
  | ⟨.redis _, _⟩ => c.fails = false
  | _ => True

instance (T : DateTime) (fuel : Nat) (st : State) (h : List (Event Resp)) (c : Choice)
    (e : Event Resp) : Decidable (RedisServes T fuel st h c e) := by
  unfold RedisServes
  split <;> infer_instance

/-- The keys that `hit` selects are gone by the time `T`, and no others. -/
structure Swept (T : DateTime) (hit : String → Prop) (r r' : Redis) : Prop where
  sub : ∀ x ∈ r', x ∈ r
  kept : ∀ x ∈ r, ¬hit x.key → x ∈ r'
  gone : ∀ x ∈ r', hit x.key → x.expiresAt ≤ T

section Sweep

variable {T : DateTime} {hit hit' : String → Prop} {r r' r'' : Redis}

theorem Swept.refl (T : DateTime) (r : Redis) : Swept T (fun _ => False) r r :=
  ⟨fun _ hx => hx, fun _ hx _ => hx, fun _ _ hx => hx.elim⟩

theorem Swept.trans (h : Swept T hit r r') (h' : Swept T hit' r' r'') :
    Swept T (fun k => hit k ∨ hit' k) r r'' where
  sub x hx := h.sub x (h'.sub x hx)
  kept x hx hno := h'.kept x (h.kept x hx fun hk => hno (.inl hk)) fun hk => hno (.inr hk)
  gone x hx hk := by
    rcases hk with hk | hk
    · exact h.gone x (h'.sub x hx) hk
    · exact h'.gone x hx hk

theorem Swept.imp (h : Swept T hit r r') (hiff : ∀ k, hit k ↔ hit' k) : Swept T hit' r r' where
  sub := h.sub
  kept x hx hno := h.kept x hx fun hk => hno ((hiff _).mp hk)
  gone x hx hk := h.gone x hx ((hiff _).mpr hk)

/-- Deleting some of the keys first. -/
theorem Swept.after_lose {keys : List String} (hkeys : ∀ k ∈ keys, hit k)
    (h : Swept T hit (r.lose keys) r') : Swept T hit r r' where
  sub x hx := (List.mem_filter.mp (h.sub x hx)).1
  kept x hx hno := by
    refine h.kept x (List.mem_filter.mpr ⟨hx, ?_⟩) hno
    simpa using fun hmem => hno (hkeys _ hmem)
  gone := h.gone

variable {cr : Crates} {conn : DbRole} {fuel : Nat} {st : State} {h : List (Event Resp)}

theorem scanReplies_scan (h : List (Event Resp)) (cursor next : Nat) (pattern : String)
    (keys : List String) :
    scanReplies (h ++ [⟨.redis (.scan cursor pattern), some (next, keys)⟩]) =
      (if cursor = 0 then [] else scanReplies h) ++ [keys] := by
  simp [scanReplies]

variable {A : State → List (Event Resp) → Choice → Event Resp → Prop}
  (hserves : ∀ st h c e, A st h c e → RedisServes T fuel st h c e)

include hserves

theorem sweeps_delKeys (keys : List String)
    {Q : Except Failure Unit → State → List (Event Resp) → Prop}
    (hQ : ∀ h', scanReplies h' = scanReplies h →
      Q (.ok ()) { st with redis := st.redis.lose keys } h') :
    (delKeys keys).Ends (machine cr conn) A Q st h := by
  unfold delKeys
  split
  · next hempty =>
    have hsame : st.redis.lose keys = st.redis := by
      simp [Redis.lose, List.isEmpty_iff.mp hempty]
    have hq := hQ h rfl
    rw [hsame] at hq
    exact hq
  · refine .bind (ends_redis _ fun c hc => ?_)
    have hexec : Redis.exec c st.redis (.del keys) = (some (), st.redis.lose keys) := by
      have hc : c.fails = false := hserves _ _ _ _ hc
      simp [Redis.exec, hc]
    rw [hexec]
    exact hQ _ (by simp [scanReplies])

/-- The loop, when the replies so far have been deleted. -/
theorem sweeps_scanLoop (pattern : String)
    {Q : Except Failure Unit → State → List (Event Resp) → Prop}
    (hQ : ∀ redis' h', Swept T (fun k => globMatch pattern.toList k.toList = true) st.redis redis' →
      Q (.ok ()) { st with redis := redis' } h') (n cursor : Nat) (hn : 0 < n)
    (hfuel : (if cursor = 0 then [] else scanReplies h).length + n = fuel)
    (habsent : ∀ x ∈ st.redis, x.key ∉ (if cursor = 0 then [] else scanReplies h).flatten) :
    (scanLoop pattern n cursor).Ends (machine cr conn) A Q st h := by
  induction n generalizing cursor st h with
  | zero => omega
  | succ n ih =>
    refine .bind (ends_redis _ fun c hc => ?_)
    obtain ⟨hfails, hnow, hcomplete, hback⟩ := hserves _ _ _ _ hc
    generalize hkeys : (c.texts.filter fun k =>
      st.redis.any (Redis.live c k) && globMatch pattern.toList k.toList) = keys
    have hexec : Redis.exec c st.redis (.scan cursor pattern) = (some (c.cursor, keys), st.redis) := by
      simp [Redis.exec, hfails, hkeys]
    have hmatch : ∀ k ∈ keys, globMatch pattern.toList k.toList = true := by
      rw [← hkeys]
      intro k hk
      exact (Bool.and_eq_true_iff.mp (List.mem_filter.mp hk).2).2
    rw [hexec]
    refine .bind (sweeps_delKeys hserves keys fun h' hreplies => ?_)
    rw [scanReplies_scan] at hreplies
    rw [Prog.endsThen_ok]
    split
    · next hzero =>
      -- The scan is complete.
      refine hQ _ _ (Swept.after_lose hmatch ⟨fun _ hx => hx, fun _ hx _ => hx, ?_⟩)
      intro x hx hhit
      obtain ⟨hx, hkept⟩ := List.mem_filter.mp hx
      by_contra hlive
      have hlive : c.now < x.expiresAt := by
        simp only [DateTime] at *
        omega
      rcases hcomplete hzero x hx hlive hhit with hk | hk
      · have hmem : x.key ∈ keys := by
          rw [← hkeys]
          refine List.mem_filter.mpr ⟨hk, ?_⟩
          have hany : st.redis.any (Redis.live c x.key) = true :=
            List.any_eq_true.mpr ⟨x, hx, by simp [Redis.live, hlive]⟩
          rw [hany, hhit]
          rfl
        simp [hmem] at hkept
      · exact habsent x hx hk
    · next hnext =>
      have hlength := hback hnext
      apply ih
      · exact fun redis' h'' hswept => hQ redis' h'' (Swept.after_lose hmatch hswept)
      · omega
      · rw [if_neg hnext, hreplies, List.length_append, List.length_singleton]
        omega
      · rw [if_neg hnext, hreplies]
        intro x hx hk
        obtain ⟨hx, hkept⟩ := List.mem_filter.mp hx
        rcases List.mem_append.mp (List.flatten_append ▸ hk) with hk | hk
        · exact habsent x hx hk
        · simp at hk hkept
          exact hkept hk

theorem sweeps_invalidatePerms {svc : AuthSvc} (hconn : svc.cacheConn = true)
    (hfuel : svc.scanFuel = fuel) (hpos : 0 < fuel) (id : String)
    {Q : Except Failure Unit → State → List (Event Resp) → Prop}
    (hQ : ∀ redis' h',
      Swept T (fun k => globMatch (spelledPattern id).toList k.toList = true) st.redis redis' →
      Q (.ok ()) { st with redis := redis' } h') :
    (invalidatePerms svc id).Ends (machine cr conn) A Q st h := by
  rw [invalidatePerms, if_pos hconn]
  apply sweeps_scanLoop hserves _ hQ
  · omega
  · simpa using hfuel
  · simp

end Sweep

/-! ## The ids of a bulk request -/

/-- The assignment of the role to this user goes through. -/
def Assignable (db : Db) (roleName : String) (tenant : Uuid) (project : Option Uuid) (u : Uuid) :
    Prop := ∃ db', Repo.assignRole u roleName tenant project db = .ok ((), db')

/-- Assignments at this project have been added to `db`, whose references exist there. -/
structure Extended (project : Option Uuid) (db db' : Db) : Prop where
  frame : Frame [.userRoles] db db'
  rows : ∃ new, db'.userRoles = db.userRoles ++ new ∧
    ∀ ur ∈ new, ur.projectId = project ∧ Repo.userRoleReferences ur db = true

section Assignable

variable {db db' db'' : Db} {roleName : String} {user tenant : Uuid} {project : Option Uuid}

theorem references_congr (h : Frame [.userRoles, .auditEvents] db db') (ur : UserRole) :
    Repo.userRoleReferences ur db' = Repo.userRoleReferences ur db := by
  simp only [Repo.userRoleReferences, h.users (by simp), h.roles (by simp), h.tenants (by simp),
    h.projects (by simp)]

theorem Extended.audited (h : Extended project db db') : Frame [.userRoles, .auditEvents] db db' :=
  h.frame.mono (by simp)

theorem Extended.refl (project : Option Uuid) (db : Db) : Extended project db db :=
  ⟨Frame.refl _ _, [], by simp, by simp⟩

theorem Extended.assign (h : Extended project db db') {u : Unit}
    (hassign : Repo.assignRole user roleName tenant project db' = .ok (u, db'')) :
    Extended project db db'' := by
  have hins := assignRole_ok hassign
  obtain ⟨new, hnew, hall⟩ := h.rows
  obtain ⟨new', hnew', hall'⟩ := insertUserRoles_rows hins
  refine ⟨h.frame.trans (frame_insertUserRoles hins), new ++ new', by simp [hnew', hnew], ?_⟩
  intro ur hur
  rcases List.mem_append.mp hur with hur | hur
  · exact hall ur hur
  · obtain ⟨⟨id, -, rfl⟩, href⟩ := hall' ur hur
    exact ⟨rfl, (references_congr h.audited _).symm.trans href⟩

theorem insertUserRole_ok_iff {s : Session} {ur : UserRole} :
    (∃ db', Repo.insertUserRole s ur db = .ok db') ↔ s.sees (some ur.tenantId) = true ∧
      ((∃ x ∈ db.userRoles, Repo.assignmentKey x = Repo.assignmentKey ur) ∨
        Repo.userRoleReferences ur db = true) := by
  constructor
  · rintro ⟨db', h⟩
    obtain ⟨hsees, ⟨-, hkey⟩ | ⟨href, -⟩⟩ := insertUserRole_cases h
    · exact ⟨hsees, .inl hkey⟩
    · exact ⟨hsees, .inr href⟩
  · rintro ⟨hsees, hrow⟩
    unfold Repo.insertUserRole
    rw [hsees]
    by_cases hkey : db.userRoles.any (fun x => Repo.assignmentKey x == Repo.assignmentKey ur) = true
    · exact ⟨db, by simp [hkey]⟩
    · have href : Repo.userRoleReferences ur db = true := by
        refine hrow.resolve_left fun ⟨x, hx, hsame⟩ => hkey ?_
        exact List.any_eq_true.mpr ⟨x, hx, beq_iff_eq.mpr hsame⟩
      exact ⟨_, by rw [if_neg (by simp), if_neg hkey, if_neg (by simp [href])]⟩

theorem assignable_iff : Assignable db roleName tenant project user ↔
    ∀ id ∈ Repo.resolveRole roleName tenant db,
      ∃ db', Repo.insertUserRole (tenantTx tenant) ⟨user, id, tenant, project⟩ db = .ok db' := by
  unfold Assignable Repo.assignRole
  -- There is at most one role to assign.
  have hone : (Repo.resolveRole roleName tenant db).length ≤ 1 := by
    simp [Repo.resolveRole]
  rcases hids : Repo.resolveRole roleName tenant db with _ | ⟨id, _ | ⟨id', rest⟩⟩
  · simp [Repo.insertUserRoles]
  · simp only [Repo.insertUserRoles, List.mem_singleton, forall_eq]
    cases h : Repo.insertUserRole (tenantTx tenant) ⟨user, id, tenant, project⟩ db <;> simp
  · simp [hids] at hone

/-- Other assignments at the project make no difference. -/
theorem assignable_of_rows {new : List UserRole} (hframe : Frame [.userRoles, .auditEvents] db db')
    (hnew : db'.userRoles = db.userRoles ++ new)
    (hall : ∀ ur ∈ new, ur.projectId = project ∧ Repo.userRoleReferences ur db = true) :
    Assignable db' roleName tenant project user ↔ Assignable db roleName tenant project user := by
  have hids : Repo.resolveRole roleName tenant db' = Repo.resolveRole roleName tenant db := by
    simp only [Repo.resolveRole, Session.roles, hframe.roles (by simp)]
  rw [assignable_iff, assignable_iff, hids]
  refine forall₂_congr fun id _ => ?_
  rw [insertUserRole_ok_iff, insertUserRole_ok_iff, references_congr hframe, hnew]
  refine and_congr_right fun _ => ⟨?_, ?_⟩
  · rintro (⟨x, hx, hkey⟩ | href)
    · rcases List.mem_append.mp hx with hx | hx
      · exact .inl ⟨x, hx, hkey⟩
      · obtain ⟨hproject, href⟩ := hall x hx
        have hsame : x = ⟨user, id, tenant, project⟩ := by
          simp only [Repo.assignmentKey, Prod.mk.injEq] at hkey
          obtain ⟨huser, hrole, htenant, -⟩ := hkey
          rw [← huser, ← hrole, ← htenant, ← hproject]
        exact .inr (hsame ▸ href)
    · exact .inr href
  · rintro (⟨x, hx, hkey⟩ | href)
    · exact .inl ⟨x, List.mem_append_left _ hx, hkey⟩
    · exact .inr href

theorem Extended.assignable (h : Extended project db db') :
    Assignable db' roleName tenant project user ↔ Assignable db roleName tenant project user := by
  obtain ⟨new, hnew, hall⟩ := h.rows
  exact assignable_of_rows h.audited hnew hall

end Assignable

/-! ## The three calls -/

/-- The texts by which a call names users whose roles it changes. -/
def Call.userTexts : Call → List String
  | .rpc _ _ (.assignRole req) => [req.userId]
  | .rpc _ _ (.revokeRole req) => [req.userId]
  | .rpc _ _ (.assignRoleBulk req) => req.userIds
  | _ => []

/-- The answer reports success for the text; that of a bulk request does when the
text is not listed as failed as often as it was sent. -/
def Call.reports : Call → Except Failure Response → String → Prop
  | .rpc _ _ (.assignRole req), .ok _, s => s = req.userId
  | .rpc _ _ (.revokeRole req), .ok _, s => s = req.userId
  | .rpc _ _ (.assignRoleBulk req), .ok (.bulk out), s => out.failed.count s < req.userIds.count s
  | _, _, _ => False

/-- What a call that answered has done to Redis, for the texts `done` of the ids whose
roles it changed. `connected` is that Postgres answered throughout. -/
structure Invalidated (cr : Crates) (T : DateTime) (connected : Prop) (call : Call)
    (answer : Except Failure Response) (r r' : Redis) (done : List String) : Prop where
  reported : ∀ s, call.reports answer s ↔ s ∈ done
  accepted : ∀ s ∈ done, ∃ u, cr.parseUuid s = some u
  swept : Swept T (fun k => ∃ s ∈ done, globMatch (spelledPattern s).toList k.toList = true) r r'
  together : connected → ∀ s ∈ call.userTexts, ∀ s' ∈ done, cr.parseUuid s = cr.parseUuid s' → s ∈ done

/-- The same for the loop of a bulk request, where `can` tells which users can be
given the role. -/
structure Looped (cr : Crates) (T : DateTime) (connected : Prop) (can : Uuid → Prop)
    (texts : List String) (out : AssignRoleBulkResponse) (r r' : Redis) (done : List String) :
    Prop where
  counted : ∀ s, texts.count s = done.count s + out.failed.count s
  accepted : ∀ s ∈ done, ∃ u, cr.parseUuid s = some u ∧ can u
  swept : Swept T (fun k => ∃ s ∈ done, globMatch (spelledPattern s).toList k.toList = true) r r'
  all : connected → ∀ s ∈ texts, ∀ u, cr.parseUuid s = some u → can u → s ∈ done

section Loop

variable {cr : Crates} {T : DateTime} {connected : Prop} {can : Uuid → Prop} {s : String}
  {texts done : List String} {out : AssignRoleBulkResponse} {r r' r'' : Redis}

theorem Looped.nil (cr : Crates) (T : DateTime) (connected : Prop) (can : Uuid → Prop) (r : Redis) :
    Looped cr T connected can [] ⟨0, []⟩ r r [] where
  counted := by simp
  accepted := by simp
  swept := (Swept.refl T r).imp (by simp)
  all := by simp

theorem Looped.failed (h : Looped cr T connected can texts out r r' done)
    (hs : connected → ∀ u, cr.parseUuid s = some u → ¬can u) :
    Looped cr T connected can (s :: texts) { out with failed := s :: out.failed } r r' done where
  counted s' := by
    simp only [List.count_cons, h.counted s', Nat.add_assoc]
  accepted := h.accepted
  swept := h.swept
  all hc s' hs' u hu hcan := by
    rcases List.mem_cons.mp hs' with rfl | hs'
    · exact absurd hcan (hs hc u hu)
    · exact h.all hc s' hs' u hu hcan

theorem Looped.assigned (h : Looped cr T connected can texts out r' r'' done) {u : Uuid}
    (hu : cr.parseUuid s = some u) (hcan : can u)
    (hswept : Swept T (fun k => globMatch (spelledPattern s).toList k.toList = true) r r') :
    Looped cr T connected can (s :: texts) { out with assigned := out.assigned + 1 } r r''
      (s :: done) where
  counted s' := by
    simp only [List.count_cons, h.counted s']
    omega
  accepted s' hs' := by
    rcases List.mem_cons.mp hs' with rfl | hs'
    · exact ⟨u, hu, hcan⟩
    · exact h.accepted s' hs'
  swept := (hswept.trans h.swept).imp (by simp)
  all hc s' hs' v hv hcan := by
    rcases List.mem_cons.mp hs' with rfl | hs'
    · exact List.mem_cons_self
    · exact List.mem_cons_of_mem s (h.all hc s' hs' v hv hcan)

variable {conn : DbRole} {svc : AuthSvc} {fuel : Nat} {st : State} {h : List (Event Resp)}
  {A : State → List (Event Resp) → Choice → Event Resp → Prop} {roleName : String} {tenant : Uuid}
  {project : Option Uuid} {db : Db}

theorem ends_assignEach (hserves : ∀ st h c e, A st h c e → RedisServes T fuel st h c e)
    (hanswers : ∀ st h c e, A st h c e → connected → Connected st h c e)
    (hconn : svc.cacheConn = true) (hfuel : svc.scanFuel = fuel) (hpos : 0 < fuel)
    (hst : Extended project db st.db)
    {Q : Except Failure AssignRoleBulkResponse → State → List (Event Resp) → Prop}
    (hQ : ∀ out done st' h', Looped cr T connected (Assignable db roleName tenant project) texts out
      st.redis st'.redis done → Q (.ok out) st' h') :
    (assignEach cr svc roleName tenant project texts).Ends (machine cr conn) A Q st h := by
  induction texts generalizing st h Q with
  | nil => exact hQ _ _ st h (Looped.nil _ _ _ _ _)
  | cons s texts ih =>
    refine .bind ?_
    unfold assignOne
    split
    · next hnone =>
      refine .bind (ih hst fun out done st' h' hloop => ?_)
      exact hQ _ _ _ _ (hloop.failed fun _ u hu => absurd (hnone.symm.trans hu) (by simp))
    · next u hu =>
      refine .bind (ends_attempt _ (fun c r db' _ hx => ?_) fun c e ha hx => ?_)
      · have hassign : Repo.assignRole u roleName tenant project st.db = .ok ((), db') := hx
        have hcan : Assignable db roleName tenant project u := hst.assignable.mp ⟨db', hassign⟩
        refine .bind (sweeps_invalidatePerms hserves hconn hfuel hpos s fun redis' h' hswept => ?_)
        refine .bind (ih (hst.assign hassign) fun out done st' h'' hloop => ?_)
        exact hQ _ _ _ _ (hloop.assigned hu hcan hswept)
      · refine .bind (ih hst fun out done st' h' hloop => ?_)
        refine hQ _ _ _ _ (hloop.failed fun hc v hv hcan => ?_)
        -- An answer without a connection is a refusal.
        obtain rfl := Option.some.inj (hv.symm.trans hu)
        obtain ⟨db', hdone⟩ := hst.assignable.mpr hcan
        exact absurd (hdone.symm.trans (hx (hanswers _ _ _ _ ha hc _ rfl))) (by simp)

end Loop

section Calls

variable {cr : Crates} {conn : DbRole} {svc : AuthSvc} {md : MetadataMap} {T : DateTime}
  {connected : Prop} {fuel : Nat} {st : State} {h : List (Event Resp)}
  {A : State → List (Event Resp) → Choice → Event Resp → Prop}

/-- What is to be shown of a call. -/
def Invalidates (cr : Crates) (T : DateTime) (connected : Prop) (call : Call) (st : State)
    (answer : Except Failure Response) (st' : State) : Prop :=
  ∃ done, Invalidated cr T connected call answer st.redis st'.redis done

theorem invalidates_error (call : Call) (e : Failure) {st' : State} (hst : st'.redis = st.redis) :
    Invalidates cr T connected call st (.error e) st' := by
  refine ⟨[], fun s => ?_, by simp, ?_, by simp⟩
  · unfold Call.reports
    split <;> simp_all
  · rw [hst]
    exact (Swept.refl T _).imp (by simp)

variable (hserves : ∀ st h c e, A st h c e → RedisServes T fuel st h c e)
  (hconn : svc.cacheConn = true) (hfuel : svc.scanFuel = fuel) (hpos : 0 < fuel)

include hserves hconn hfuel hpos

/-- A change of one user's roles, and the invalidation after it. -/
theorem ends_change (call : Call) {s text : String} {u : Uuid} (hu : cr.parseUuid s = some u)
    (htexts : call.userTexts = [s]) (hreports : ∀ s', call.reports (.ok (.success true)) s' ↔ s' = s)
    (q : Sql) (e : Failure) (action : String) {st₀ : State} (hst : st₀.redis = st.redis) :
    (do
      let _ ← query q e
      invalidatePerms svc s
      audit cr svc md action s text
      return true : Handler Bool).Ends (machine cr conn) A
        (Prog.EndsThen (machine cr conn) A
          (fun r st' _ => Invalidates cr T connected call st₀ r st')
          fun done => pure (.success done)) st h := by
  refine .bind (ends_query _ _ (fun c r db' _ hx => ?_) fun _ _ _ _ => ?_)
  · refine .bind (sweeps_invalidatePerms hserves hconn hfuel hpos s fun redis' h' hswept => ?_)
    refine .bind (ends_auditAs svc fun db₂ es hf _ => ?_)
    refine ⟨[s], fun s' => (hreports s').trans (List.mem_singleton).symm, ?_, ?_, ?_⟩
    · intro s' hs'
      exact ⟨u, List.mem_singleton.mp hs' ▸ hu⟩
    · rw [hst]
      exact hswept.imp (by simp)
    · intro _ s' hs' _ _ _
      rwa [htexts] at hs'
  · exact invalidates_error call e hst.symm

theorem invalidates_assignRole (req : AssignRoleRequest) :
    ((Rpc.assignRole req).handle cr svc md).Ends (machine cr conn) A
      (fun r st' _ => Invalidates cr T connected (.rpc svc md (.assignRole req)) st r st') st h := by
  have hno : ∀ e, Invalidates cr T connected (.rpc svc md (.assignRole req)) st (.error e) st :=
    fun e => invalidates_error _ e rfl
  refine .bind ?_
  refine .bind (Prog.ends_of_failIf (fun _ => hno _) fun _ => ?_)
  refine .bind (ends_activeTenant (fun _ _ => hno _) fun tenant _ => ?_)
  refine .bind (Prog.ends_of_okOr (fun _ => hno _) fun u hu => ?_)
  refine .bind (ends_validateAssign _ _ _ (fun _ _ => hno _) fun project h' _ _ _ => ?_)
  exact ends_change hserves hconn hfuel hpos (.rpc svc md (.assignRole req)) hu rfl
    (fun _ => Iff.rfl) _ _ _ rfl

theorem invalidates_revokeRole (req : AssignRoleRequest) :
    ((Rpc.revokeRole req).handle cr svc md).Ends (machine cr conn) A
      (fun r st' _ => Invalidates cr T connected (.rpc svc md (.revokeRole req)) st r st') st h := by
  have hno : ∀ e, Invalidates cr T connected (.rpc svc md (.revokeRole req)) st (.error e) st :=
    fun e => invalidates_error _ e rfl
  refine .bind ?_
  refine .bind (Prog.ends_of_failIf (fun _ => hno _) fun _ => ?_)
  refine .bind (ends_activeTenant (fun _ _ => hno _) fun tenant _ => ?_)
  refine .bind (Prog.ends_of_okOr (fun _ => hno _) fun u hu => ?_)
  refine .bind (ends_query _ _ (fun c known db' _ hx => ?_) fun _ _ _ _ => hno _)
  obtain ⟨rfl, rfl⟩ := Prod.mk.inj (Except.ok.inj hx)
  refine .bind (Prog.ends_of_failIf (fun _ => hno _) fun _ => ?_)
  refine .bind (ends_parseOptProject _ (fun _ _ => hno _) fun project _ => ?_)
  exact ends_change hserves hconn hfuel hpos (.rpc svc md (.revokeRole req)) hu rfl
    (fun _ => Iff.rfl) _ _ _ rfl

theorem invalidates_assignRoleBulk (req : AssignRoleBulkRequest)
    (hanswers : ∀ st h c e, A st h c e → connected → Connected st h c e) :
    ((Rpc.assignRoleBulk req).handle cr svc md).Ends (machine cr conn) A
      (fun r st' _ => Invalidates cr T connected (.rpc svc md (.assignRoleBulk req)) st r st')
      st h := by
  have hno : ∀ e, Invalidates cr T connected (.rpc svc md (.assignRoleBulk req)) st (.error e) st :=
    fun e => invalidates_error _ e rfl
  refine .bind ?_
  refine .bind (Prog.ends_of_failIf (fun _ => hno _) fun _ => ?_)
  refine .bind (ends_activeTenant (fun _ _ => hno _) fun tenant _ => ?_)
  refine .bind (ends_validateAssign _ _ _ (fun _ _ => hno _) fun project h' _ _ _ => ?_)
  refine .bind (ends_assignEach hserves hanswers hconn hfuel hpos (Extended.refl _ _)
    fun out done st' h'' hloop => ?_)
  refine .bind (ends_auditAs svc fun db₂ es hf _ => ?_)
  refine ⟨done, fun s => ?_, fun s hs => ?_, hloop.swept, fun hc s hs s' hs' hsame => ?_⟩
  · have hcount := hloop.counted s
    change out.failed.count s < req.userIds.count s ↔ s ∈ done
    rw [← List.count_pos_iff]
    omega
  · obtain ⟨u, hu, -⟩ := hloop.accepted s hs
    exact ⟨u, hu⟩
  · obtain ⟨u, hu, hcan⟩ := hloop.accepted s' hs'
    exact hloop.all hc s hs u (hsame.trans hu) hcan

end Calls

/-! ## Entries after a call -/

/-- The user has no entry that lives beyond `T`. -/
def NoEntry (cr : Crates) (T : DateTime) (u : Uuid) (r : Redis) : Prop :=
  ∀ x ∈ r, EntryOf cr u x.key → x.expiresAt ≤ T

/-- The replies that an invalidation of the call may read; none without Redis. -/
def Call.scanFuel : Call → Nat
  | .rpc svc _ _ => if svc.cacheConn then svc.scanFuel else 0
  | _ => 0

def Call.isBulk : Call → Bool
  | .rpc _ _ (.assignRoleBulk _) => true
  | _ => false

section Turn

variable {cr : Crates} {conn : DbRole} {st : State} {t : Turn Call Choice} {T : DateTime}

theorem Call.mem_userTexts {call : Call} {answer : Except Failure Response} {s : String}
    (h : call.reports answer s) : s ∈ call.userTexts := by
  unfold Call.reports at h
  split at h
  · exact List.mem_singleton.mpr h
  · exact List.mem_singleton.mpr h
  · exact List.count_pos_iff.mp (Nat.lt_of_le_of_lt (Nat.zero_le _) h)
  · exact h.elim

theorem Call.of_reports {call : Call} {answer : Except Failure Response} {s : String}
    (h : call.reports answer s) : (∃ svc md req, call = .rpc svc md (.assignRole req)) ∨
      (∃ svc md req, call = .rpc svc md (.revokeRole req)) ∨
      ∃ svc md req, call = .rpc svc md (.assignRoleBulk req) := by
  unfold Call.reports at h
  split at h
  · exact .inl ⟨_, _, _, rfl⟩
  · exact .inr (.inl ⟨_, _, _, rfl⟩)
  · exact .inr (.inr ⟨_, _, _, rfl⟩)
  · exact h.elim

theorem Call.scanFuel_pos {svc : AuthSvc} {md : MetadataMap} {r : Rpc}
    (h : 0 < (Call.rpc svc md r).scanFuel) :
    svc.cacheConn = true ∧ svc.scanFuel = (Call.rpc svc md r).scanFuel := by
  cases hconn : svc.cacheConn with
  | true => exact ⟨rfl, by simp [Call.scanFuel, hconn]⟩
  | false => simp [Call.scanFuel, hconn] at h

theorem invalidates_turn (hpos : 0 < t.call.scanFuel)
    (hserves : (t.call.body cr).Meets (machine cr conn) (RedisServes T t.call.scanFuel) t.choices st [])
    {s : String} (hs : t.call.reports (serve cr conn st t).1 s) :
    Invalidates cr T (t.call.isBulk = true →
        (t.call.body cr).Meets (machine cr conn) Connected t.choices st [])
      t.call st (serve cr conn st t).1 (serve cr conn st t).2.1 := by
  obtain ⟨call, cs⟩ := t
  rcases Call.of_reports hs with ⟨svc, md, req, rfl⟩ | ⟨svc, md, req, rfl⟩ | ⟨svc, md, req, rfl⟩
  · obtain ⟨hconn, hfuel⟩ := Call.scanFuel_pos hpos
    exact (invalidates_assignRole (fun _ _ _ _ h => h) hconn hfuel hpos req).eval_meets hserves
  · obtain ⟨hconn, hfuel⟩ := Call.scanFuel_pos hpos
    exact (invalidates_revokeRole (fun _ _ _ _ h => h) hconn hfuel hpos req).eval_meets hserves
  · obtain ⟨hconn, hfuel⟩ := Call.scanFuel_pos hpos
    exact (invalidates_assignRoleBulk (fun _ _ _ _ h => h.1) hconn hfuel hpos req
      fun _ _ _ _ h hc => h.2 hc).eval_meets (hserves.and fun hc => hc rfl)

/-- A role change that nothing interrupts, with Redis working: it takes no entry from
users it does not name, and leaves none to one it names exactly when it names them by
the text of the keys, or they had none. -/
theorem invalidation_follows_iff (hcr : SpellingCrates cr) (hpos : 0 < t.call.scanFuel)
    (hserves : (t.call.body cr).Meets (machine cr conn) (RedisServes T t.call.scanFuel) t.choices st [])
    (u : Uuid) (s : String) (hu : cr.parseUuid s = some u)
    (hs : t.call.reports (serve cr conn st t).1 s) :
    (∀ v, (∀ s', t.call.reports (serve cr conn st t).1 s' → cr.parseUuid s' ≠ some v) →
      ∀ x ∈ st.redis, EntryOf cr v x.key → x ∈ (serve cr conn st t).2.1.redis) ∧
    (t.call.reports (serve cr conn st t).1 (cr.formatUuid u) →
      NoEntry cr T u (serve cr conn st t).2.1.redis) ∧
    ((t.call.isBulk = true →
        (t.call.body cr).Meets (machine cr conn) Connected t.choices st []) →
      (NoEntry cr T u (serve cr conn st t).2.1.redis ↔
        cr.formatUuid u ∈ t.call.userTexts ∨ NoEntry cr T u st.redis)) := by
  obtain ⟨done, hdone⟩ := invalidates_turn hpos hserves hs
  have hhit : ∀ {v : Uuid} {key : String}, EntryOf cr v key →
      ((∃ s ∈ done, globMatch (spelledPattern s).toList key.toList = true) ↔
        cr.formatUuid v ∈ done) := by
    intro v key hkey
    have hmatch : ∀ s ∈ done, (globMatch (spelledPattern s).toList key.toList = true ↔
        s = cr.formatUuid v) := by
      intro s hs
      obtain ⟨u', hu'⟩ := hdone.accepted s hs
      exact match_entry hcr (hcr.accepted s u' hu') hkey
    constructor
    · rintro ⟨s, hs, h⟩
      exact (hmatch s hs).mp h ▸ hs
    · intro h
      exact ⟨_, h, (hmatch _ h).mpr rfl⟩
  have hgone : cr.formatUuid u ∈ done → NoEntry cr T u (serve cr conn st t).2.1.redis :=
    fun h x hx hkey => hdone.swept.gone x hx ((hhit hkey).mpr h)
  refine ⟨fun v hv x hx hkey => ?_, fun h => hgone ((hdone.reported _).mp h), fun hc => ⟨?_, ?_⟩⟩
  · refine hdone.swept.kept x hx fun h => ?_
    exact hv _ ((hdone.reported _).mpr ((hhit hkey).mp h)) (hcr.uuid v)
  · intro hno
    by_cases hmem : cr.formatUuid u ∈ t.call.userTexts
    · exact .inl hmem
    · refine .inr fun x hx hkey => hno x (hdone.swept.kept x hx fun h => hmem ?_) hkey
      exact Call.mem_userTexts ((hdone.reported _).mpr ((hhit hkey).mp h))
  · rintro (hmem | hno)
    · exact hgone (hdone.together hc _ hmem s ((hdone.reported s).mp hs) ((hcr.uuid u).trans hu.symm))
    · exact fun x hx hkey => hno x (hdone.swept.sub x hx) hkey

end Turn

namespace Sample

theorem mem_intercalate {x c : Char} {groups : List (List Char)}
    (h : c ∈ [x].intercalate groups) : c = x ∨ c ∈ groups.flatten := by
  induction groups with
  | nil => simp at h
  | cons g groups ih =>
    cases groups with
    | nil => exact .inr (by simpa using h)
    | cons g' groups =>
      rw [List.intercalate_cons_cons, List.append_assoc, List.mem_append, List.mem_append] at h
      rcases h with h | h | h
      · exact .inr (by simp [h])
      · exact .inl (List.mem_singleton.mp h)
      · exact (ih h).imp_right fun h => by simpa using Or.inr h

theorem hexValue_of_mapM {cs : List Char} {ds : List Nat} (h : cs.mapM hexValue = some ds) :
    ∀ c ∈ cs, hexValue c ≠ none := by
  induction cs generalizing ds with
  | nil => simp
  | cons c cs ih =>
    rw [List.mapM_cons] at h
    obtain ⟨d, hd, hrest⟩ := Option.bind_eq_some_iff.mp h
    obtain ⟨ds', hds, -⟩ := Option.bind_eq_some_iff.mp hrest
    intro c' hc'
    rcases List.mem_cons.mp hc' with rfl | hc'
    · rw [hd]
      simp
    · exact ih hds c' hc'

theorem spellingCrates : SpellingCrates jsonCrates where
  toCacheCrates := cacheCrates
  accepted := by
    intro s u hu c hc
    rw [jsonCrates_parseUuid] at hu
    simp only [parseUuid] at hu
    split at hu
    · obtain ⟨ds, hds, -⟩ := Option.map_eq_some_iff.mp hu
      have hjoin : ['-'].intercalate (s.toList.splitOn '-') = s.toList := List.intercalate_splitOn '-'
      rw [← hjoin] at hc
      rcases mem_intercalate hc with rfl | hc
      · decide
      · have hhex := hexValue_of_mapM hds c hc
        constructor
        · rintro rfl
          exact hhex (by decide)
        · rintro rfl
          exact hhex (by decide)
    · cases hu

/-- The id of user 10, in capital letters. -/
def capitals : String := "00000000-0000-0000-0000-00000000000A"

/-- User 10 has a cache entry for the default tenant. -/
def cachedState : State :=
  { stateOf (user 10 none false) with
    redis := [⟨Scope.key jsonCrates ⟨10, defaultTenantId, none⟩, "[]", seconds 60⟩] }

/-- Every scan is complete with its first reply. -/
def capitalTurn : Turn Call Choice where
  call := .rpc cacheSvc (metadata 9 defaultTenantId "role:assign")
    (.assignRole ⟨capitals, "viewer", ""⟩)
  choices _ := { choice 0 0 "" with texts := [Scope.key jsonCrates ⟨10, defaultTenantId, none⟩] }

theorem capital_serves : (capitalTurn.call.body jsonCrates).Meets (machine jsonCrates .superuser)
    (RedisServes 0 capitalTurn.call.scanFuel) capitalTurn.choices cachedState [] := by
  decide

theorem capital_success :
    (serve jsonCrates .superuser cachedState capitalTurn).1 = .ok (.success true) := by
  decide

theorem invalidation_follows_capitals :
    (∀ v, (∀ s', capitalTurn.call.reports
        (serve jsonCrates .superuser cachedState capitalTurn).1 s' →
        jsonCrates.parseUuid s' ≠ some v) →
      ∀ x ∈ cachedState.redis, EntryOf jsonCrates v x.key →
        x ∈ (serve jsonCrates .superuser cachedState capitalTurn).2.1.redis) ∧
    (capitalTurn.call.reports (serve jsonCrates .superuser cachedState capitalTurn).1
        (jsonCrates.formatUuid 10) →
      NoEntry jsonCrates 0 10 (serve jsonCrates .superuser cachedState capitalTurn).2.1.redis) ∧
    ((capitalTurn.call.isBulk = true → (capitalTurn.call.body jsonCrates).Meets
        (machine jsonCrates .superuser) Connected capitalTurn.choices cachedState []) →
      (NoEntry jsonCrates 0 10 (serve jsonCrates .superuser cachedState capitalTurn).2.1.redis ↔
        jsonCrates.formatUuid 10 ∈ capitalTurn.call.userTexts ∨
          NoEntry jsonCrates 0 10 cachedState.redis)) :=
  invalidation_follows_iff spellingCrates (by decide) capital_serves 10 capitals (by decide)
    (by rw [capital_success]; rfl)

/-- Named by the capitals, the user keeps an entry that lives for a minute. -/
theorem capital_entry_stays :
    (capitalTurn.call.body jsonCrates).Meets (machine jsonCrates .superuser)
      (RedisServes 0 capitalTurn.call.scanFuel) capitalTurn.choices cachedState [] ∧
    jsonCrates.parseUuid capitals = some 10 ∧
    capitalTurn.call.reports (serve jsonCrates .superuser cachedState capitalTurn).1 capitals ∧
    ¬NoEntry jsonCrates 0 10 (serve jsonCrates .superuser cachedState capitalTurn).2.1.redis := by
  have hentry : ⟨permsKey (formatUuid defaultTenantId) "" (formatUuid 10), "[]", seconds 60⟩ ∈
      (serve jsonCrates .superuser cachedState capitalTurn).2.1.redis := by
    decide
  refine ⟨capital_serves, by decide, by rw [capital_success]; rfl, fun hno => ?_⟩
  have hexpired := hno _ hentry ⟨formatUuid defaultTenantId, "", by decide, by decide, rfl⟩
  exact absurd hexpired (by decide)

end Sample

end IamAuth
