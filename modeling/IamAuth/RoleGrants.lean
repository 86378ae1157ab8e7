import IamAuth.CacheWrites

/-!
# Permissions after changes of a role

grant_permission, revoke_permission and delete_role change the permissions of every
holder of a role and leave the cache alone. In a run of one call after another the
cache stays right as long as nothing but a followed-up role change alters the
permissions of a scope that has an unexpired entry.
-/

set_option autoImplicit false

namespace IamAuth

open Interleave

/-! ## Runs of one call after another -/

/-- The account of the user has been removed. -/
def Gone (user : Uuid) (db : Db) : Prop := ∀ x ∈ db.users, x.id ≠ user

instance (user : Uuid) (db : Db) : Decidable (Gone user db) :=
  inferInstanceAs (Decidable (∀ x ∈ db.users, _))

/-- A call starts when no other is in flight, at a replica with Redis. -/
def Alone (w : World) : Act → Prop
  | .start k => (∀ i < w.threads.length, w.pending i = none) ∧
    match k with
    | .rpc svc _ _ => svc.cacheConn = true
    | _ => True
  | _ => True

instance (w : World) (l : Act) : Decidable (Alone w l) := by
  unfold Alone
  split
  · refine @instDecidableAnd _ _ inferInstance ?_
    split <;> infer_instance
  · infer_instance

/-- One label of a sequential run over a Redis that works. -/
structure SequentialRun (cr : Crates) (conn : DbRole) (now : DateTime) (w : World) (l : Act) :
    Prop where
  alone : Alone w l
  clock : now ≤ redisNow w now l
  redis : RedisWorks cr conn w l

instance (cr : Crates) (conn : DbRole) (now : DateTime) (w : World) (l : Act) :
    Decidable (SequentialRun cr conn now w l) :=
  decidable_of_iff (Alone w l ∧ now ≤ redisNow w now l ∧ RedisWorks cr conn w l)
    ⟨fun h => ⟨h.1, h.2.1, h.2.2⟩, fun h => ⟨h.alone, h.clock, h.redis⟩⟩

/-- The ids in the claims are written as `Uuid::to_string` writes them. -/
def Claims.canonical (cr : Crates) (claims : Claims) : Bool :=
  IamAuth.canonical cr claims.sub &&
    (claims.tenantId == "" || IamAuth.canonical cr claims.tenantId) &&
    (claims.projectId == "" || IamAuth.canonical cr claims.projectId)

/-- What validate_token accepts are tokens with such claims. -/
def CanonicalTokens (cr : Crates) (w : World) : Act → Prop
  | .step i c =>
    match w.pending i with
    | some (.sys (.jwtParseAccess token)) =>
      ∀ claims ∈ cr.jwtParseAccess c.now token, claims.canonical cr = true
    | _ => True
  | _ => True

instance (cr : Crates) (w : World) (l : Act) : Decidable (CanonicalTokens cr w l) := by
  unfold CanonicalTokens
  match l with
  | .start k => exact isTrue trivial
  | .env e => exact isTrue trivial
  | .step i c =>
    dsimp only
    generalize w.pending i = pending
    match pending with
    | none => exact isTrue trivial
    | some (.sql s) => exact isTrue trivial
    | some (.redis cmd) => exact isTrue trivial
    | some (.sys (.jwtParseAccess token)) => exact inferInstanceAs (Decidable (∀ claims ∈ _, _))
    | some (.sys .utcNow) | some (.sys .newUuid) | some (.sys .genRefreshToken)
    | some (.sys (.genHex _)) | some (.sys .genCode) | some (.sys .genNonce)
    | some (.sys (.generateRecoveryCodes _)) | some (.sys (.generateTotp _))
    | some (.sys (.validateTotp ..)) | some (.sys (.hashPassword _))
    | some (.sys (.verifyPassword ..)) | some (.sys (.jwtIssue ..))
    | some (.sys (.jwtIssueMfa ..)) | some (.sys (.jwtIssueIdToken ..))
    | some (.sys (.jwtParse _)) => exact isTrue trivial

/-- The permissions of a scope with an unexpired entry change by a role change that
an invalidation follows, or by the removal of the account. -/
structure EntriesKept (cr : Crates) (conn : DbRole) (now : DateTime) (w : World) (l : Act) :
    Prop where
  perms : KeepsPerms cr conn Gone now w l
  tokens : CanonicalTokens cr w l

instance (cr : Crates) (conn : DbRole) (now : DateTime) (w : World) (l : Act) :
    Decidable (EntriesKept cr conn now w l) :=
  decidable_of_iff (KeepsPerms cr conn Gone now w l ∧ CanonicalTokens cr w l)
    ⟨fun h => ⟨h.1, h.2⟩, fun h => ⟨h.perms, h.tokens⟩⟩

/-! ## What holds in such a run -/

/-- What a validation in flight has read of its user is still so. -/
def Stands (conn : DbRole) (db : Db) : Event Resp → Prop
  | ⟨.sql (.isUserActive u), .ok true⟩ => Repo.isUserActive u db = true
  | ⟨.sql (.getUserPermissionsScoped u t p), .ok perms⟩ =>
    perms = Repo.getUserPermissionsScoped conn u t p db
  | _ => True

def Call.validates : Call → Bool
  | .rpc _ _ (.validateToken _) => true
  | _ => false

/-- validate_token changes no table, and nothing else writes for a scope. -/
def scopeMonitor (cr : Crates) (k : Call) : Monitor Resp Unit :=
  Monitor.emitting fun o => (k.validates = true → Reads o) ∧ (k.validates = false → Unscoped cr o)

theorem along_scopeBody (cr : Crates) (k : Call) :
    (k.body cr).Along (scopeMonitor cr k) (fun _ _ => True) () := by
  by_cases hk : ∃ svc md req, k = .rpc svc md (.validateToken req)
  · obtain ⟨svc, md, req, rfl⟩ := hk
    have hbody : ((Call.rpc svc md (.validateToken req)).body cr).Emits Reads :=
      .bind (reads_validateToken cr svc req) fun _ => trivial
    refine hbody.imp fun o ho => ⟨fun _ => ho, ?_⟩
    intro hno
    cases hno
  · have hno : k.validates = false := by
      unfold Call.validates
      split
      · exact absurd ⟨_, _, _, rfl⟩ hk
      · rfl
    refine (unscoped_body cr k fun svc md req h => hk ⟨svc, md, req, h⟩).imp fun o ho => ⟨?_, fun _ => ho⟩
    intro hyes
    rw [hno] at hyes
    cases hyes

structure Grants (cr : Crates) (conn : DbRole) (now : DateTime) (w : World) : Prop where
  cache : CacheInv cr conn Gone w now
  reads : TracksReads cr w
  scopes : Pool.Tracks (scopeMonitor cr) (fun _ _ _ => True) (fun _ => ()) w
  single : ∀ i j, w.pending i ≠ none → w.pending j ≠ none → i = j
  cached : ∀ i svc md r, w.callOf i = some (.rpc svc md r) → svc.cacheConn = true
  stands : ∀ i k, w.callOf i = some k → k.validates = true → w.pending i ≠ none →
    ∀ e ∈ w.hist i, Stands conn w.state.db e
  tokens : ∀ i token claims, (i, (⟨.sys (.jwtParseAccess token), some claims⟩ : Event Resp)) ∈ w.log →
    claims.canonical cr = true

section Step

variable {cr : Crates} {conn : DbRole} {now : DateTime} {w : World}

theorem Stands.frame {db db' : Db} (hframe : Frame [] db db') {e : Event Resp}
    (h : Stands conn db e) : Stands conn db' e := by
  unfold Stands at h ⊢
  split at h
  · next u =>
    rw [Repo.isUserActive, Repo.getUserById, hframe.users (by simp)]
    exact h
  · next u t p perms =>
    have hsame := @Scope.perms_frame conn _ _ ⟨u, t, p⟩ [] hframe (by simp) (by simp)
    exact h.trans hsame.symm
  · trivial

theorem stands_exec (c : Choice) (o : Op) (st : State) :
    Stands conn st.db ⟨o, ((machine cr conn).exec o c st).1⟩ := by
  cases o with
  | redis q => trivial
  | sys q => trivial
  | sql q =>
    rw [exec_sql_reply]
    rcases Sql.run_cases conn q c st.db with ⟨e, he⟩ | ⟨r, db', hx, hr⟩
    · rw [he]
      cases q <;> trivial
    · rw [hr]
      cases q <;> try trivial
      case isUserActive u =>
        cases hx
        cases hactive : Repo.isUserActive u st.db with
        | true => exact hactive
        | false => trivial
      case getUserPermissionsScoped u t p =>
        cases hx
        exact rfl

/-- The call that is in flight is the only one that may have an entry to delete. -/
theorem Grants.not_covered (h : Grants cr conn now w) {i : Nat} {k : Call}
    (hk : w.callOf i = some k) (hvalidates : k.validates = true) (hp : w.pending i ≠ none)
    (j : Nat) (user : Uuid) (key : String) : ¬ Covers cr w j user key := by
  intro hcov
  have hidle : inval cr w j = .idle := by
    by_cases hj : w.pending j = none
    · rcases h.cache.tracks.ended hj with hidle | hexhausted
      · exact hidle
      · rw [h.cache.alive j] at hexhausted
        cases hexhausted
    · obtain rfl := h.single j i hj hp
      apply inval_of_none hk
      unfold Call.validates at hvalidates
      split at hvalidates
      · rfl
      · cases hvalidates
  rw [Covers, hidle] at hcov
  exact hcov

/-- A validation in flight that has seen its user active finds the cache right. -/
theorem Grants.entry (h : Grants cr conn now w) {i : Nat} {k : Call}
    (hk : w.callOf i = some k) (hvalidates : k.validates = true) (hp : w.pending i ≠ none)
    {s : Scope} (hactive : ⟨.sql (.isUserActive s.user), .ok true⟩ ∈ w.hist i) {e : RedisEntry}
    (he : e ∈ w.state.redis) (hlive : now < e.expiresAt) (hs : scopeOf cr e.key = some s) :
    e.value = cr.permsToJson (s.perms conn w.state.db) := by
  rcases h.cache.entries e he hlive s hs with hvalue | hgone | ⟨j, hj⟩
  · exact hvalue
  · have hstands : Repo.isUserActive s.user w.state.db = true :=
      h.stands i k hk hvalidates hp _ hactive
    unfold Repo.isUserActive at hstands
    split at hstands
    · next x hx => 
      exact absurd (getUserById_id hx) (hgone x (List.mem_of_find?_eq_some hx))
    · cases hstands
  · exact absurd hj (h.not_covered hk hvalidates hp j _ _)

/-- What a validation writes is what the database gives. -/
theorem Grants.writesFresh (h : Grants cr conn now w) (l : Act) : WritesFresh cr conn w l := by
  cases l with
  | start k => trivial
  | env e => trivial
  | step i c =>
    simp only [WritesFresh]
    split
    · next key value ttl hp =>
      intro s hs
      left
      obtain ⟨k, hk, hreads, hunscoped⟩ := h.scopes.pending hp none
      have hvalidates : k.validates = true := by
        cases hv : k.validates with
        | true => rfl
        | false =>
          have hnone : scopeOf cr key = none := hunscoped hv
          rw [hnone] at hs
          cases hs
      obtain ⟨k', -, hrule⟩ := h.reads.pending_history hp none
      obtain ⟨h', perms, hhist, hvalue⟩ := hrule s hs
      have hstands := h.stands i k hk hvalidates (by simp [hp])
        ⟨.sql (.getUserPermissionsScoped s.user s.tenant s.project), .ok perms⟩ (by simp [hhist])
      rw [hvalue, show perms = s.perms conn w.state.db from hstands]
    · trivial

/-- After a step of a call it is still the only one in flight. -/
theorem Grants.only (h : Grants cr conn now w) {i : Nat} {o : Op} (hp : w.pending i = some o)
    (c : Choice) {j : Nat}
    (hj : (Pool.next (machine cr conn) (Call.body cr) w (.step i c)).pending j ≠ none) : j = i := by
  by_contra hji
  have hlt : j < w.threads.length := by
    obtain ⟨o', ho'⟩ := Option.ne_none_iff_exists'.mp hj
    obtain ⟨k, f, ht⟩ := Pool.pending_eq_some.1 ho'
    have hlt := (List.getElem?_eq_some_iff.mp ht).1
    rwa [Pool.length_step] at hlt
  rw [Pool.pending_next _ _ hlt (by rintro c' ⟨⟩; exact hji rfl)] at hj
  exact hji (h.single j i hj (by simp [hp]))

theorem Grants.next_step (hcr : CacheCrates cr) {i : Nat} {c : Choice} {o : Op}
    (hp : w.pending i = some o) (hl : SequentialRun cr conn now w (.step i c))
    (hkept : EntriesKept cr conn now w (.step i c)) (h : Grants cr conn now w) :
    Grants cr conn (redisNow w now (.step i c))
      (Pool.next (machine cr conn) (Call.body cr) w (.step i c)) := by
  obtain ⟨hstate, hlog⟩ := world_step cr conn hp c
  have hold : ∀ {j k}, (Pool.next (machine cr conn) (Call.body cr) w (.step i c)).callOf j = some k →
      w.callOf j = some k := by
    intro j k hk
    rcases Pool.callOf_of_next hk with hold | ⟨hstart, -⟩
    · exact hold
    · cases hstart
  refine ⟨h.cache.next hcr _ hl.clock hl.redis hkept.perms (h.writesFresh _),
    Pool.tracks_next (along_readBody hcr) _ h.reads, Pool.tracks_next (along_scopeBody cr) _ h.scopes,
    ?_, ?_, ?_, ?_⟩
  · intro j j' hj hj'
    rw [h.only hp c hj, h.only hp c hj']
  · intro j svc md r hk
    exact h.cached j svc md r (hold hk)
  · intro j k hk hvalidates hj e he
    obtain rfl := h.only hp c hj
    obtain ⟨k', hk', hreads, -⟩ := h.scopes.pending hp ((machine cr conn).exec o c w.state).1
    cases hk'.symm.trans (hold hk)
    have hframe : Frame [] w.state.db
        (Pool.next (machine cr conn) (Call.body cr) w (.step j c)).state.db := by
      rw [hstate]
      cases o with
      | sql q =>
        have hwrites : q.writes = [] := hreads hvalidates
        have hrun := Sql.run_frame conn q c w.state.db
        rwa [hwrites] at hrun
      | redis q => exact .refl _ _
      | sys q => exact .refl _ _
    rw [Pool.hist, hlog, List.filterMap_append] at he
    rcases List.mem_append.mp he with he | he
    · exact (h.stands j k (hold hk) hvalidates (by simp [hp]) e he).frame hframe
    · obtain rfl : e = ⟨o, ((machine cr conn).exec o c w.state).1⟩ := by
        simpa [Pool.ownEvent] using he
      exact (stands_exec c o w.state).frame hframe
  · intro j token claims hmem
    rw [hlog] at hmem
    rcases List.mem_append.mp hmem with hmem | hmem
    · exact h.tokens j token claims hmem
    · have hevent := (Prod.mk.inj (List.mem_singleton.mp hmem)).2
      have htokens := hkept.tokens
      obtain ⟨ho, hreply⟩ := Sigma.mk.inj hevent
      subst ho
      simp only [CanonicalTokens, hp] at htokens
      exact htokens claims (eq_of_heq hreply).symm

theorem Grants.next_start (hcr : CacheCrates cr) {k : Call}
    (hl : SequentialRun cr conn now w (.start k)) (hkept : EntriesKept cr conn now w (.start k))
    (h : Grants cr conn now w) :
    Grants cr conn now (Pool.next (machine cr conn) (Call.body cr) w (.start k)) := by
  have hquiet := Pool.quiet_of_threads hl.alone.1
  have hnew : ∀ {j}, (Pool.next (machine cr conn) (Call.body cr) w (.start k)).pending j ≠ none →
      j = w.threads.length := by
    intro j hj
    by_contra hne
    have hlt : j < w.threads.length := by
      obtain ⟨o, ho⟩ := Option.ne_none_iff_exists'.mp hj
      obtain ⟨k', f, ht⟩ := Pool.pending_eq_some.1 ho
      have hlt := (List.getElem?_eq_some_iff.mp ht).1
      simp only [Pool.next, List.length_append, List.length_singleton] at hlt
      omega
    rw [Pool.pending_next _ _ hlt (by simp), hquiet j] at hj
    exact hj rfl
  refine ⟨h.cache.next hcr _ hl.clock hl.redis hkept.perms (h.writesFresh _),
    Pool.tracks_next (along_readBody hcr) _ h.reads, Pool.tracks_next (along_scopeBody cr) _ h.scopes,
    ?_, ?_, ?_, h.tokens⟩
  · intro j j' hj hj'
    rw [hnew hj, hnew hj']
  · intro j svc md r hk
    rcases Pool.callOf_of_next hk with hold | ⟨hstart, -⟩
    · exact h.cached j svc md r hold
    · cases hstart
      exact hl.alone.2
  · intro j k' _ _ hj e he
    rw [Pool.hist_next_fresh h.reads.fresh (Nat.le_of_eq (hnew hj).symm)] at he
    cases he

theorem Grants.next (hcr : CacheCrates cr) {l : Act}
    (hl : SequentialRun cr conn now w l ∧ EntriesKept cr conn now w l) (h : Grants cr conn now w) :
    Grants cr conn (redisNow w now l) (Pool.next (machine cr conn) (Call.body cr) w l) := by
  cases l with
  | start k => exact h.next_start hcr hl.1 hl.2
  | env a =>
    refine ⟨h.cache.next hcr _ hl.1.clock hl.1.redis hl.2.perms (h.writesFresh _),
      Pool.tracks_next (along_readBody hcr) _ h.reads,
      Pool.tracks_next (along_scopeBody cr) _ h.scopes, h.single, h.cached, ?_, h.tokens⟩
    cases a with
    | loseKeys keys => exact h.stands
  | step i c =>
    cases hp : w.pending i with
    | none =>
      rw [Pool.next_idle hp, redisNow, hp]
      exact h
    | some o => exact h.next_step hcr hp hl.1 hl.2

end Step

/-! ## What validations answer -/

/-- What is seen of the permissions in a run: a validation that ends with it answers,
for a tenant-bound token, what the database then gives; and when no call is in flight
so is every unexpired entry, of a user that has not been removed. -/
structure PermsSeen (cr : Crates) (conn : DbRole) (now : DateTime) (st : State) (ls : List Act) :
    Prop where
  answers : ∀ pre i c svc md req resp, ls = pre ++ [.step i c] →
    (runFrom cr conn st ls).callOf i = some (.rpc svc md (.validateToken req)) →
    (runFrom cr conn st pre).result i = none →
    (runFrom cr conn st ls).result i = some (.ok (.token resp)) → resp.tenantId ≠ "" →
    ∃ claims s, ⟨.sys (.jwtParseAccess req.accessToken), some claims⟩ ∈
        (runFrom cr conn st ls).hist i ∧
      resp.userId = claims.sub ∧ resp.tenantId = claims.tenantId ∧
      resp.projectId = claims.projectId ∧ claims.scope cr = some s ∧
      resp.permissions = s.perms conn (runFrom cr conn st ls).state.db
  entries : (∀ i, (runFrom cr conn st ls).pending i = none) → ∀ s : Scope,
    ∀ e ∈ (runFrom cr conn st ls).state.redis, e.key = s.key cr →
    redisTime cr conn now (Pool.init st) ls < e.expiresAt →
    Gone s.user (runFrom cr conn st ls).state.db ∨
      e.value = cr.permsToJson (s.perms conn (runFrom cr conn st ls).state.db)

section Answers

variable {cr : Crates} {conn : DbRole} {now : DateTime} {w : World}

theorem Grants.init {st : State} (hst : CacheCoherent cr conn now st) :
    Grants cr conn now (Pool.init st) where
  cache := .init hst
  reads := Pool.tracks_init st
  scopes := Pool.tracks_init st
  single := by
    intro i j hi
    exact absurd rfl hi
  cached := by
    intro i svc md r hk
    cases hk
  stands := by
    intro i k hk
    cases hk
  tokens := by
    intro i token claims hmem
    cases hmem

/-- A token with canonical claims is cached under the key of its scope. -/
theorem key_of_canonical {claims : Claims} (hclaims : claims.canonical cr = true)
    (hne : claims.tenantId ≠ "") {s : Scope} (hs : claims.scope cr = some s) :
    claims.key = s.key cr := by
  simp only [Claims.canonical, Bool.and_eq_true, Bool.or_eq_true, beq_iff_eq] at hclaims
  obtain ⟨⟨hsub, htenant⟩, hproject⟩ := hclaims
  simp only [Claims.scope, Option.bind_eq_bind, Option.bind_eq_some_iff] at hs
  obtain ⟨user, huser, tenant, htid, hs⟩ := hs
  have hsub := canonical_eq hsub huser
  have htenant := canonical_eq (htenant.resolve_left hne) htid
  split at hs
  · next hempty =>
    obtain rfl := Option.some.inj hs
    simp [Claims.key, Scope.key, hsub, htenant, hempty]
  · next hne =>
    obtain ⟨p, hp, hs⟩ := Option.bind_eq_some_iff.mp hs
    obtain rfl := Option.some.inj hs
    have hproject := canonical_eq (hproject.resolve_left hne) hp
    simp [Claims.key, Scope.key, hsub, htenant, hproject]

theorem get_hit {c : Choice} {key v : String} {st : State}
    (h : ((machine cr conn).exec (.redis (.get key)) c st).1 = some (some v)) :
    ∃ e ∈ st.redis, (e.key = key ∧ c.now < e.expiresAt) ∧ e.value = v := by
  have h : (if c.fails then none else some ((st.redis.find? (Redis.live c key)).map (·.value))) =
    some (some v) := h
  split at h
  · cases h
  · obtain ⟨e, he, hv⟩ := Option.map_eq_some_iff.mp (Option.some.inj h)
    refine ⟨e, List.mem_of_find?_eq_some he, ?_, hv⟩
    simpa [Redis.live] using List.find?_some he

/-- The last step of a validation is the read of the entry, or its write. -/
theorem Grants.answer (hcr : CacheCrates cr) (h : Grants cr conn now w) {i : Nat} {c : Choice}
    (hclock : now ≤ redisNow w now (.step i c))
    (hafter : Grants cr conn (redisNow w now (.step i c))
      (Pool.next (machine cr conn) (Call.body cr) w (.step i c)))
    {svc : AuthSvc} {md : MetadataMap} {req : ValidateTokenRequest} {resp : ValidateTokenResponse}
    (hk : w.callOf i = some (.rpc svc md (.validateToken req))) (hnone : w.result i = none)
    (hdone : (Pool.next (machine cr conn) (Call.body cr) w (.step i c)).result i =
      some (.ok (.token resp))) (hne : resp.tenantId ≠ "") :
    ∃ claims s, ⟨.sys (.jwtParseAccess req.accessToken), some claims⟩ ∈
        (Pool.next (machine cr conn) (Call.body cr) w (.step i c)).hist i ∧
      resp.userId = claims.sub ∧ resp.tenantId = claims.tenantId ∧
      resp.projectId = claims.projectId ∧ claims.scope cr = some s ∧
      resp.permissions = s.perms conn
        (Pool.next (machine cr conn) (Call.body cr) w (.step i c)).state.db := by
  obtain ⟨o, hp⟩ : ∃ o, w.pending i = some o := by
    apply Option.ne_none_iff_exists'.mp
    intro hp
    rw [Pool.next_idle hp, hnone] at hdone
    cases hdone
  obtain ⟨hstate, hlog⟩ := world_step cr conn hp c
  obtain ⟨k, hk', hpost⟩ := hafter.reads.result_history hdone
  cases (Pool.callOf_next (machine cr conn) (Call.body cr) hk (.step i c)).symm.trans hk'
  obtain ⟨claims, hparse, huser, htenant, hproject, hread⟩ := hpost
  rw [htenant] at hne
  obtain ⟨s, hs, hactive, hperms⟩ := hread (h.cached i svc md _ hk) hne
  refine ⟨claims, s, hparse, huser, htenant, hproject, hs, ?_⟩
  have hkey := key_of_canonical (hafter.tokens i _ claims (Pool.mem_hist.1 hparse)) hne hs
  have hhist : (Pool.next (machine cr conn) (Call.body cr) w (.step i c)).hist i =
      w.hist i ++ [⟨o, ((machine cr conn).exec o c w.state).1⟩] := by
    simp [Pool.hist, hlog, Pool.ownEvent]
  rw [hhist] at hactive hperms
  rcases hperms with ⟨h', v, hlast, hjson⟩ | ⟨h', r, hlast⟩
  · have hevent := (List.append_inj' hlast rfl).2
    rw [List.singleton_inj] at hevent
    rw [hevent] at hactive
    obtain ⟨ho, hreply⟩ := Sigma.mk.inj hevent
    subst ho
    have hactive : ⟨.sql (.isUserActive s.user), .ok true⟩ ∈ w.hist i := by simpa using hactive
    obtain ⟨e, he, hlive, hvalue⟩ := get_hit (eq_of_heq hreply)
    have hes : scopeOf cr e.key = some s := by
      rw [hlive.1, hkey]
      exact scopeOf_key hcr s
    simp only [redisNow, hp] at hclock
    have hright := h.entry hk rfl (by simp [hp]) hactive he (lt_of_le_of_lt hclock hlive.2) hes
    rw [hstate, exec_redis_db]
    apply hcr.json
    rw [← hright, hvalue]
    exact hjson
  · have hlast : w.hist i ++ [⟨o, ((machine cr conn).exec o c w.state).1⟩] =
        (h' ++ [⟨.sql (.getUserPermissionsScoped s.user s.tenant s.project), .ok resp.permissions⟩]) ++
          [⟨.redis (.setEx claims.key (cr.permsToJson resp.permissions) permsTtlSecs), r⟩] := by
      simpa using hlast
    obtain ⟨hbefore, hevent⟩ := List.append_inj' hlast rfl
    rw [List.singleton_inj] at hevent
    obtain ⟨ho, -⟩ := Sigma.mk.inj hevent
    subst ho
    have hstands := h.stands i _ hk rfl (by simp [hp])
      ⟨.sql (.getUserPermissionsScoped s.user s.tenant s.project), .ok resp.permissions⟩
      (by simp [hbefore])
    rw [hstate, exec_redis_db]
    exact hstands

end Answers

/-- In a sequential run over a Redis that works, in which permissions that have an
entry change by role changes that an invalidation follows, every validation sees the
database as it is. -/
theorem permsSeen_sequentialRun {cr : Crates} (hcr : CacheCrates cr) (conn : DbRole)
    {now : DateTime} {st : State} (hst : CacheCoherent cr conn now st) {ls : List Act}
    (hrun : Timed cr conn (fun now w l => SequentialRun cr conn now w l ∧ EntriesKept cr conn now w l)
      now (Pool.init st) ls) : PermsSeen cr conn now st ls where
  answers := by
    rintro pre i c svc md req resp rfl hk hnone hdone hne
    obtain ⟨hpre, hlast, -⟩ := timed_append.1 hrun
    have hinv := timed_inv (I := Grants cr conn) (fun now w l hl h => h.next hcr hl) hpre
      (Grants.init hst)
    rw [runFrom_append, Pool.run_cons, Pool.run_nil] at hk hdone ⊢
    have hbefore : (runFrom cr conn st pre).callOf i = some (.rpc svc md (.validateToken req)) := by
      rcases Pool.callOf_of_next hk with hold | ⟨hstart, -⟩
      · exact hold
      · cases hstart
    exact hinv.answer hcr hlast.1.clock (hinv.next hcr hlast) hbefore hnone hdone hne
  entries := by
    intro hquiet s e he hkey hlive
    have hinv := timed_inv (I := Grants cr conn) (fun now w l hl h => h.next hcr hl) hrun
      (Grants.init hst)
    have hs : scopeOf cr e.key = some s := by
      rw [hkey]
      exact scopeOf_key hcr s
    exact (hinv.cache.quiescent hquiet he hlive hs).symm

/-! ## Two runs -/

namespace Sample

def roleAdmin : MetadataMap := metadata 9 defaultTenantId "role:write,role:assign"

def createOps : Call := .rpc cacheSvc roleAdmin (.createRole ⟨"ops", ""⟩)

def grantOps : Call := .rpc cacheSvc roleAdmin (.grantPermission ⟨"ops", "user:read"⟩)

def assignOps : Call := .rpc cacheSvc roleAdmin (.assignRole ⟨formatUuid 7, "ops", ""⟩)

/-- The role gains a permission after a validation of its holder. -/
def lateGrant : List Act :=
  .start createOps :: moves 0 1 ++ .start assignOps :: moves 1 3 ++
    .start memberValidation :: moves 2 8 ++ .start grantOps :: moves 3 2 ++
    .start memberValidation :: moves 4 6

/-- The role has its permission before anyone holds it. -/
def earlyGrant : List Act :=
  .start createOps :: moves 0 1 ++ .start grantOps :: moves 1 2 ++
    .start memberValidation :: moves 2 8 ++ .start assignOps :: moves 3 2 ++
    .step 3 { choice 1 0 "" with texts := [memberScope.key jsonCrates] } :: moves 3 1 ++
    .start memberValidation :: moves 4 8

end Sample

/-- The last validation starts after the grant has succeeded, and answers without
the permission that the database gives. -/
theorem lateGrant_stale :
    Timed Sample.jsonCrates .superuser (SequentialRun Sample.jsonCrates .superuser) 0
      (Pool.init (Sample.stateOf Sample.member)) Sample.lateGrant ∧
    (runFrom Sample.jsonCrates .superuser (Sample.stateOf Sample.member)
      Sample.lateGrant).result 3 = some (.ok (.success true)) ∧
    (runFrom Sample.jsonCrates .superuser (Sample.stateOf Sample.member)
      Sample.lateGrant).result 4 = some (.ok (.token ⟨Sample.formatUuid 7, "u@iam.local", ["ops"],
        [], Sample.formatUuid defaultTenantId, ""⟩)) ∧
    Sample.memberScope.perms .superuser (runFrom Sample.jsonCrates .superuser
      (Sample.stateOf Sample.member) Sample.lateGrant).state.db = ["user:read"] := by
  decide +kernel

theorem permsSeen_earlyGrant : PermsSeen Sample.jsonCrates .superuser 0
    (Sample.stateOf Sample.member) Sample.earlyGrant := by
  have hrun : Timed Sample.jsonCrates .superuser (fun now w l =>
      SequentialRun Sample.jsonCrates .superuser now w l ∧
        EntriesKept Sample.jsonCrates .superuser now w l) 0
      (Pool.init (Sample.stateOf Sample.member)) Sample.earlyGrant := by
    decide +kernel
  refine permsSeen_sequentialRun Sample.cacheCrates .superuser ?_ hrun
  intro s e he
  cases he

end IamAuth
