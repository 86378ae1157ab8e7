import IamAuth.Along
import IamAuth.Frame

/-!
# Logged-out access tokens

logout writes a token's jti to Postgres and to Redis, each as far as it can.
validate_token asks Redis first and Postgres only when Redis does not answer, so
a Postgres row refuses the token except where Redis says that it has no entry.
-/

set_option autoImplicit false

namespace IamAuth

open Interleave

/-! ## What the two calls have done -/

/-- The jti that logout revokes is that of the token it was given. -/
def denyRule : Call → List (Event Resp) → Event Resp → Prop
  | .rpc _ _ (.logout req), h, ⟨.sql (.revokeAccessJti jti _), _⟩ =>
    ∃ claims, ⟨.sys (.jwtParse req.accessToken), some claims⟩ ∈ h ∧ claims.jti = jti
  | _, _, _ => True

/-- Postgres, or Redis at a replica that has it, has been asked and has said that
the jti is not denied. -/
def notDenied (svc : AuthSvc) (jti : String) (h : List (Event Resp)) : Prop :=
  ⟨.sql (.isTokenRevoked jti), .ok false⟩ ∈ h ∨
    (svc.cacheConn = true ∧ ⟨.redis (.exists ("denylist:" ++ jti)), some false⟩ ∈ h)

/-- A token that validate_token accepts was found on no denylist. -/
def denyPost : Call → List (Event Resp) → Except Failure Response → Prop
  | .rpc svc _ (.validateToken req), h, .ok _ => ∃ claims,
      ⟨.sys (.jwtParseAccess req.accessToken), some claims⟩ ∈ h ∧ notDenied svc claims.jti h
  | _, _, _ => True

def denyMonitor (k : Call) : Monitor Resp (List (Event Resp)) := .history (denyRule k)

section Handlers

variable (cr : Crates) (svc : AuthSvc) (md : MetadataMap)

theorem along_logout_deny (req : LogoutRequest) :
    ((Rpc.logout req).handle cr svc md).Along (denyMonitor (.rpc svc md (.logout req)))
      (denyPost (.rpc svc md (.logout req))) [] := by
  simp [Rpc.handle, logout, denyAccessToken, denyMonitor, denyRule, denyPost]
  intro _
  constructor
  · intro _
    simp [audit, denyRule, denyPost]
  · intro _ parsed
    cases parsed with
    | none => simp [audit, denyRule, denyPost]
    | some claims =>
      cases h : fromTimestamp claims.exp <;>
        simp [recordRevoked, h, deny, audit, denyRule, denyPost]

/-- The check of the denylists, before anything that rests on its outcome. -/
theorem along_refuseIfDenied {ok : List (Event Resp) → Event Resp → Prop}
    (hok : ∀ h e, ok h e) {jti : String} {post : List (Event Resp) → Except Failure Unit → Prop}
    (herr : ∀ h e, post h (.error e)) (h : List (Event Resp))
    (hpost : ∀ h', notDenied svc jti (h ++ h') → post (h ++ h') (.ok ())) :
    (refuseIfDenied svc jti).Along (.history ok) post h := by
  simp only [refuseIfDenied, isDenied, Prog.along_bind, Prog.along_ite]
  refine ⟨fun _ => ?_, fun _ => ⟨fun hconn => ?_, fun _ => ?_⟩⟩
  · simp [hok, herr]
    exact hpost _ (.inl (by simp))
  · refine (along_redis (.exists ("denylist:" ++ jti)) _).mpr fun r => ⟨hok _ _, ?_⟩
    rcases r with _ | _ | _
    · simp [hok, herr]
      exact hpost [_, _] (.inl (by simp))
    · simpa using hpost [_] (.inr ⟨hconn, by simp⟩)
    · simp [herr]
  · simp [hok, herr]
    exact hpost _ (.inl (by simp))

theorem along_validateToken_deny (req : ValidateTokenRequest) :
    ((Rpc.validateToken req).handle cr svc md).Along (denyMonitor (.rpc svc md (.validateToken req)))
      (denyPost (.rpc svc md (.validateToken req))) [] := by
  have hok : ∀ h e, denyRule (.rpc svc md (.validateToken req)) h e := fun _ _ => trivial
  simp only [Rpc.handle, validateToken, denyMonitor, Prog.along_bind, along_sys,
    Monitor.history_ok, Monitor.history_upd, Prog.then_ok, Prog.along_okOr]
  refine fun r => ⟨hok _ _, fun _ => trivial, ?_⟩
  rintro claims rfl
  refine along_refuseIfDenied svc hok (fun _ _ => trivial) _ fun h' hden => ?_
  -- Whatever comes next, the outcome of the check stays in the history.
  refine Prog.along_persists (Q := fun h => ⟨.sys (.jwtParseAccess req.accessToken), some claims⟩ ∈ h ∧
    notDenied svc claims.jti h) (fun _ _ _ => trivial) ?_ ?_ _ ⟨by simp, hden⟩
  · rintro h e ⟨hparse, hden⟩
    exact ⟨List.mem_append_left _ hparse, hden.imp (List.mem_append_left _)
      (And.imp_right (List.mem_append_left _))⟩
  · rintro h (e | a) hQ
    · trivial
    · exact ⟨claims, hQ⟩

end Handlers

theorem along_denyBody (cr : Crates) (k : Call) :
    (k.body cr).Along (denyMonitor k) (denyPost k) [] := by
  cases k with
  | rpc svc md r =>
    cases r
    case logout req => exact along_logout_deny cr svc md req
    case validateToken req => exact along_validateToken_deny cr svc md req
    all_goals exact Prog.along_trivial (fun _ _ => trivial) (fun _ _ => trivial) _ _
  | start env => exact Prog.along_trivial (fun _ _ => trivial) (fun _ _ => trivial) _ _
  | profileCreationFailed userId reason =>
    exact Prog.along_trivial (fun _ _ => trivial) (fun _ _ => trivial) _ _

/-! ## Rows of the Postgres denylist stay -/

theorem isTokenRevoked_run {conn : DbRole} {c : Choice} {db : Db} {jti : String} (s : Sql)
    (h : Repo.isTokenRevoked jti db = true) :
    Repo.isTokenRevoked jti (s.run conn c db).2 = true := by
  by_cases hw : .revokedTokens ∈ s.writes
  · cases s <;> simp only [Sql.writes, List.mem_cons, List.not_mem_nil, reduceCtorEq, or_self] at hw
    case revokeAccessJti jti' exp =>
      simp only [Sql.run, Sql.exec, Repo.revokeAccessJti]
      split
      · exact h
      · split
        · exact h
        · simp [Repo.isTokenRevoked] at h ⊢
          exact .inl h
  · rw [Repo.isTokenRevoked, (Sql.run_frame conn s c db).revokedTokens hw]
    exact h

theorem isTokenRevoked_recorded {conn : DbRole} {c : Choice} {db : Db} {jti : String}
    {exp : DateTime} {r : Unit} (h : ((Sql.revokeAccessJti jti exp).run conn c db).1 = .ok r) :
    Repo.isTokenRevoked jti ((Sql.revokeAccessJti jti exp).run conn c db).2 = true := by
  rcases Sql.run_cases conn (.revokeAccessJti jti exp) c db with ⟨e, he⟩ | ⟨r', db', hx, hr⟩
  · rw [he] at h
    cases h
  · rw [hr]
    cases hx
    unfold Repo.revokeAccessJti
    split
    · next hany => exact hany
    · simp [Repo.isTokenRevoked]

/-- The event has written the row of this jti, or found it there. -/
def recordsJti (jti : String) : Event Resp → Bool
  | ⟨.sql (.revokeAccessJti j _), .ok _⟩ => j == jti
  | _ => false

theorem recordsJti_iff {jti : String} {e : Event Resp} :
    recordsJti jti e = true ↔ ∃ exp, e = ⟨.sql (.revokeAccessJti jti exp), .ok ()⟩ := by
  obtain ⟨o, r⟩ := e
  cases o with
  | redis c => simp [recordsJti]
  | sys c => simp [recordsJti]
  | sql q => cases q <;> cases r <;> simp [recordsJti]

/-- The calls follow their rules, and what they recorded is still there. -/
structure DenyInv (w : World) : Prop where
  tracks : Pool.Tracks denyMonitor denyPost (fun _ => []) w
  rows : ∀ i e jti, (i, e) ∈ w.log → recordsJti jti e = true →
    Repo.isTokenRevoked jti w.state.db = true

section Runs

variable {cr : Crates} {conn : DbRole} {w : World}

theorem denyInv_init (st : State) : DenyInv (Pool.init st) :=
  ⟨Pool.tracks_init st, by simp [Pool.init]⟩

theorem denyInv_next (l : Act) (h : DenyInv w) :
    DenyInv (Pool.next (machine cr conn) (Call.body cr) w l) := by
  refine ⟨Pool.tracks_next (along_denyBody cr) l h.tracks, ?_⟩
  intro i e jti he hrec
  rcases Pool.next_cases (machine cr conn) (Call.body cr) w l with
    ⟨k, -, hw⟩ | ⟨j, c, k, o, f, -, hj, hw⟩ | ⟨j, c, -, -, hw⟩ | ⟨x, -, hw⟩
  · rw [hw] at he ⊢
    exact h.rows i e jti he hrec
  · rw [hw] at he ⊢
    rcases List.mem_append.mp he with he | he
    · have hold := h.rows i e jti he hrec
      cases o with
      | sql s => exact isTokenRevoked_run s hold
      | redis r => exact hold
      | sys s => exact hold
    · obtain ⟨rfl, rfl⟩ := Prod.mk.inj (List.mem_singleton.mp he)
      obtain ⟨exp, hev⟩ := recordsJti_iff.1 hrec
      obtain ⟨rfl, hr⟩ := Sigma.mk.inj hev
      exact isTokenRevoked_recorded (eq_of_heq hr)
  · rw [hw] at he ⊢
    exact h.rows i e jti he hrec
  · rw [hw] at he ⊢
    exact h.rows i e jti he hrec

theorem denyInv_run (ls : List Act) (h : DenyInv w) :
    DenyInv (Pool.run (machine cr conn) (Call.body cr) w ls) :=
  Pool.run_inv_all (fun _ l h => denyInv_next l h) ls h

theorem DenyInv.denied (h : DenyInv w) {j : Nat} {jti : String}
    (hrow : (w.hist j).any (recordsJti jti) = true) (ls : List Act) :
    Repo.isTokenRevoked jti (Pool.run (machine cr conn) (Call.body cr) w ls).state.db = true := by
  obtain ⟨e, he, hrec⟩ := List.any_eq_true.mp hrow
  have hinv : DenyInv (Pool.run (machine cr conn) (Call.body cr) w ls) := denyInv_run ls h
  exact hinv.rows j e jti ((Pool.log_run w ls).subset (Pool.mem_hist.1 he)) hrec

/-- When call `k` asks Redis for the jti, Redis answers that it has no live entry. -/
def missedByRedis (cr : Crates) (conn : DbRole) (w : World) (ls : List Act) (k : Nat)
    (jti : String) : Prop :=
  ∃ pre c post, ls = pre ++ .step k c :: post ∧
    (Pool.run (machine cr conn) (Call.body cr) w pre).pending k =
      some (.redis (.exists ("denylist:" ++ jti))) ∧
    c.fails = false ∧
    (Pool.run (machine cr conn) (Call.body cr) w pre).state.redis.any
      (Redis.live c ("denylist:" ++ jti)) = false

/-- Every parse of a token gives the claims it was signed with. -/
def parsesAlike (cr : Crates) : Prop :=
  ∀ now now' token c c', cr.jwtParse now token = some c → cr.jwtParseAccess now' token = some c' →
    c.jti = c'.jti

/-- A parse in the log of a run is what the crate returned at that time. -/
theorem parse_origin {st : State} {ls : List Act} {i : Nat} {s : Sys} {r : SysReply s}
    (h : (i, (⟨.sys s, r⟩ : Event Resp)) ∈
      (runFrom cr conn st ls).log) :
    ∃ c, r = s.exec cr c := by
  rcases Pool.event_origin h with hlog | ⟨pre, c, post, -, -, hr, -⟩
  · simp [Pool.init] at hlog
  · exact ⟨c, hr⟩

/-- The jti that a logout has recorded is the one validate_token reads. -/
theorem recorded_jti (hcr : parsesAlike cr) {st : State} {ls : List Act} {j k : Nat}
    {svc : AuthSvc} {md : MetadataMap} {req : LogoutRequest} {jti : String} {claims : Claims}
    (hj : (runFrom cr conn st ls).callOf j =
      some (.rpc svc md (.logout req)))
    (hrow : ((runFrom cr conn st ls).hist j).any
      (recordsJti jti) = true)
    (hparse : ⟨.sys (.jwtParseAccess req.accessToken), some claims⟩ ∈
      (runFrom cr conn st ls).hist k) :
    claims.jti = jti := by
  obtain ⟨e, he, hrec⟩ := List.any_eq_true.mp hrow
  obtain ⟨exp, rfl⟩ := recordsJti_iff.1 hrec
  obtain ⟨xs, ys, hlog⟩ := List.append_of_mem (Pool.mem_hist.1 he)
  obtain ⟨k', hk', hok⟩ := (denyInv_run ls (denyInv_init st)).tracks.past_history hlog
  cases hj.symm.trans hk'
  obtain ⟨claims', hparse', rfl⟩ := hok
  have hmem : (j, (⟨.sys (.jwtParse req.accessToken), some claims'⟩ : Event Resp)) ∈
      (runFrom cr conn st ls).log := by
    obtain ⟨x, hx, hown⟩ := List.mem_filterMap.mp hparse'
    rw [hlog]
    exact List.mem_append_left _ (by simp_all [Pool.ownEvent])
  obtain ⟨c, hc⟩ := parse_origin hmem
  obtain ⟨c', hc'⟩ := parse_origin (Pool.mem_hist.1 hparse)
  exact (hcr _ _ _ _ _ hc.symm hc'.symm).symm

/-- Once a logout has recorded the jti of its access token in Postgres, every
validate_token of that token that starts later is refused, unless Redis answers
the denylist check of that call that it does not know the jti. -/
theorem loggedOut_refused (hcr : parsesAlike cr) (st : State) (ls₁ ls₂ : List Act) {j k : Nat}
    {svc svc' : AuthSvc} {md md' : MetadataMap} {req : LogoutRequest} {jti : String}
    {r : Except Failure Response}
    (hj : (runFrom cr conn st ls₁).callOf j =
      some (.rpc svc md (.logout req)))
    (hrow : ((runFrom cr conn st ls₁).hist j).any
      (recordsJti jti) = true)
    (hlater : (runFrom cr conn st ls₁).threads.length ≤ k)
    (hk : (runFrom cr conn st (ls₁ ++ ls₂)).callOf k =
      some (.rpc svc' md' (.validateToken ⟨req.accessToken⟩)))
    (hr : (runFrom cr conn st (ls₁ ++ ls₂)).result k =
      some r) :
    (∃ failure, r = .error failure) ∨
    (svc'.cacheConn = true ∧ missedByRedis cr conn
      (runFrom cr conn st ls₁) ls₂ k jti) := by
  cases r with
  | error failure => exact .inl ⟨failure, rfl⟩
  | ok resp =>
    refine .inr ?_
    have hinv₁ : DenyInv (runFrom cr conn st ls₁) := denyInv_run ls₁ (denyInv_init st)
    have hinv₂ : DenyInv (runFrom cr conn st (ls₁ ++ ls₂)) := denyInv_run _ (denyInv_init st)
    have hrun : runFrom cr conn st (ls₁ ++ ls₂) =
        Pool.run (machine cr conn) (Call.body cr) (runFrom cr conn st ls₁) ls₂ :=
      runFrom_append cr conn st ls₁ ls₂
    obtain ⟨k', hk', hpost⟩ := hinv₂.tracks.result_history hr
    cases hk.symm.trans hk'
    obtain ⟨claims, hparse, hden⟩ := hpost
    have hj₂ : (runFrom cr conn st (ls₁ ++ ls₂)).callOf j = some (.rpc svc md (.logout req)) := by
      rw [hrun]
      exact Pool.callOf_run hj ls₂
    have hrow₂ : ((runFrom cr conn st (ls₁ ++ ls₂)).hist j).any (recordsJti jti) = true := by
      obtain ⟨e, he, hrec⟩ := List.any_eq_true.mp hrow
      rw [hrun]
      exact List.any_eq_true.mpr
        ⟨e, Pool.mem_hist.2 ((Pool.log_run _ ls₂).subset (Pool.mem_hist.1 he)), hrec⟩
    obtain rfl : claims.jti = jti := recorded_jti hcr hj₂ hrow₂ hparse
    rw [hrun] at hden
    rcases hden with hpg | ⟨hconn, hredis⟩
    · -- Postgres still has the row, so it did not say that it has none.
      obtain ⟨pre, c, post, -, -, hreply⟩ := Pool.event_of_later hinv₁.tracks.fresh hlater hpg
      rw [exec_sql_reply, Sql.run] at hreply
      split at hreply
      · cases hreply
      · simp [Sql.exec, hinv₁.denied hrow pre] at hreply
    · obtain ⟨pre, c, post, hls, hp, hreply⟩ := Pool.event_of_later hinv₁.tracks.fresh hlater hredis
      refine ⟨hconn, pre, c, post, hls, hp, ?_⟩
      cases hf : c.fails with
      | true => simp [machine, Redis.exec, hf] at hreply
      | false => exact ⟨rfl, by simpa [machine, Redis.exec, hf] using hreply.symm⟩

end Runs

/-! ## Redis loses its keys -/

theorem Sample.parsesAlike_crates : parsesAlike Sample.crates := by
  intro now now' token c c' h h'
  obtain ⟨h', -⟩ := Option.filter_eq_some_iff.mp h'
  simp only [Sample.crates, Sample.decodeClaims] at h h'
  split at h
  · split at h <;> split at h' <;> simp_all
  · cases h

/-- A replica with Redis. -/
def cachedSvc : AuthSvc := { Sample.svc with cacheConn := true }

def accessToken : String := Sample.encodeClaims
  ⟨Sample.formatUuid 10, "u@iam.local", Sample.formatUuid defaultTenantId, "", "", "j1", 900⟩

/-- A logout that reaches both denylists, and then Redis loses its keys. -/
def logoutLost : List Act :=
  Sample.alone 0 (.rpc cachedSvc [] (.logout ⟨"r1", accessToken⟩))
    (List.replicate 5 (Sample.choice 0 0 "")) ++
  [.env (.loseKeys ["denylist:j1"])]

def validation : List Act :=
  Sample.alone 1 (.rpc cachedSvc [] (.validateToken ⟨accessToken⟩))
    (List.replicate 8 (Sample.choice 0 0 ""))

/-- What validate_token answers for that token. -/
def validated : Response :=
  .token ⟨Sample.formatUuid 10, "u@iam.local", [], [], Sample.formatUuid defaultTenantId, ""⟩

/-- Before its expiry, the token of a returned and recorded logout is accepted. -/
theorem lostKeys_run :
    let st := Sample.stateOf (Sample.user 10 none false)
    let w₁ := runFrom Sample.crates .superuser st logoutLost
    let w₂ := runFrom Sample.crates .superuser st (logoutLost ++ validation)
    w₁.callOf 0 = some (.rpc cachedSvc [] (.logout ⟨"r1", accessToken⟩)) ∧
    w₁.result 0 = some (.ok (.success true)) ∧
    (w₁.hist 0).any (recordsJti "j1") = true ∧ w₁.threads.length = 1 ∧
    w₂.callOf 1 = some (.rpc cachedSvc [] (.validateToken ⟨accessToken⟩)) ∧
    w₂.result 1 = some (.ok validated) := by
  decide

/-- So it is not refused in every run. -/
theorem lostKeys_accepted :
    ¬∀ (st : State) (ls₁ ls₂ : List Act) (j k : Nat) (svc svc' : AuthSvc) (md md' : MetadataMap)
      (req : LogoutRequest) (jti : String) (r : Except Failure Response),
      (runFrom Sample.crates .superuser st ls₁).callOf j = some (.rpc svc md (.logout req)) →
      (runFrom Sample.crates .superuser st ls₁).result j = some (.ok (.success true)) →
      ((runFrom Sample.crates .superuser st ls₁).hist j).any (recordsJti jti) = true →
      (runFrom Sample.crates .superuser st ls₁).threads.length ≤ k →
      (runFrom Sample.crates .superuser st (ls₁ ++ ls₂)).callOf k =
        some (.rpc svc' md' (.validateToken ⟨req.accessToken⟩)) →
      (runFrom Sample.crates .superuser st (ls₁ ++ ls₂)).result k = some r →
      ∃ failure, r = .error failure := by
  intro hclaim
  obtain ⟨hj, hret, hrow, hlater, hk, hr⟩ := lostKeys_run
  obtain ⟨failure, hf⟩ := hclaim _ _ _ _ _ _ _ _ _ _ _ _ hj hret hrow hlater.le hk hr
  cases hf

/-- The same logout, and a validation at a replica without Redis. -/
def refusedValidation : List Act :=
  Sample.alone 1 (.rpc Sample.svc [] (.validateToken ⟨accessToken⟩))
    (List.replicate 2 (Sample.choice 0 0 ""))

theorem refused_run :
    let st := Sample.stateOf (Sample.user 10 none false)
    let w₂ := runFrom Sample.crates .superuser st (logoutLost ++ refusedValidation)
    w₂.callOf 1 = some (.rpc Sample.svc [] (.validateToken ⟨accessToken⟩)) ∧
    w₂.result 1 = some (.error (unauthenticated "token revoked")) := by
  decide +kernel

/-- After one logout: refused where Postgres is asked, missed where Redis is. -/
theorem loggedOut_refused_sample :
    ((∃ failure, (.error (unauthenticated "token revoked") : Except Failure Response) =
        .error failure) ∨
      (Sample.svc.cacheConn = true ∧ missedByRedis Sample.crates .superuser
        (runFrom Sample.crates .superuser (Sample.stateOf (Sample.user 10 none false)) logoutLost)
        refusedValidation 1 "j1")) ∧
    ((∃ failure, (.ok validated : Except Failure Response) = .error failure) ∨
      (cachedSvc.cacheConn = true ∧ missedByRedis Sample.crates .superuser
        (runFrom Sample.crates .superuser (Sample.stateOf (Sample.user 10 none false)) logoutLost)
        validation 1 "j1")) := by
  obtain ⟨hj, -, hrow, hlater, hk, hr⟩ := lostKeys_run
  obtain ⟨hk', hr'⟩ := refused_run
  exact ⟨loggedOut_refused Sample.parsesAlike_crates _ logoutLost refusedValidation hj hrow hlater.le
      hk' hr',
    loggedOut_refused Sample.parsesAlike_crates _ logoutLost validation hj hrow hlater.le hk hr⟩

end IamAuth
