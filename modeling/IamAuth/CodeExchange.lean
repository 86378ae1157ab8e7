import IamAuth.OneTime
import IamAuth.Refreshing

/-!
# The exchange of an authorization code

The statements of an exchange that returns tokens come in one order, with the
replies that its checks ask for (`exchangeEvents`, `Accepted`). Each of them
committed in some state of the run. The clients of those states are the same
one, since a client is never changed.
-/

set_option autoImplicit false

namespace IamAuth

open Interleave Relational

/-! ## What an exchange read -/

/-- What the statements of an exchange answered, and the time its refresh token
was issued. -/
structure Exchanged where
  code : AuthorizationCode
  secretHash : Option String
  isConfidential : Bool
  email : String
  tenant : Uuid
  now : DateTime

/-- The statements of an exchange that returned tokens. -/
def exchangeEvents (cr : Crates) (svc : AuthSvc) (req : ExchangeRequest) (x : Exchanged)
    (r : OidcTokenResponse) : List (Event Resp) :=
  [⟨.sql (.getAuthorizationCode (hashToken cr req.code)), .ok (some (x.code, false))⟩,
   ⟨.sql (.claimAuthorizationCode (hashToken cr req.code)), .ok 1⟩,
   ⟨.sql (.clientSecret x.code.clientId), .ok (some (x.secretHash, x.isConfidential))⟩,
   ⟨.sql (.selectEmail x.code.userId), .ok x.email⟩,
   ⟨.sql (.selectClientTenant x.code.clientId), .ok x.tenant⟩,
   ⟨.sql (.isActiveMember x.code.userId x.tenant), .ok true⟩,
   ⟨.sys (.jwtIssue (cr.formatUuid x.code.userId) x.email (cr.formatUuid x.tenant) ""),
    some r.accessToken⟩,
   ⟨.sys .genRefreshToken, r.refreshToken⟩,
   ⟨.sys .utcNow, x.now⟩,
   ⟨.sql (.createRefreshToken x.code.userId (hashToken cr r.refreshToken)
      (x.now + seconds svc.refreshTtlSecs) x.tenant none), .ok ()⟩,
   ⟨.sys (.jwtIssueIdToken (cr.formatUuid x.code.userId) x.email x.code.clientId
      (x.code.nonce.getD "") svc.config.oidcIssuer), some r.idToken⟩]

/-- The code's PKCE challenge, when it has a non-empty one. -/
def challengeOf (code : AuthorizationCode) : Option String :=
  code.codeChallenge.filter fun c => !c.isEmpty

/-- The checks of an exchange. -/
structure Accepted (cr : Crates) (req : ExchangeRequest) (code : AuthorizationCode)
    (secretHash : Option String) (isConfidential : Bool) : Prop where
  unused : code.used = false
  client : code.clientId = req.clientId
  redirect : code.redirectUri = req.redirectUri
  pkce : ∀ challenge, challengeOf code = some challenge →
    verifyPkce cr challenge (code.codeChallengeMethod.getD "S256") req.codeVerifier = true
  confidential : isConfidential = true → secretHash = some (hashToken cr req.clientSecret)
  publicClient : isConfidential = false → (challengeOf code).isSome = true

theorem hasPkce_eq (code : AuthorizationCode) : hasPkce code = (challengeOf code).isSome := by
  unfold hasPkce challengeOf
  cases code.codeChallenge with
  | none => rfl
  | some c => cases hc : c.isEmpty <;> simp [hc]

theorem challengeOf_eq {code : AuthorizationCode} {challenge : String}
    (h : challengeOf code = some challenge) : code.codeChallenge.getD "" = challenge := by
  rw [(Option.filter_eq_some_iff.mp h).1, Option.getD_some]

def exchangePost (cr : Crates) (svc : AuthSvc) (req : ExchangeRequest) (h : List (Event Resp)) :
    Except Failure Response → Prop
  | .ok (.oidcTokens r) => ∃ x, Accepted cr req x.code x.secretHash x.isConfidential ∧
      h = exchangeEvents cr svc req x r
  | _ => True

section Handlers

variable (cr : Crates) (svc : AuthSvc) (md : MetadataMap)

theorem along_issueForCode (req : ExchangeRequest) (code : AuthorizationCode)
    (secretHash : Option String) (isConfidential : Bool)
    (hcode : Accepted cr req code secretHash isConfidential) :
    (issueForCode cr svc code).Along eventMonitor
      (Prog.Then eventMonitor (exchangePost cr svc req) fun r => pure (.oidcTokens r))
      [⟨.sql (.getAuthorizationCode (hashToken cr req.code)), .ok (some (code, false))⟩,
       ⟨.sql (.claimAuthorizationCode (hashToken cr req.code)), .ok 1⟩,
       ⟨.sql (.clientSecret code.clientId), .ok (some (secretHash, isConfidential))⟩] := by
  simp [issueForCode, issueTokens, eventMonitor, exchangePost]
  intro email tenant _ access haccess refresh now _ _ _ idToken hidToken
  rw [haccess, hidToken]
  exact ⟨⟨code, secretHash, isConfidential, email, tenant, now⟩, hcode, rfl⟩

theorem along_authenticateClient (code : AuthorizationCode) (clientSecret : String)
    {post : List (Event Resp) → Except Failure Unit → Prop} {h : List (Event Resp)}
    (hfail : ∀ h e, post h (.error e))
    (hok : ∀ secretHash isConfidential,
      (isConfidential = true → secretHash = some (hashToken cr clientSecret)) →
      (isConfidential = false → hasPkce code = true) →
      post (h ++ [⟨.sql (.clientSecret code.clientId), .ok (some (secretHash, isConfidential))⟩])
        (.ok ())) :
    (authenticateClient cr code clientSecret).Along eventMonitor post h := by
  simp only [authenticateClient, eventMonitor, Prog.along_bind, along_query, Prog.then_ok,
    Prog.then_error, Prog.along_okOr, Monitor.history_upd, Monitor.history_ok, true_and]
  refine ⟨fun found => ⟨fun _ => hfail _ _, ?_⟩, fun _ => hfail _ _⟩
  rintro ⟨secretHash, isConfidential⟩ rfl
  cases isConfidential with
  | true =>
    refine (Prog.along_failIf _ _ _ _ _).mpr ⟨fun _ => hfail _ _, fun hsecret => ?_⟩
    exact hok secretHash true (fun _ => by simpa using hsecret) (fun hne => absurd hne (by simp))
  | false =>
    refine (Prog.along_failIf _ _ _ _ _).mpr ⟨fun _ => hfail _ _, fun hpkce => ?_⟩
    exact hok secretHash false (fun hne => absurd hne (by simp)) (fun _ => by simpa using hpkce)

theorem along_exchange (req : ExchangeRequest) :
    ((Rpc.exchangeAuthorizationCode req).handle cr svc md).Along eventMonitor
      (exchangePost cr svc req) [] := by
  simp [Rpc.handle, exchangeAuthorizationCode, claimCode, exchangePost, eventMonitor]
  intro found code hfound hunused hclient hredirect claimed
  cases claimed with
  | error d => simp [exchangePost]
  | ok n =>
    simp only [Prog.along_pure, Prog.then_ok, Prog.along_bind, Prog.along_failIf, Prog.then_error]
    refine ⟨fun _ => trivial, fun hone => ⟨fun _ => trivial, fun hpkce => ?_⟩⟩
    have hn : n = 1 := by simpa using hone
    apply along_authenticateClient
    · exact fun _ _ => trivial
    · intro secretHash isConfidential hsecret hpublic
      have hcode : Accepted cr req code secretHash isConfidential := by
        refine ⟨hunused, hclient, hredirect, ?_, hsecret, fun hc => hasPkce_eq code ▸ hpublic hc⟩
        intro challenge hchallenge
        rw [hasPkce_eq, hchallenge, pkceOk, challengeOf_eq hchallenge] at hpkce
        simpa using hpkce
      rw [hfound, hn]
      exact along_issueForCode cr svc req code secretHash isConfidential hcode

end Handlers

theorem along_exchangeBody (cr : Crates) (k : Call) :
    (k.body cr).Along eventMonitor (fun h res => ∀ svc md req,
      k = .rpc svc md (.exchangeAuthorizationCode req) → exchangePost cr svc req h res) [] := by
  by_cases hk : ∃ svc md req, k = .rpc svc md (.exchangeAuthorizationCode req)
  · obtain ⟨svc, md, req, rfl⟩ := hk
    refine (along_exchange cr svc md req).mono ?_
    rintro h res hpost _ _ _ ⟨⟩
    exact hpost
  · refine Prog.along_trivial (fun _ _ => trivial) (fun h res svc md req hcall => ?_) _ _
    exact absurd ⟨svc, md, req, hcall⟩ hk

/-! ## Clients are never changed -/

section Clients

variable {cr : Crates} {conn : DbRole} {c : Choice} {db db' : Db}

theorem findClient_append {clientId : String} {k : OauthClient}
    (hk : Repo.findClient clientId db = some k) (x : OauthClient) :
    Repo.findClient clientId { db with oauthClients := db.oauthClients ++ [x] } = some k := by
  have hfind : db.oauthClients.find? (fun y => y.clientId == clientId) = some k := hk
  show (db.oauthClients ++ [x]).find? (fun y => y.clientId == clientId) = some k
  rw [List.find?_append, hfind]
  rfl

theorem findClient_insert {clientId : String} {k x : OauthClient} {u : Unit}
    (hk : Repo.findClient clientId db = some k) (h : Repo.insertClient x db = .ok (u, db')) :
    Repo.findClient clientId db' = some k := by
  unfold Repo.insertClient at h
  split at h
  · cases h
  · split at h <;> cases h
    exact findClient_append hk x

theorem findClient_exec {s : Sql} {r : Reply s} {clientId : String} {k : OauthClient}
    (h : s.exec conn c db = .ok (r, db')) (hk : Repo.findClient clientId db = some k) :
    Repo.findClient clientId db' = some k := by
  by_cases hw : .oauthClients ∈ s.writes
  · cases s <;> simp only [Sql.writes, List.mem_cons, List.not_mem_nil, reduceCtorEq, or_self,
      or_false] at hw
    case insertClient x => exact findClient_insert hk h
    case insertConsoleClient x =>
      simp only [Sql.exec, Repo.insertConsoleClient] at h
      split at h
      · cases h
        exact hk
      · exact findClient_insert hk h
  · unfold Repo.findClient
    rw [(Sql.exec_frame h).oauthClients hw]
    exact hk

theorem findClient_run {st : State} {clientId : String} {k : OauthClient} {pre ls : List Act}
    (hpre : pre <+: ls) (hk : Repo.findClient clientId (runFrom cr conn st pre).state.db = some k) :
    Repo.findClient clientId (runFrom cr conn st ls).state.db = some k := by
  obtain ⟨post, rfl⟩ := hpre
  rw [runFrom_append]
  exact db_run cr conn findClient_exec hk post

theorem selectClientTenant_ok {clientId : String} {tenant : Uuid}
    (h : (Sql.selectClientTenant clientId).exec conn c db = .ok (tenant, db')) :
    ∃ k, Repo.findClient clientId db = some k ∧ k.tenantId = tenant := by
  simp only [Sql.exec, Repo.selectClientTenant, Repo.clientTenant] at h
  cases hk : Repo.findClient clientId db with
  | none =>
    rw [hk] at h
    cases h
  | some k =>
    rw [hk] at h
    exact ⟨k, rfl, congrArg Prod.fst (Except.ok.inj h)⟩

end Clients

/-! ## Sound exchanges -/

/-- What call `i` of a run, an exchange that returned tokens, has checked and
issued for this code of this client. -/
structure SoundExchange (cr : Crates) (conn : DbRole) (st : State) (ls : List Act) (i : Nat)
    (svc : AuthSvc) (req : ExchangeRequest) (r : OidcTokenResponse) (code : AuthorizationCode)
    (client : OauthClient) : Prop where
  accepted : Accepted cr req code client.clientSecretHash client.isConfidential
  lookup : ∃ pre c, CommitsAt cr conn st ls i (.getAuthorizationCode (hashToken cr req.code))
      (some (code, false)) pre c ∧
    code ∈ (runFrom cr conn st pre).state.db.oauthAuthorizationCodes ∧
    code.codeHash = hashToken cr req.code ∧ ¬code.expiresAt < c.now
  claim : ∃ pre c, CommitsAt cr conn st ls i (.claimAuthorizationCode (hashToken cr req.code)) 1
    pre c
  member : ∃ pre c, CommitsAt cr conn st ls i (.isActiveMember code.userId client.tenantId) true
      pre c ∧
    Repo.findClient code.clientId (runFrom cr conn st pre).state.db = some client ∧
    (∃ m ∈ (runFrom cr conn st pre).state.db.memberships,
      m.userId = code.userId ∧ m.tenantId = client.tenantId ∧ m.status = "active") ∧
    ∃ t ∈ (runFrom cr conn st pre).state.db.tenants, t.id = client.tenantId ∧ t.status = "active"
  refreshToken : ∃ pre c expiresAt, CommitsAt cr conn st ls i (.createRefreshToken code.userId
      (hashToken cr r.refreshToken) expiresAt client.tenantId none) () pre c ∧
    ⟨⟨code.userId, expiresAt, none, none, client.tenantId, none⟩, hashToken cr r.refreshToken⟩ ∈
      (runFrom cr conn st (pre ++ [.step i c])).state.db.refreshTokens
  accessToken : ∃ pre c post email, ls = pre ++ .step i c :: post ∧
    cr.jwtIssue c (cr.formatUuid code.userId) email (cr.formatUuid client.tenantId) "" =
      some r.accessToken
  idToken : ∃ pre c post email, ls = pre ++ .step i c :: post ∧
    cr.jwtIssueIdToken c (cr.formatUuid code.userId) email code.clientId (code.nonce.getD "")
      svc.config.oidcIssuer = some r.idToken

section Sound

variable {cr : Crates} {conn : DbRole} {st : State} {ls : List Act} {i : Nat} {svc : AuthSvc}
  {req : ExchangeRequest} {r : OidcTokenResponse} {x : Exchanged}

/-- The client whose secret the exchange checked is still there at the membership
check, and the membership is one of its tenant. -/
theorem member_of_events (h : (runFrom cr conn st ls).hist i = exchangeEvents cr svc req x r) :
    ∃ client : OauthClient, client.clientSecretHash = x.secretHash ∧
      client.isConfidential = x.isConfidential ∧ client.tenantId = x.tenant ∧
      ∃ pre c, CommitsAt cr conn st ls i (.isActiveMember x.code.userId x.tenant) true pre c ∧
        Repo.findClient x.code.clientId (runFrom cr conn st pre).state.db = some client := by
  obtain ⟨pre, c, hmember, hpre⟩ := commitsAt (n := 5) (by rw [h]; rfl)
  rw [h] at hpre
  obtain ⟨pre₁, c₁, hsecret, -⟩ := commitsAt (n := 2) (by rw [hpre]; rfl)
  obtain ⟨pre₂, c₂, htenant, -⟩ := commitsAt (n := 4) (by rw [hpre]; rfl)
  obtain ⟨client, hfound, hrow⟩ : ∃ k,
      Repo.findClient x.code.clientId (runFrom cr conn st pre₁).state.db = some k ∧
      (k.clientSecretHash, k.isConfidential) = (x.secretHash, x.isConfidential) :=
    Option.map_eq_some_iff.mp (congrArg Prod.fst (Except.ok.inj hsecret.exec))
  obtain ⟨k, hfound', htenant'⟩ := selectClientTenant_ok htenant.exec
  obtain ⟨post₁, hpost₁⟩ := hsecret.split
  obtain ⟨post₂, hpost₂⟩ := htenant.split
  have hclient := findClient_run ⟨_, hpost₁.symm⟩ hfound
  have hk := findClient_run ⟨_, hpost₂.symm⟩ hfound'
  cases hclient.symm.trans hk
  obtain ⟨hhash, hconf⟩ := Prod.mk.inj hrow
  exact ⟨client, hhash, hconf, htenant', pre, c, hmember, hclient⟩

/-- The row that an exchange looked up. -/
theorem lookup_of_commits {pre : List Act} {c : Choice} {codeHash : String}
    {code : AuthorizationCode}
    (h : CommitsAt cr conn st ls i (.getAuthorizationCode codeHash) (some (code, false)) pre c) :
    code ∈ (runFrom cr conn st pre).state.db.oauthAuthorizationCodes ∧
      code.codeHash = codeHash ∧ ¬code.expiresAt < c.now := by
  obtain ⟨k, hk, hrow⟩ := Option.map_eq_some_iff.mp (congrArg Prod.fst (Except.ok.inj h.exec))
  obtain ⟨rfl, hexpired⟩ := Prod.mk.inj hrow
  refine ⟨List.mem_of_find?_eq_some hk, ?_, of_decide_eq_false hexpired⟩
  simpa using List.find?_some hk

theorem activeMember_rows {userId tenantId : Uuid} {db : Db}
    (h : Repo.isActiveMember userId tenantId db = true) :
    (∃ m ∈ db.memberships, m.userId = userId ∧ m.tenantId = tenantId ∧ m.status = "active") ∧
      ∃ t ∈ db.tenants, t.id = tenantId ∧ t.status = "active" := by
  simp only [Repo.isActiveMember, Bool.and_eq_true, List.any_eq_true, beq_iff_eq] at h
  obtain ⟨⟨m, hm, hkey, hactive⟩, t, ht, hid, hstatus⟩ := h
  obtain ⟨huser, htenant⟩ := Prod.mk.inj hkey
  exact ⟨⟨m, hm, huser, htenant, hactive⟩, t, ht, hid, hstatus⟩

/-- The row that an exchange inserted. -/
theorem inserted_of_commits {pre : List Act} {c : Choice} {userId tenantId : Uuid}
    {tokenHash : String} {expiresAt : DateTime}
    (h : CommitsAt cr conn st ls i (.createRefreshToken userId tokenHash expiresAt tenantId none) ()
      pre c) :
    ⟨⟨userId, expiresAt, none, none, tenantId, none⟩, tokenHash⟩ ∈
      (runFrom cr conn st (pre ++ [.step i c])).state.db.refreshTokens := by
  obtain ⟨-, hdb⟩ := createRefreshToken_ok h.exec
  rw [hdb]
  exact List.mem_append_right _ (List.mem_singleton_self _)

/-- Whoever gets tokens for a code has passed every check of the exchange: the
code is theirs, unused and in time, its PKCE challenge is met, the client has
authenticated, its user is an active member of the client's tenant, and the
tokens are bound to that user and that tenant. -/
theorem exchange_sound (cr : Crates) (conn : DbRole) (st : State) (ls : List Act) (i : Nat)
    (svc : AuthSvc) (md : MetadataMap) (req : ExchangeRequest) (r : OidcTokenResponse)
    (hcall : (runFrom cr conn st ls).callOf i = some (.rpc svc md (.exchangeAuthorizationCode req)))
    (hres : (runFrom cr conn st ls).result i = some (.ok (.oidcTokens r))) :
    ∃ code client, SoundExchange cr conn st ls i svc req r code client := by
  have ht : Pool.Tracks (fun _ => eventMonitor) _ (fun _ => []) (runFrom cr conn st ls) :=
    Pool.tracks_run (along_exchangeBody cr) st ls
  obtain ⟨k, hk, hpost⟩ := ht.result_history hres
  obtain ⟨x, haccepted, hhist⟩ := hpost svc md req (Option.some.inj (hk.symm.trans hcall))
  obtain ⟨client, hhash, hconf, htenant, pre, c, hmember, hclient⟩ := member_of_events hhist
  refine ⟨x.code, client, ?_⟩
  rw [← hhash, ← hconf] at haccepted
  rw [← htenant] at hmember
  have hactive := activeMember_rows (congrArg Prod.fst (Except.ok.inj hmember.exec))
  obtain ⟨pre₁, c₁, hlookup, -⟩ := commitsAt (n := 0) (by rw [hhist]; rfl)
  obtain ⟨pre₂, c₂, hclaim, -⟩ := commitsAt (n := 1) (by rw [hhist]; rfl)
  obtain ⟨pre₃, c₃, hrefresh, -⟩ := commitsAt (n := 9) (by rw [hhist]; rfl)
  obtain ⟨pre₄, c₄, post₄, hls₄, haccess⟩ := drawnAt (n := 6) (by rw [hhist]; rfl)
  obtain ⟨pre₅, c₅, post₅, hls₅, hidToken⟩ := drawnAt (n := 10) (by rw [hhist]; rfl)
  rw [← htenant] at hrefresh haccess
  exact {
    accepted := haccepted
    lookup := ⟨pre₁, c₁, hlookup, lookup_of_commits hlookup⟩
    claim := ⟨pre₂, c₂, hclaim⟩
    member := ⟨pre, c, hmember, hclient, hactive⟩
    refreshToken := ⟨pre₃, c₃, _, hrefresh, inserted_of_commits hrefresh⟩
    accessToken := ⟨pre₄, c₄, post₄, x.email, hls₄, haccess⟩
    idToken := ⟨pre₅, c₅, post₅, x.email, hls₅, hidToken⟩ }

end Sound

namespace Sample

/-- A public client of the default tenant, and a code of it with a challenge. -/
def withCode (method : Option String) : State where
  db := { (stateOf (user 7 none false)).db with
    oauthClients := [⟨"app", none, "App", ["https://app"], clientGrantTypes, ["openid"], false,
      defaultTenantId⟩]
    oauthAuthorizationCodes := [⟨"c0", "app", 7, "https://app", "openid", some "proof", method,
      some "n0", seconds 300, false⟩] }
  redis := []

def exchanging : Rpc := .exchangeAuthorizationCode ⟨"c0", "app", "", "https://app", "proof"⟩

def exchangeSteps : List Act :=
  alone 0 (.rpc svc [] exchanging) (List.replicate 11 (choice (seconds 1) 0 "r1"))

/-- Its answer. -/
def exchangeAnswer : OidcTokenResponse :=
  ⟨"00000000-0000-0000-0000-000000000007|u@iam.local|00000000-0000-0000-0000-000000000001|||r1|901",
    "00000000-0000-0000-0000-000000000007 app n0", "r1", 900, "Bearer", "openid"⟩

theorem exchange_sound_sample : ∃ code client, SoundExchange crates .superuser (withCode none)
    exchangeSteps 0 svc ⟨"c0", "app", "", "https://app", "proof"⟩ exchangeAnswer code client :=
  exchange_sound crates .superuser (withCode none) exchangeSteps 0 svc []
    ⟨"c0", "app", "", "https://app", "proof"⟩ exchangeAnswer rfl (by decide)

end Sample

/-! ## A challenge through the database

`NULLIF` stores an empty method as NULL, and the exchange reads NULL as S256. -/

/-- The PKCE check of an exchange. -/
def pkceAccepts (cr : Crates) (code : AuthorizationCode) (verifier : String) : Bool :=
  !(hasPkce code && !pkceOk cr code verifier)

/-- The columns that an insert of these strings fills. -/
def storedAs (challenge method : String) (code : AuthorizationCode) : Prop :=
  code.codeChallenge = Repo.nullIfEmpty challenge ∧ code.codeChallengeMethod = Repo.nullIfEmpty method

theorem nullIfEmpty_ne {s : String} (h : s ≠ "") : Repo.nullIfEmpty s = some s := by
  simp [Repo.nullIfEmpty, h]

/-- The check of a stored challenge is that of the method it decodes to. -/
theorem pkceAccepts_stored (cr : Crates) {challenge method : String} {code : AuthorizationCode}
    (hne : challenge ≠ "") (hcode : storedAs challenge method code) (verifier : String) :
    pkceAccepts cr code verifier =
      verifyPkce cr challenge (if method = "" then "S256" else method) verifier := by
  obtain ⟨hchallenge, hmethod⟩ := hcode
  rw [nullIfEmpty_ne hne] at hchallenge
  have hhas : hasPkce code = true := by simp [hasPkce, hchallenge, hne]
  have hget : code.codeChallengeMethod.getD "S256" = if method = "" then "S256" else method := by
    rw [hmethod]
    by_cases hm : method = ""
    · simp [hm, Repo.nullIfEmpty]
    · simp [hm, nullIfEmpty_ne hm]
  rw [pkceAccepts, hhas, pkceOk, hchallenge, hget, Option.getD_some]
  simp

/-- Storing loses nothing but an empty method, which reads as "plain" before it
and as "S256" after it. -/
theorem stored_agrees (cr : Crates) {challenge method : String} {code : AuthorizationCode}
    (hne : challenge ≠ "") (hcode : storedAs challenge method code) (verifier : String) :
    pkceAccepts cr code verifier = verifyPkce cr challenge method verifier ↔
      (method = "" → (cr.sha256Base64Url verifier = challenge ↔ verifier = challenge)) := by
  rw [pkceAccepts_stored cr hne hcode]
  by_cases hm : method = ""
  · subst hm
    simp only [verifyPkce, reduceIte, or_true, String.reduceEq, forall_const]
    rw [Bool.eq_iff_iff, beq_iff_eq, beq_iff_eq]
  · simp [hm]

section Stored

variable {cr : Crates} {conn : DbRole} {st : State}

def createPost (cr : Crates) (req : CreateAuthorizationCodeRequest) (h : List (Event Resp)) :
    Except Failure Response → Prop
  | .ok (.code s) => ∃ userId, ⟨.sql (.insertAuthorizationCode (hashToken cr s) req.clientId userId
      req.redirectUri req.scope req.codeChallenge req.codeChallengeMethod req.nonce), .ok ()⟩ ∈ h
  | _ => True

theorem along_createCode (cr : Crates) (svc : AuthSvc) (md : MetadataMap)
    (req : CreateAuthorizationCodeRequest) :
    ((Rpc.createAuthorizationCode req).handle cr svc md).Along eventMonitor (createPost cr req)
      [] := by
  simp [Rpc.handle, createAuthorizationCode, eventMonitor, createPost]

theorem along_createBody (cr : Crates) (k : Call) :
    (k.body cr).Along eventMonitor (fun h res => ∀ svc md req,
      k = .rpc svc md (.createAuthorizationCode req) → createPost cr req h res) [] := by
  by_cases hk : ∃ svc md req, k = .rpc svc md (.createAuthorizationCode req)
  · obtain ⟨svc, md, req, rfl⟩ := hk
    refine (along_createCode cr svc md req).mono ?_
    rintro h res hpost _ _ _ ⟨⟩
    exact hpost
  · refine Prog.along_trivial (fun _ _ => trivial) (fun h res svc md req hcall => ?_) _ _
    exact absurd ⟨svc, md, req, hcall⟩ hk

theorem codeRow_insert {c : Choice} {db db' : Db} {codeHash clientId redirectUri scope challenge
    method nonce : String} {userId : Uuid} {u : Unit}
    (h : Repo.insertAuthorizationCode c codeHash clientId userId redirectUri scope challenge method
      nonce db = .ok (u, db')) : codeRow codeHash (storedAs challenge method) db' := by
  unfold Repo.insertAuthorizationCode at h
  split at h
  · cases h
  · next hfresh =>
    split at h <;> cases h
    refine ⟨⟨_, List.mem_append_right _ (List.mem_singleton_self _), rfl⟩, ?_⟩
    intro k hk hhash
    rcases List.mem_append.mp hk with hk | hk
    · have hnew : ∀ k ∈ db.oauthAuthorizationCodes, k.codeHash ≠ codeHash := by simpa using hfresh
      exact absurd hhash (hnew k hk)
    · obtain rfl := List.mem_singleton.mp hk
      exact ⟨rfl, rfl⟩

/-- A code that `create_authorization_code` has returned is stored as its request says. -/
theorem codeRow_of_returned {ls : List Act} {j : Nat} {svc : AuthSvc} {md : MetadataMap}
    {creq : CreateAuthorizationCodeRequest} {s : String}
    (hcall : (runFrom cr conn st ls).callOf j = some (.rpc svc md (.createAuthorizationCode creq)))
    (hres : (runFrom cr conn st ls).result j = some (.ok (.code s))) :
    codeRow (hashToken cr s) (storedAs creq.codeChallenge creq.codeChallengeMethod)
      (runFrom cr conn st ls).state.db := by
  have ht : Pool.Tracks (fun _ => eventMonitor) _ (fun _ => []) (runFrom cr conn st ls) :=
    Pool.tracks_run (along_createBody cr) st ls
  obtain ⟨k, hk, hpost⟩ := ht.result_history hres
  obtain ⟨userId, hmem⟩ := hpost svc md creq (Option.some.inj (hk.symm.trans hcall))
  obtain ⟨n, hn⟩ := List.getElem?_of_mem hmem
  obtain ⟨pre, c, hcommit, -⟩ := commitsAt hn
  obtain ⟨post, hls⟩ := hcommit.split
  have hrow := codeRow_insert hcommit.exec
  have hsplit : ls = pre ++ [.step j c] ++ post := by rw [hls, List.append_assoc]; rfl
  rw [hsplit, runFrom_append]
  exact db_run cr conn (codeRow_exec fun _ hk => hk) hrow post

/-- Call `j` returned the code `s` before call `k` started to exchange it and found
this row. -/
structure StoredThenRead (cr : Crates) (conn : DbRole) (st : State) (ls₀ ls₁ : List Act) (j k : Nat)
    (creq : CreateAuthorizationCodeRequest) (req : ExchangeRequest) (code : AuthorizationCode) :
    Prop where
  created : ∃ svc md s, (runFrom cr conn st ls₀).callOf j =
      some (.rpc svc md (.createAuthorizationCode creq)) ∧
    (runFrom cr conn st ls₀).result j = some (.ok (.code s)) ∧ req.code = s
  later : (runFrom cr conn st ls₀).threads.length ≤ k
  exchanged : ∃ svc md, (runFrom cr conn st (ls₀ ++ ls₁)).callOf k =
    some (.rpc svc md (.exchangeAuthorizationCode req))
  read : ∃ expired, ⟨.sql (.getAuthorizationCode (hashToken cr req.code)),
    .ok (some (code, expired))⟩ ∈ (runFrom cr conn st (ls₀ ++ ls₁)).hist k

theorem StoredThenRead.storedAs {ls₀ ls₁ : List Act} {j k : Nat}
    {creq : CreateAuthorizationCodeRequest} {req : ExchangeRequest} {code : AuthorizationCode}
    (h : StoredThenRead cr conn st ls₀ ls₁ j k creq req code) :
    storedAs creq.codeChallenge creq.codeChallengeMethod code := by
  obtain ⟨svc, md, s, hcall, hres, rfl⟩ := h.created
  obtain ⟨expired, hread⟩ := h.read
  have hrow := codeRow_of_returned hcall hres
  rw [runFrom_append] at hread
  obtain ⟨pre, c, post, db', -, -, -, hx⟩ := read_later
    (Pool.tracks_run (along_createBody cr) st ls₀).fresh h.later hread
  have hpre := db_run cr conn (codeRow_exec fun _ hk => hk) hrow pre
  obtain ⟨k', hk', hfound⟩ := Option.map_eq_some_iff.mp (congrArg Prod.fst (Except.ok.inj hx))
  obtain ⟨rfl, -⟩ := Prod.mk.inj hfound
  exact hpre.2 _ (List.mem_of_find?_eq_some hk') (by simpa using List.find?_some hk')

/-- The check of an exchange agrees with `verify_pkce` on what the client sent,
unless the method was omitted and the two readings of that differ. -/
theorem pkce_survives_iff {ls₀ ls₁ : List Act} {j k : Nat} {creq : CreateAuthorizationCodeRequest}
    {req : ExchangeRequest} {code : AuthorizationCode}
    (h : StoredThenRead cr conn st ls₀ ls₁ j k creq req code) (hne : creq.codeChallenge ≠ "") :
    pkceAccepts cr code req.codeVerifier =
        verifyPkce cr creq.codeChallenge creq.codeChallengeMethod req.codeVerifier ↔
      (creq.codeChallengeMethod = "" →
        (cr.sha256Base64Url req.codeVerifier = creq.codeChallenge ↔
          req.codeVerifier = creq.codeChallenge)) :=
  stored_agrees cr hne h.storedAs req.codeVerifier

end Stored

namespace Sample

def verifier : String := "dBjftJeZ4CVP-mB92K27uhbUJU1p1r_wW1gFWFOEjXk"

/-- Hashes this verifier as SHA-256 does. -/
def pkceCrates : Crates :=
  { crates with sha256Base64Url := fun s =>
      if s = verifier then "E9Melhoa2OwvFrEMTJguCHaoeK1t8URWbuGJSstw-cM" else s }

/-- A plain challenge with the method left out. -/
def plainChallenge : CreateAuthorizationCodeRequest :=
  ⟨formatUuid 7, "app", "https://app", "openid", verifier, "", ""⟩

def meetChallenge : ExchangeRequest := ⟨"c1", "app", "", "https://app", verifier⟩

def createSteps : List Act :=
  alone 0 (.rpc svc [] (.createAuthorizationCode plainChallenge))
    (List.replicate 4 (choice (seconds 1) 0 "c1"))

def meetSteps : List Act :=
  alone 1 (.rpc svc [] (.exchangeAuthorizationCode meetChallenge))
    (List.replicate 2 (choice (seconds 2) 0 "r1"))

def plainCode : AuthorizationCode :=
  ⟨"c1", "app", 7, "https://app", "openid", some verifier, none, none, seconds 301, false⟩

theorem plainCode_stored : StoredThenRead pkceCrates .superuser (withCode none) createSteps meetSteps
    0 1 plainChallenge meetChallenge plainCode where
  created := ⟨svc, [], "c1", rfl, by decide, rfl⟩
  later := by decide
  exchanged := ⟨svc, [], rfl⟩
  read := ⟨false, List.mem_of_getElem? (i := 0) rfl⟩

/-- A verifier that meets its plain challenge is refused. -/
theorem plain_refused :
    StoredThenRead pkceCrates .superuser (withCode none) createSteps meetSteps 0 1 plainChallenge
      meetChallenge plainCode ∧
    verifyPkce pkceCrates plainChallenge.codeChallenge plainChallenge.codeChallengeMethod
      meetChallenge.codeVerifier = true ∧
    pkceAccepts pkceCrates plainCode meetChallenge.codeVerifier = false ∧
    (runFrom pkceCrates .superuser (withCode none) (createSteps ++ meetSteps)).result 1 =
      some (.error invalidGrant) :=
  ⟨plainCode_stored, by decide, by decide, by decide⟩

/-- The same challenge sent as its SHA-256 hash, with its method. -/
def hashedChallenge : CreateAuthorizationCodeRequest :=
  ⟨formatUuid 7, "app", "https://app", "openid", "E9Melhoa2OwvFrEMTJguCHaoeK1t8URWbuGJSstw-cM",
    "S256", ""⟩

def hashedSteps : List Act :=
  alone 0 (.rpc svc [] (.createAuthorizationCode hashedChallenge))
    (List.replicate 4 (choice (seconds 1) 0 "c1"))

def hashedCode : AuthorizationCode :=
  ⟨"c1", "app", 7, "https://app", "openid", some "E9Melhoa2OwvFrEMTJguCHaoeK1t8URWbuGJSstw-cM",
    some "S256", none, seconds 301, false⟩

theorem hashedCode_stored : StoredThenRead pkceCrates .superuser (withCode none) hashedSteps
    meetSteps 0 1 hashedChallenge meetChallenge hashedCode where
  created := ⟨svc, [], "c1", rfl, by decide, rfl⟩
  later := by decide
  exchanged := ⟨svc, [], rfl⟩
  read := ⟨false, List.mem_of_getElem? (i := 0) rfl⟩

/-- The method sent survives, and the verifier is accepted; the method left out does not. -/
theorem pkce_survives_iff_sample :
    pkceAccepts pkceCrates hashedCode meetChallenge.codeVerifier =
      verifyPkce pkceCrates hashedChallenge.codeChallenge hashedChallenge.codeChallengeMethod
        meetChallenge.codeVerifier ∧
    pkceAccepts pkceCrates hashedCode meetChallenge.codeVerifier = true ∧
    ¬(plainChallenge.codeChallengeMethod = "" →
      (pkceCrates.sha256Base64Url meetChallenge.codeVerifier = plainChallenge.codeChallenge ↔
        meetChallenge.codeVerifier = plainChallenge.codeChallenge)) := by
  refine ⟨?_, by decide, ?_⟩
  · rw [pkce_survives_iff hashedCode_stored (by decide)]
    intro hempty
    exact absurd hempty (by decide)
  · rw [← pkce_survives_iff plainCode_stored (by decide)]
    decide

end Sample

end IamAuth
