import IamAuth.Entitled
import IamAuth.RefreshTokens
import IamAuth.Sequential

/-!
# Refresh tokens after a revocation of them all

Only a row that is not revoked is ever written, so a row that revoke-all has met
stays as it is then. One that rotation had revoked before is not touched either,
and within its grace window refresh still issues tokens from it.
-/

set_option autoImplicit false

namespace IamAuth

open Interleave Relational

/-- The event has created the token of this hash. -/
def createsToken (hash : String) : Event Resp → Bool
  | ⟨.sql (.createRefreshToken _ tokenHash _ _ _), .ok _⟩ => tokenHash == hash
  | _ => false

/-! ## One statement -/

section Statement

variable {conn : DbRole} {c : Choice} {s : Sql} {db db' : Db} {hash : String}

/-- `row'` is the row of a hash in `db'`: it was there before, with the same
owner, and if it was revoked it is the same row. -/
def comesFrom (hash : String) (db : Db) (row' : RefreshTokenRow) : Prop :=
  ∃ row, Repo.getRefreshToken hash db = some row ∧ row'.userId = row.userId ∧
    (row.revokedAt.isSome = true → row' = row)

theorem getRefreshToken_eq_some {row : RefreshTokenRow} :
    Repo.getRefreshToken hash db = some row ↔
      ∃ t, db.refreshTokens.find? (fun t => t.tokenHash == hash) = some t ∧
        t.toRefreshTokenRow = row := by
  simp [Repo.getRefreshToken]

theorem comesFrom_refl {row : RefreshTokenRow} (h : Repo.getRefreshToken hash db = some row) :
    comesFrom hash db row :=
  ⟨row, h, rfl, fun _ => rfl⟩

theorem getRefreshToken_frame {ts : List Table} (h : Frame ts db db') (hn : .refreshTokens ∉ ts) :
    Repo.getRefreshToken hash db' = Repo.getRefreshToken hash db := by
  rw [Repo.getRefreshToken, Repo.getRefreshToken, h.refreshTokens hn]

/-- What a statement that does not create a token of this hash does to its row. -/
theorem comesFrom_exec {r : Reply s} (hdb : TokenHashes db)
    (hnew : createsToken hash ⟨.sql s, .ok r⟩ = false) (h : s.exec conn c db = .ok (r, db'))
    {row' : RefreshTokenRow} (hrow : Repo.getRefreshToken hash db' = some row') :
    comesFrom hash db row' := by
  have hstep := tokenStep_exec h
  obtain ⟨t', ht', rfl⟩ := getRefreshToken_eq_some.1 hrow
  generalize db'.refreshTokens = table' at hstep ht'
  cases hstep with
  | same hs => exact comesFrom_refl (getRefreshToken_eq_some.2 ⟨t', ht', rfl⟩)
  | update hs hf hkey hrevoked hreplaced =>
    rw [find?_updateWhere (fun t _ => by rw [hf.hash])] at ht'
    obtain ⟨t, ht, rfl⟩ := Option.map_eq_some_iff.mp ht'
    refine ⟨_, getRefreshToken_eq_some.2 ⟨t, ht, rfl⟩, ?_, fun hrevoked => ?_⟩
    · split
      · exact hf.owner t
      · rfl
    · split
      · next hp => simp [hf.live t hp] at hrevoked
      · rfl
  | delete hs id =>
    have hmem := (mem_deleteWhere.1 (List.mem_of_find?_eq_some ht')).1
    have hhash : t'.tokenHash = hash := by simpa using List.find?_some ht'
    cases ht : db.refreshTokens.find? fun t => t.tokenHash == hash with
    | none => exact absurd hhash (by simpa using List.find?_eq_none.mp ht t' hmem)
    | some t =>
      -- Another row of this hash would break the unique index.
      have hsame : t = t' := List.inj_on_of_nodup_map hdb (List.mem_of_find?_eq_some ht) hmem
        ((by simpa using List.find?_some ht : t.tokenHash = hash).trans hhash.symm)
      exact ⟨_, getRefreshToken_eq_some.2 ⟨t, ht, rfl⟩, by rw [hsame], fun _ => by rw [hsame]⟩
  | @insert t hs hlive hlast hfresh =>
    have hne : t.tokenHash ≠ hash := by
      cases s <;> cases hs
      simpa [createsToken] using hnew
    refine comesFrom_refl (getRefreshToken_eq_some.2 ⟨t', ?_, rfl⟩)
    simpa [List.find?_append, hne] using ht'

/-- The event has revoked every refresh token of this user. -/
def revokesAll (u : Uuid) : Event Resp → Bool
  | ⟨.sql (.revokeAllUserRefreshTokens userId), .ok _⟩ => userId == u
  | ⟨.sql (.deleteUserEventSoft id hard _ _), .ok _⟩ => id == u && !hard
  | _ => false

theorem revoked_all {u : Uuid} {row' : RefreshTokenRow}
    (howner : ∀ row, Repo.getRefreshToken hash db = some row → row.userId = u)
    (h : Repo.getRefreshToken hash (Repo.revokeAllUserRefreshTokens c u db) = some row') :
    row'.revokedAt.isSome = true := by
  obtain ⟨t', ht', rfl⟩ := getRefreshToken_eq_some.1 h
  rw [Repo.revokeAllUserRefreshTokens, find?_updateWhere (by simp)] at ht'
  obtain ⟨t, ht, rfl⟩ := Option.map_eq_some_iff.mp ht'
  have hu : t.userId = u := howner _ (getRefreshToken_eq_some.2 ⟨t, ht, rfl⟩)
  cases hr : t.revokedAt <;> simp [hu, hr]

theorem revoked_exec {r : Reply s} {u : Uuid} (hall : revokesAll u ⟨.sql s, .ok r⟩ = true)
    (howner : ∀ row, Repo.getRefreshToken hash db = some row → row.userId = u)
    (h : s.exec conn c db = .ok (r, db')) {row' : RefreshTokenRow}
    (hrow : Repo.getRefreshToken hash db' = some row') : row'.revokedAt.isSome = true := by
  cases s <;> try exact (Bool.false_ne_true hall).elim
  case revokeAllUserRefreshTokens userId =>
    obtain rfl : userId = u := by simpa [revokesAll] using hall
    cases h
    exact revoked_all howner hrow
  case deleteUserEventSoft id hard eventType payload =>
    obtain ⟨rfl, rfl⟩ : id = u ∧ hard = false := by simpa [revokesAll] using hall
    rw [getRefreshToken_frame (frame_insertOutbox (deleteUserEventSoft_ok h)) (by simp)] at hrow
    simp only [Bool.false_eq_true, ↓reduceIte, Repo.softDeleteUser] at hrow
    exact revoked_all howner hrow

end Statement

/-! ## Runs -/

section Runs

variable {cr : Crates} {conn : DbRole} {hash : String} {w : World}

/-- No label creates a token of this hash. -/
def noNewToken (cr : Crates) (conn : DbRole) (hash : String) (w : World) (l : Act) : Prop :=
  ∀ i c o, l = .step i c → w.pending i = some o →
    createsToken hash ⟨o, ((machine cr conn).exec o c w.state).1⟩ = false

theorem tokenHashes_next (h : TokenHashes w.state.db) (l : Act) :
    TokenHashes (Pool.next (machine cr conn) (Call.body cr) w l).state.db := by
  rcases db_next cr conn (Call.body cr) w l with hs | ⟨i, c, q, r, db', -, -, hx, -, hs⟩
  · rwa [hs]
  · rw [hs]
    exact tokenHashes_exec hx h

theorem tokenHashes_run (h : TokenHashes w.state.db) (ls : List Act) :
    TokenHashes (Pool.run (machine cr conn) (Call.body cr) w ls).state.db :=
  Pool.run_inv_all (I := fun w : World => TokenHashes w.state.db) (fun _ l h => tokenHashes_next h l) ls h

theorem comesFrom_next (hdb : TokenHashes w.state.db) {l : Act}
    (hnew : noNewToken cr conn hash w l) {row' : RefreshTokenRow}
    (hrow : Repo.getRefreshToken hash
      (Pool.next (machine cr conn) (Call.body cr) w l).state.db = some row') :
    comesFrom hash w.state.db row' := by
  rcases db_next cr conn (Call.body cr) w l with hs | ⟨i, c, q, r, db', hl, hp, hx, hreply, hs⟩
  · rw [hs] at hrow
    exact comesFrom_refl hrow
  · rw [hs] at hrow
    have hnew := hnew i c _ hl hp
    rw [hreply] at hnew
    exact comesFrom_exec hdb hnew hx hrow

/-- What is known of the row of a hash as long as no token of it is created. -/
structure TokenRow (hash : String) (Q : RefreshTokenRow → Prop) (w : World) : Prop where
  hashes : TokenHashes w.state.db
  row : ∀ row, Repo.getRefreshToken hash w.state.db = some row → Q row

/-- Its owner stays, and so does anything once it is revoked. -/
theorem tokenRow_run {Q : RefreshTokenRow → Prop}
    (hQ : (∃ u, Q = fun row => row.userId = u) ∨ ∀ row, Q row → row.revokedAt.isSome = true)
    {ls : List Act} (hnew : Pool.Each (machine cr conn) (Call.body cr) (noNewToken cr conn hash) w ls)
    (h : TokenRow hash Q w) :
    TokenRow hash Q (Pool.run (machine cr conn) (Call.body cr) w ls) := by
  refine Pool.run_inv (fun w l hnew h => ⟨tokenHashes_next h.hashes l, fun row' hrow => ?_⟩) hnew h
  obtain ⟨row, hbefore, howner, hsame⟩ := comesFrom_next h.hashes hnew hrow
  rcases hQ with ⟨u, rfl⟩ | hrevoked
  · exact howner.trans (h.row row hbefore)
  · rw [hsame (hrevoked row (h.row row hbefore))]
    exact h.row row hbefore

end Runs

/-! ## The calls that revoke all refresh tokens of a user -/

def resetsFor (u : Uuid) : Event Resp → Bool
  | ⟨.sql (.consumePasswordReset _), .ok (some userId)⟩ => userId == u
  | _ => false

def wipesFor (u : Uuid) : Event Resp → Bool
  | ⟨.sql (.revokeAllUserRefreshTokens userId), _⟩ => userId == u
  | _ => false

/-- A call that returned has reset or changed the password of `u`, has softly
deleted `u`, or has found a token of `u` reused. -/
def revokedFor (cr : Crates) (u : Uuid) :
    Call → List (Event Resp) → Except Failure Response → Bool
  | .rpc _ _ (.resetPassword _), h, .ok _ => h.any (resetsFor u)
  | .rpc _ md (.changePassword _), _, .ok _ => cr.parseUuid (metaOf md "x-user-id") == some u
  | .rpc _ _ (.deleteUser req), _, .ok _ => cr.parseUuid req.userId == some u && !req.hard
  | .rpc _ _ (.refresh _), h, _ => h.any (wipesFor u)
  | _, _, _ => false

/-- Such a call has issued the statement, if its statements succeeded. -/
def revokePost (cr : Crates) (k : Call) (h : List (Event Resp)) (r : Except Failure Response) :
    Prop :=
  ∀ u, revokedFor cr u k h r = true → h.all committed = true → h.any (revokesAll u) = true

section Handlers

variable (cr : Crates) (svc : AuthSvc) (md : MetadataMap)

theorem along_resetPassword_revokes (req : ResetPasswordRequest) :
    ((Rpc.resetPassword req).handle cr svc md).Along eventMonitor
      (revokePost cr (.rpc svc md (.resetPassword req))) [] := by
  simp [Rpc.handle, resetPassword, storePassword, eventMonitor, revokePost, revokedFor]
  rintro - _ uid rfl _ hash rfl _ (_ | _) <;> simp [resetsFor, committed, revokesAll]

theorem along_changePassword_revokes (req : ChangePasswordRequest) :
    ((Rpc.changePassword req).handle cr svc md).Along eventMonitor
      (revokePost cr (.rpc svc md (.changePassword req))) [] := by
  simp [Rpc.handle, changePassword, storePassword, eventMonitor, revokePost, revokedFor]
  rintro uid huid - user _ hash rfl _ (_ | _) <;> simp [huid, committed, revokesAll]

theorem along_deleteUser_revokes (req : DeleteUserRequest) :
    ((Rpc.deleteUser req).handle cr svc md).Along eventMonitor
      (revokePost cr (.rpc svc md (.deleteUser req))) [] := by
  simp [Rpc.handle, deleteUser, audit, eventMonitor, revokePost, revokedFor]
  rintro - uid huid _
  simp +contextual [huid, committed, revokesAll]

end Handlers

theorem along_revokeBody (cr : Crates) (k : Call) :
    (k.body cr).Along eventMonitor (revokePost cr k) [] := by
  cases k with
  | rpc svc md r =>
    cases r
    case resetPassword req => exact along_resetPassword_revokes cr svc md req
    case changePassword req => exact along_changePassword_revokes cr svc md req
    case deleteUser req => exact along_deleteUser_revokes cr svc md req
    case refresh req =>
      refine Prog.along_trivial (fun _ _ => trivial) (fun h r u hwipes hdb => ?_) _ _
      -- A wipe that did not fail is the revocation.
      obtain ⟨e, he, hwipe⟩ := List.any_eq_true.mp hwipes
      refine List.any_eq_true.mpr ⟨e, he, ?_⟩
      have hok := List.all_eq_true.mp hdb e he
      obtain ⟨o, r'⟩ := e
      cases o with
      | redis c => cases hwipe
      | sys s => cases hwipe
      | sql s =>
        cases s <;> try exact (Bool.false_ne_true hwipe).elim
        case revokeAllUserRefreshTokens userId =>
          cases r' with
          | error d => cases hok
          | ok _ => exact hwipe
    all_goals exact Prog.along_trivial (fun _ _ => trivial) (fun _ _ _ h => by cases h) _ _
  | start env => exact Prog.along_trivial (fun _ _ => trivial) (fun _ _ _ h => by cases h) _ _
  | profileCreationFailed userId reason =>
    exact Prog.along_trivial (fun _ _ => trivial) (fun _ _ _ h => by cases h) _ _

/-- A call that returned and whose statements succeeded has issued the statement. -/
theorem revokesAll_of_returned {cr : Crates} {conn : DbRole} {st : State} {ls : List Act} {j : Nat}
    {u : Uuid} {k : Call} {r : Except Failure Response}
    (hk : (runFrom cr conn st ls).callOf j = some k)
    (hr : (runFrom cr conn st ls).result j = some r)
    (hop : revokedFor cr u k ((runFrom cr conn st ls).hist j) r = true)
    (hdb : ((runFrom cr conn st ls).hist j).all committed = true) :
    ((runFrom cr conn st ls).hist j).any (revokesAll u) = true := by
  have ht : Pool.Tracks (fun _ => eventMonitor) (revokePost cr) (fun _ => [])
      (runFrom cr conn st ls) := Pool.tracks_run (along_revokeBody cr) st ls
  obtain ⟨k', hk', hpost⟩ := ht.result_history hr
  cases hk.symm.trans hk'
  exact hpost u hop hdb

/-! ## Revocation of all refresh tokens is final, outside the grace window -/

section Final

variable (cr : Crates) (conn : DbRole) (st : State)

/-- Call `j` has returned after `ls₁` and has revoked all refresh tokens of `u`,
among them one created within `ls₀`, and call `k` presents that one later. -/
structure AfterRevokeAll (ls₀ ls₁ ls₂ : List Act) (u : Uuid) (j k : Nat) (req : RefreshRequest) :
    Prop where
  unique : TokenHashes st.db
  created : ∃ row, Repo.getRefreshToken (hashToken cr req.refreshToken)
    (runFrom cr conn st ls₀).state.db = some row ∧ row.userId = u
  before : ((runFrom cr conn st ls₀).hist j).any (revokesAll u) = false
  returned : ∃ call r, (runFrom cr conn st (ls₀ ++ ls₁)).callOf j = some call ∧
    (runFrom cr conn st (ls₀ ++ ls₁)).result j = some r ∧
    revokedFor cr u call ((runFrom cr conn st (ls₀ ++ ls₁)).hist j) r = true
  succeeded : ((runFrom cr conn st (ls₀ ++ ls₁)).hist j).all committed = true
  /-- Only after a hard deletion could the same token be created again. -/
  createdOnce : ∀ x ∈ (runFrom cr conn st (ls₀ ++ ls₁ ++ ls₂)).log.drop
    (runFrom cr conn st ls₀).log.length,
    createsToken (hashToken cr req.refreshToken) x.2 = false
  later : (runFrom cr conn st (ls₀ ++ ls₁)).threads.length ≤ k
  presents : ∃ svc md, (runFrom cr conn st (ls₀ ++ ls₁ ++ ls₂)).callOf k =
    some (.rpc svc md (.refresh req))

/-- If rotation had revoked the token, `k` reads the clock after its grace window. -/
def graceOver (w : World) (ls : List Act) (k : Nat) (hash : String) : Prop :=
  ∀ row revokedAt, Repo.getRefreshToken hash w.state.db = some row →
    row.revokedAt = some revokedAt → rotated row = true →
    ∀ pre c post, ls = pre ++ .step k c :: post →
      (Pool.run (machine cr conn) (Call.body cr) w pre).pending k = some (.sys .utcNow) →
      inGrace revokedAt c.now = false

/-- The call has no response and has issued nothing. -/
def Refused (w : World) (k : Nat) : Prop :=
  (∀ r, w.result k = some r → ∃ failure, r = .error failure) ∧
  ∀ e ∈ w.hist k, issues e = false

variable {cr conn st} {ls₀ ls₁ ls₂ : List Act} {u : Uuid} {j k : Nat} {req : RefreshRequest}

/-- No label after `ls₀` creates the token again. -/
theorem AfterRevokeAll.noNewToken (h : AfterRevokeAll cr conn st ls₀ ls₁ ls₂ u j k req) :
    Pool.Each (machine cr conn) (Call.body cr)
      (noNewToken cr conn (hashToken cr req.refreshToken)) (runFrom cr conn st ls₀) (ls₁ ++ ls₂) := by
  have hlog := h.createdOnce
  rw [List.append_assoc, runFrom_append] at hlog
  exact Pool.each_of_log (q := fun e => createsToken (hashToken cr req.refreshToken) e = false) hlog

/-- When the call returns, the token is revoked. -/
theorem AfterRevokeAll.revoked (h : AfterRevokeAll cr conn st ls₀ ls₁ ls₂ u j k req) :
    TokenRow (hashToken cr req.refreshToken) (fun row => row.revokedAt.isSome = true)
      (runFrom cr conn st (ls₀ ++ ls₁)) := by
  obtain ⟨call, r, hcall, hr, hop⟩ := h.returned
  obtain ⟨e, he, hall⟩ := List.any_eq_true.mp (revokesAll_of_returned hcall hr hop h.succeeded)
  rw [runFrom_append] at he ⊢
  rcases Pool.event_origin (Pool.mem_hist.1 he) with hlog | ⟨pre, c, post, hls, hp, hreply, hs⟩
  · exact absurd hall (by simpa using List.any_eq_false.mp h.before e (Pool.mem_hist.2 hlog))
  · obtain ⟨row₀, hrow₀, howner⟩ := h.created
    have hnew := ((Pool.each_append _ _ _ _ _ _).mp h.noNewToken).1
    rw [hls, ← List.singleton_append, ← List.append_assoc, Pool.each_append, Pool.each_append] at hnew
    -- Up to the statement the owner of the token stays.
    have hown : TokenRow (hashToken cr req.refreshToken) (fun row => row.userId = u)
        (Pool.run (machine cr conn) (Call.body cr) (runFrom cr conn st ls₀) pre) := by
      refine tokenRow_run (.inl ⟨u, rfl⟩) hnew.1.1 ⟨?_, fun row hrow => ?_⟩
      · exact tokenHashes_run h.unique ls₀
      · cases hrow₀.symm.trans hrow
        exact howner
    -- It revokes the token, whose row then stays as it is.
    have hrev : TokenRow (hashToken cr req.refreshToken) (fun row => row.revokedAt.isSome = true)
        (Pool.run (machine cr conn) (Call.body cr) (runFrom cr conn st ls₀) (pre ++ [.step j c])) := by
      refine ⟨?_, fun row hrow => ?_⟩
      · exact tokenHashes_run (tokenHashes_run h.unique ls₀) _
      · rw [hs] at hrow
        obtain ⟨o, r⟩ := e
        cases o with
        | redis q => cases hall
        | sys q => cases hall
        | sql q =>
          cases r with
          | error d => cases q <;> cases hall
          | ok r =>
            obtain ⟨-, db', hx, hdb'⟩ := exec_sql_ok hreply.symm
            rw [hdb'] at hrow
            exact revoked_exec hall hown.row hx hrow
    rw [hls, ← List.singleton_append, ← List.append_assoc, Pool.run_append]
    exact tokenRow_run (.inr fun _ h => h) hnew.2 hrev

/-- A refresh of the token after that is not entitled to issue. -/
theorem AfterRevokeAll.not_entitled (h : AfterRevokeAll cr conn st ls₀ ls₁ ls₂ u j k req)
    (hgrace : graceOver cr conn (runFrom cr conn st (ls₀ ++ ls₁)) ls₂ k
      (hashToken cr req.refreshToken)) {svc : AuthSvc} {md : MetadataMap} (v : Uuid) :
    ¬Entitled cr (.rpc svc md (.refresh req))
      ((runFrom cr conn st (ls₀ ++ ls₁ ++ ls₂)).hist k) v := by
  rintro ⟨row, now, user, hread, hclock, husable, -⟩
  rw [runFrom_append] at hread hclock
  have hfresh := (tracks_issueBody cr conn st (ls₀ ++ ls₁)).fresh
  obtain ⟨pre, c, post, db', hls, -, -, hx⟩ := read_later hfresh h.later hread
  obtain ⟨pre', c', post', hls', hp, hnow⟩ := Pool.event_of_later hfresh h.later hclock
  obtain rfl : now = c'.now := hnow
  have hnew := ((Pool.each_append _ _ _ _ _ _).mp h.noNewToken).2
  rw [← runFrom_append, hls, Pool.each_append] at hnew
  -- What `k` has read is the row that was there when the revocation returned.
  obtain ⟨hrevoked, hrow⟩ : row.revokedAt.isSome = true ∧
      Repo.getRefreshToken (hashToken cr req.refreshToken)
        (runFrom cr conn st (ls₀ ++ ls₁)).state.db = some row := by
    have hkept := tokenRow_run (Q := fun row => row.revokedAt.isSome = true ∧
      Repo.getRefreshToken (hashToken cr req.refreshToken)
        (runFrom cr conn st (ls₀ ++ ls₁)).state.db = some row) (.inr fun _ h => h.1) hnew.1
      ⟨h.revoked.hashes, fun row hrow => ⟨h.revoked.row row hrow, hrow⟩⟩
    exact hkept.row row (congrArg Prod.fst (Except.ok.inj hx))
  obtain ⟨revokedAt, hat⟩ := Option.isSome_iff_exists.mp hrevoked
  simp only [usableAt, hat, Bool.and_eq_true] at husable
  have hover := hgrace row revokedAt hrow hat husable.1 pre' c' post' hls' hp
  rw [husable.2] at hover
  cases hover

/-- A refresh that presents, after a revocation of all refresh tokens of a user
has returned, a token of the user from before is refused and issues nothing, if
that token was not rotated before the revocation or its grace window is over. -/
theorem revokeAll_final (h : AfterRevokeAll cr conn st ls₀ ls₁ ls₂ u j k req)
    (hgrace : graceOver cr conn (runFrom cr conn st (ls₀ ++ ls₁)) ls₂ k
      (hashToken cr req.refreshToken)) :
    Refused (runFrom cr conn st (ls₀ ++ ls₁ ++ ls₂)) k := by
  obtain ⟨svc, md, hk⟩ := h.presents
  refine ⟨fun r hr => ?_, fun e he => ?_⟩
  · cases r with
    | error failure => exact ⟨failure, rfl⟩
    | ok resp =>
      obtain ⟨k', hk', hpost⟩ := (tracks_issueBody cr conn st _).result_history hr
      cases hk.symm.trans hk'
      obtain ⟨v, hv⟩ := hpost
      exact absurd hv (h.not_entitled hgrace v)
  · rw [Bool.eq_false_iff]
    intro hissues
    obtain ⟨h₁, h₂, hhist, hrule⟩ := issueRule_of_mem hk rfl he
    obtain ⟨v, hv⟩ := entitled_of_issues hrule hissues
    have hv := hv.append h₂
    rw [← hhist] at hv
    exact h.not_entitled hgrace v hv

end Final

/-! A rotated token, a change of the password, and the token again. -/

def refreshing : Call := .rpc Sample.svc [] (.refresh ⟨"r0"⟩)

def changing : Call :=
  .rpc Sample.svc (Sample.metadata 10 defaultTenantId "") (.changePassword ⟨"pw", "password"⟩)

/-- One live token `r0` of user 10, which expires after a day. -/
def withToken : State :=
  let st := Sample.stateOf (Sample.user 10 none false)
  { st with db := { st.db with
    refreshTokens := [⟨⟨10, seconds 86400, none, none, defaultTenantId, none⟩, "r0"⟩] } }

def rotation : List Act :=
  Sample.alone 0 refreshing (List.replicate 8 (Sample.choice 0 0 "r1"))

def passwordChange : List Act :=
  Sample.alone 1 changing (List.replicate 5 (Sample.choice (seconds 10) 0 ""))

/-- The token again, so many seconds after its rotation. -/
def reuse (secs : Int) : List Act :=
  Sample.alone 2 refreshing (List.replicate 7 (Sample.choice (seconds secs) 0 "r2"))

theorem afterRevokeAll_reuse (secs : Int)
    (honce : ∀ x ∈ (runFrom Sample.crates .superuser withToken
      (rotation ++ passwordChange ++ reuse secs)).log.drop
        (runFrom Sample.crates .superuser withToken rotation).log.length,
      createsToken "r0" x.2 = false)
    (hcall : (runFrom Sample.crates .superuser withToken
      (rotation ++ passwordChange ++ reuse secs)).callOf 2 = some refreshing) :
    AfterRevokeAll Sample.crates .superuser withToken rotation passwordChange (reuse secs) 10 1 2
      ⟨"r0"⟩ where
  unique := by decide
  created := ⟨⟨10, seconds 86400, some 0, some "r1", defaultTenantId, none⟩, by decide,
    rfl⟩
  before := by decide
  returned := ⟨changing, .ok (.success true), by decide, by decide, by decide⟩
  succeeded := by decide
  createdOnce := honce
  later := by decide
  presents := ⟨_, _, hcall⟩

/-- Within the grace window the rotated token still buys a new pair. -/
theorem reuse_issues :
    ¬∀ (st : State) (ls₀ ls₁ ls₂ : List Act) (u : Uuid) (j k : Nat) (req : RefreshRequest),
      AfterRevokeAll Sample.crates .superuser st ls₀ ls₁ ls₂ u j k req →
      Refused (runFrom Sample.crates .superuser st (ls₀ ++ ls₁ ++ ls₂)) k := by
  intro hclaim
  obtain ⟨hresult, -⟩ := hclaim _ _ _ _ _ _ _ _
    (afterRevokeAll_reuse 20 (by decide) (by decide))
  have hpair : (runFrom Sample.crates .superuser withToken
      (rotation ++ passwordChange ++ reuse 20)).result 2 =
    some (.ok (.tokens ⟨"00000000-0000-0000-0000-00000000000a|u@iam.local|" ++
      "00000000-0000-0000-0000-000000000001|||r2|920", "r2", 900, "Bearer", false, ""⟩)) := by
    decide
  obtain ⟨failure, hf⟩ := hresult _ hpair
  cases hf

theorem revokeAll_final_sample :
    Refused (runFrom Sample.crates .superuser withToken
      (rotation ++ passwordChange ++ reuse 70)) 2 := by
  refine revokeAll_final (afterRevokeAll_reuse 70 (by decide) (by decide)) ?_
  intro row revokedAt hrow hat hrotated pre c post hls hp
  have hsaved : Repo.getRefreshToken (hashToken Sample.crates "r0")
      (runFrom Sample.crates .superuser withToken (rotation ++ passwordChange)).state.db =
    some ⟨10, seconds 86400, some 0, some "r1", defaultTenantId, none⟩ := by decide
  cases hsaved.symm.trans hrow
  cases hat
  have hmem : Label.step 2 c ∈ reuse 70 := by rw [hls]; simp
  obtain rfl : c = Sample.choice (seconds 70) 0 "r2" := by
    simpa [reuse, Sample.alone] using hmem
  decide

end IamAuth
