import IamAuth.Rotation
import IamAuth.Sessions

/-!
# Refresh tokens after a logout

Logout revokes the row of the token it is given, if rotation has not revoked it
before, and no other row. The rows of the rotation chain behind it stay usable
within their grace windows, and a refresh that has read the row before issues its
pair after.
-/

set_option autoImplicit false

namespace IamAuth

open Interleave Relational

/-! ## The table -/

/-- The unique index, and a row with a successor is revoked. -/
structure TokenRows (db : Db) : Prop where
  hashes : TokenHashes db
  revoked : ∀ t ∈ db.refreshTokens, t.replacedBy.isSome = true → t.revokedAt.isSome = true

theorem tokenRows_exec {conn : DbRole} {s : Sql} {c : Choice} {db db' : Db} {r : Reply s}
    (hx : s.exec conn c db = .ok (r, db')) (h : TokenRows db) : TokenRows db' := by
  refine ⟨tokenHashes_exec hx h.hashes, ?_⟩
  have hstep := tokenStep_exec hx
  generalize db'.refreshTokens = table' at hstep
  cases hstep with
  | same hs => exact h.revoked
  | update hs hf hkey hrevoked hreplaced =>
    intro t' ht' hnext
    obtain ⟨t, ht, rfl⟩ := mem_updateWhere.1 ht'
    split
    · exact hrevoked t
    · next hp =>
      rw [if_neg hp] at hnext
      exact h.revoked t ht hnext
  | delete hs id =>
    intro t ht
    exact h.revoked t (mem_deleteWhere.1 ht).1
  | insert hs hlive hlast hnew =>
    intro t' ht' hnext
    rcases List.mem_append.mp ht' with hold | hlastRow
    · exact h.revoked t' hold hnext
    · obtain rfl := List.mem_singleton.mp hlastRow
      rw [hlast] at hnext
      cases hnext

theorem tokenRows_run {cr : Crates} {conn : DbRole} {w : World} (h : TokenRows w.state.db)
    (ls : List Act) :
    TokenRows (Pool.run (machine cr conn) (Call.body cr) w ls).state.db :=
  db_run cr conn (fun hx hdb => tokenRows_exec hx hdb) h ls

theorem getRefreshToken_of_mem {db : Db} (h : TokenHashes db) {t : RefreshToken}
    (ht : t ∈ db.refreshTokens) :
    Repo.getRefreshToken t.tokenHash db = some t.toRefreshTokenRow := by
  obtain ⟨t', ht'⟩ := Option.isSome_iff_exists.mp (List.find?_isSome.mpr ⟨t, ht, beq_self_eq_true _⟩ :
    (db.refreshTokens.find? fun t' => t'.tokenHash == t.tokenHash).isSome = true)
  have hhash : t'.tokenHash = t.tokenHash := by simpa using List.find?_some ht'
  obtain rfl := List.inj_on_of_nodup_map h (List.mem_of_find?_eq_some ht') ht hhash
  exact getRefreshToken_eq_some.2 ⟨t', ht', rfl⟩

/-! ## Refreshes and logouts -/

def Call.session : Call → Bool
  | .rpc _ _ (.refresh _) => true
  | .rpc _ _ (.logout _) => true
  | _ => false

/-- Statements that delete no user. -/
def keepsUsers : Op → Prop
  | .sql (.deleteUserEventSoft ..) => False
  | _ => True

theorem keepsUsers_session (cr : Crates) {k : Call} (h : k.session = true) :
    (k.body cr).Emits keepsUsers := by
  cases k with
  | start env => cases h
  | profileCreationFailed userId reason => cases h
  | rpc svc md r =>
    cases r <;> try exact (Bool.false_ne_true h).elim
    case refresh req =>
      refine .bind (.bind (by simp [Prog.Emits, keepsUsers]) fun found => ?_) fun _ => trivial
      refine .bind (by cases found <;> trivial) fun row => ?_
      have hreissue : (reissue cr svc row).Emits keepsUsers := by
        simp [reissue, issueTokens, Prog.Emits, keepsUsers]
      have hwipe : (wipeFamily cr svc row).Emits keepsUsers := by
        simp [wipeFamily, Prog.Emits, keepsUsers]
      cases row.revokedAt with
      | none =>
        refine .bind (by simp [Prog.Emits, keepsUsers]) fun now => ?_
        refine .bind (by simp [Prog.Emits]) fun _ => ?_
        exact .bind hreissue fun pair => by simp [Prog.Emits, keepsUsers]
      | some revokedAt =>
        dsimp only
        split
        · refine .bind (by simp [Prog.Emits, keepsUsers]) fun now => ?_
          split
          · exact hreissue
          · exact hwipe
        · exact hwipe
    case logout req =>
      refine .bind (.bind (by simp [Prog.Emits, keepsUsers]) fun _ => ?_) fun _ => trivial
      refine .bind ?_ fun _ => by simp [audit, Prog.Emits, keepsUsers]
      unfold denyAccessToken recordRevoked
      split
      · trivial
      · refine .bind (by simp [Prog.Emits, keepsUsers]) ?_
        intro parsed
        cases parsed with
        | none => trivial
        | some claims =>
          refine .bind ?_ fun _ => ?_
          · cases fromTimestamp claims.exp <;> simp [Prog.Emits, keepsUsers]
          · simp [deny, Prog.Emits, keepsUsers]

/-- A logout that succeeds has issued its update. -/
def logoutPost (cr : Crates) : Call → List (Event Resp) → Except Failure Response → Prop
  | .rpc _ _ (.logout req), h, .ok _ =>
    ⟨.sql (.revokeRefreshToken (hashToken cr req.refreshToken)), .ok ()⟩ ∈ h
  | _, _, _ => True

theorem along_logoutBody (cr : Crates) (k : Call) :
    (k.body cr).Along eventMonitor (logoutPost cr k) [] := by
  cases k with
  | start env => exact Prog.along_trivial (fun _ _ => trivial) (fun _ _ => trivial) _ _
  | profileCreationFailed userId reason =>
    exact Prog.along_trivial (fun _ _ => trivial) (fun _ _ => trivial) _ _
  | rpc svc md r =>
    cases r <;> try exact Prog.along_trivial (fun _ _ => trivial) (fun _ _ => trivial) _ _
    case logout req =>
      refine (Prog.along_bind _ _ _ _ _).mpr ((Prog.along_bind _ _ _ _ _).mpr
        ((along_query _ _ _).mpr ⟨fun r => ⟨trivial, ?_⟩, fun d => ⟨trivial, trivial⟩⟩))
      -- What comes after the update cannot undo that it was issued.
      refine Prog.along_persists (Q := fun h =>
        (⟨.sql (.revokeRefreshToken (hashToken cr req.refreshToken)), .ok ()⟩ : Event Resp) ∈ h)
        (fun _ _ _ => trivial) (fun h e hin => List.mem_append_left _ hin) ?_ _
        (List.mem_singleton_self _)
      intro h r hin
      cases r with
      | error failure => trivial
      | ok b => exact hin

section Runs

variable {cr : Crates} {conn : DbRole} {st : State} {ls : List Act} {hash : String}

/-- The token of this hash is stored. -/
def storedToken (hash : String) (w : World) : Prop :=
  ∃ row, Repo.getRefreshToken hash w.state.db = some row

theorem storedToken_iff {w : World} :
    storedToken hash w ↔ ∃ t ∈ w.state.db.refreshTokens, t.tokenHash = hash := by
  constructor
  · intro h
    obtain ⟨row, hrow⟩ := h
    obtain ⟨t, ht, -⟩ := getRefreshToken_eq_some.1 hrow
    exact ⟨t, List.mem_of_find?_eq_some ht, by simpa using List.find?_some ht⟩
  · intro h
    obtain ⟨t, ht, rfl⟩ := h
    have hfound : (w.state.db.refreshTokens.find? fun t' => t'.tokenHash == t.tokenHash).isSome = true :=
      List.find?_isSome.mpr ⟨t, ht, by simp⟩
    obtain ⟨t', ht'⟩ := Option.isSome_iff_exists.mp hfound
    exact ⟨t'.toRefreshTokenRow, getRefreshToken_eq_some.2 ⟨t', ht', rfl⟩⟩

instance (hash : String) (w : World) : Decidable (storedToken hash w) :=
  decidable_of_iff _ Option.isSome_iff_exists

/-- A statement that deletes no user keeps a token of every stored hash. -/
theorem stored_exec {s : Sql} (hkeeps : keepsUsers (.sql s)) {c : Choice} {db db' : Db}
    {r : Reply s} (hx : s.exec conn c db = .ok (r, db')) {t : RefreshToken}
    (ht : t ∈ db.refreshTokens) : ∃ t' ∈ db'.refreshTokens, t'.tokenHash = t.tokenHash := by
  have hupdate : ∀ {p : RefreshToken → Bool} {f : RefreshToken → RefreshToken}, Revoking p f →
      ∃ t' ∈ updateWhere p f db.refreshTokens, t'.tokenHash = t.tokenHash := by
    intro p f hf
    refine ⟨_, mem_updateWhere.2 ⟨t, ht, rfl⟩, ?_⟩
    split
    · exact hf.hash t
    · rfl
  by_cases hw : .refreshTokens ∈ s.writes
  · cases s <;> simp only [Sql.writes, List.mem_cons, List.not_mem_nil, reduceCtorEq, or_self,
      or_false, false_or] at hw
    case deleteUserEventSoft id hard eventType payload => exact hkeeps.elim
    case revokeAllUserRefreshTokens userId =>
      cases hx
      exact hupdate (revoking_all c.now userId)
    case revokeRefreshToken tokenHash =>
      cases hx
      exact hupdate (revoking_one c.now tokenHash)
    case rotateRefreshToken tokenHash replacedBy =>
      cases hx
      exact hupdate (revoking_rotate c.now tokenHash replacedBy)
    case createRefreshToken userId tokenHash expiresAt tenantId projectId =>
      simp only [Sql.exec, Repo.createRefreshToken] at hx
      split at hx
      · cases hx
      · split at hx <;> cases hx
        exact ⟨t, List.mem_append_left _ ht, rfl⟩
  · rw [(Sql.exec_frame hx).refreshTokens hw]
    exact ⟨t, ht, rfl⟩

/-- All calls of the run are refreshes and logouts. -/
def OnlySessions (w : World) : Prop := ∀ t ∈ w.threads, t.call.session = true

instance (w : World) : Decidable (OnlySessions w) :=
  inferInstanceAs (Decidable (∀ t ∈ w.threads, t.call.session = true))

theorem OnlySessions.callOf {w : World} (h : OnlySessions w) {i : Nat} {k : Call}
    (hk : w.callOf i = some k) : k.session = true := by
  obtain ⟨t, ht, rfl⟩ := Option.map_eq_some_iff.mp hk
  exact h t (List.mem_of_getElem? ht)

/-- So they are of every prefix of it. -/
theorem OnlySessions.earlier {pre post : List Act}
    (h : OnlySessions (runFrom cr conn st (pre ++ post))) : OnlySessions (runFrom cr conn st pre) := by
  intro t ht
  obtain ⟨i, hi⟩ := List.getElem?_of_mem ht
  have hk : (runFrom cr conn st pre).callOf i = some t.call := by simp [Pool.callOf, hi]
  rw [runFrom_append] at h
  exact h.callOf (Pool.callOf_run hk post)

/-- A stored token stays stored. -/
theorem storedToken_run {pre post : List Act}
    (h : OnlySessions (runFrom cr conn st (pre ++ post)))
    (hstored : storedToken hash (runFrom cr conn st pre)) :
    storedToken hash (runFrom cr conn st (pre ++ post)) := by
  induction post using List.reverseRecOn with
  | nil => rwa [List.append_nil]
  | append_singleton post l ih =>
    rw [← List.append_assoc] at h ⊢
    have hbefore := ih h.earlier
    have ht : Pool.Tracks (fun k => Monitor.emitting fun o => k.session = true → keepsUsers o)
        (fun _ _ _ => True) (fun _ => ()) (runFrom cr conn st (pre ++ post)) :=
      Pool.tracks_run (fun k => by
        by_cases hk : k.session = true
        · exact (keepsUsers_session cr hk).imp fun o ho _ => ho
        · exact Prog.along_trivial (fun _ _ hs => absurd hs hk) (fun _ _ => trivial) _ _) st _
    rw [runFrom_append, Pool.run_cons, Pool.run_nil]
    rcases db_next cr conn (Call.body cr) (runFrom cr conn st (pre ++ post)) l with
      hsame | ⟨i, c, s, r, db', -, hp, hx, -, hnew⟩
    · rw [storedToken, hsame]
      exact hbefore
    · obtain ⟨k, hk, hs⟩ := ht.pending hp (.ok r)
      obtain ⟨t, hmem, rfl⟩ := storedToken_iff.1 hbefore
      obtain ⟨t', hmem', hhash⟩ := stored_exec (hs (h.earlier.callOf hk)) hx hmem
      rw [storedToken_iff, hnew]
      exact ⟨t', hmem', hhash⟩

/-- So no other token of its hash is created. -/
theorem noNewToken_run {pre post : List Act}
    (h : OnlySessions (runFrom cr conn st (pre ++ post)))
    (hstored : storedToken hash (runFrom cr conn st pre)) :
    Pool.Each (machine cr conn) (Call.body cr) (noNewToken cr conn hash) (runFrom cr conn st pre)
      post := by
  apply Pool.each_of_forall
  intro mid l rest hpost i c o hl hp
  subst hpost
  rw [← List.append_assoc] at h
  have hthere := storedToken_run h.earlier hstored
  rw [runFrom_append] at hthere
  obtain ⟨t, ht, hhash⟩ := storedToken_iff.1 hthere
  rw [Bool.eq_false_iff]
  intro hcreates
  cases o with
  | redis cmd => cases hcreates
  | sys s => cases hcreates
  | sql s =>
    cases s <;> try exact (Bool.false_ne_true hcreates).elim
    case createRefreshToken userId tokenHash expiresAt tenantId projectId =>
      cases hreply : ((machine cr conn).exec
          (.sql (.createRefreshToken userId tokenHash expiresAt tenantId projectId)) c
          (Pool.run (machine cr conn) (Call.body cr) (runFrom cr conn st pre) mid).state).1 with
      | error d =>
        rw [hreply] at hcreates
        cases hcreates
      | ok r =>
        rw [hreply] at hcreates
        obtain rfl : tokenHash = hash := by simpa [createsToken] using hcreates
        obtain ⟨-, db', hx, -⟩ := exec_sql_ok hreply
        -- The unique index refuses a second row of the hash.
        have hany : ((Pool.run (machine cr conn) (Call.body cr) (runFrom cr conn st pre)
            mid).state.db.refreshTokens.any fun t => t.tokenHash == tokenHash) = true :=
          List.any_eq_true.mpr ⟨t, ht, by simp [hhash]⟩
        simp only [Sql.exec, Repo.createRefreshToken, hany, if_true] at hx
        cases hx

/-- A revoked token stays as it is. -/
theorem revokedRow_run {pre post : List Act} {row : RefreshTokenRow} (hrows : TokenRows st.db)
    (h : OnlySessions (runFrom cr conn st (pre ++ post)))
    (hrow : Repo.getRefreshToken hash (runFrom cr conn st pre).state.db = some row)
    (hrevoked : row.revokedAt.isSome = true) :
    Repo.getRefreshToken hash (runFrom cr conn st (pre ++ post)).state.db = some row := by
  have hkept : TokenRow hash (fun row' => row' = row) (runFrom cr conn st (pre ++ post)) := by
    rw [runFrom_append]
    refine tokenRow_run (.inr ?_) (noNewToken_run h ⟨row, hrow⟩) ⟨?_, ?_⟩
    · intro row' hrow'
      rw [hrow']
      exact hrevoked
    · exact (tokenRows_run hrows pre).hashes
    · intro row' hrow'
      exact Option.some.inj (hrow'.symm.trans hrow)
  obtain ⟨row', hrow'⟩ := storedToken_run h ⟨row, hrow⟩
  rw [hrow', hkept.row row' hrow']

/-- What a call has read of a token was its row at one of its steps. -/
theorem readRow_origin {i : Nat} {row : RefreshTokenRow}
    (h : ⟨.sql (.getRefreshToken hash), .ok (some row)⟩ ∈ (runFrom cr conn st ls).hist i) :
    ∃ pre c post, ls = pre ++ .step i c :: post ∧
      (runFrom cr conn st pre).pending i = some (.sql (.getRefreshToken hash)) ∧
      Repo.getRefreshToken hash (runFrom cr conn st pre).state.db = some row := by
  obtain ⟨n, hn⟩ := List.getElem?_of_mem h
  obtain ⟨pre, c, hat, -⟩ := commitsAt hn
  obtain ⟨post, hls⟩ := hat.split
  exact ⟨pre, c, post, hls, hat.pending, congrArg Prod.fst (Except.ok.inj hat.exec)⟩

end Runs

/-! ## After a logout -/

section After

variable (cr : Crates) (conn : DbRole) (st : State)

/-- `P` holds of the pool in which call `j` issues its update of this token. -/
def AtUpdate (ls : List Act) (j : Nat) (hash : String) (P : World → Prop) : Prop :=
  ∀ pre c post, ls = pre ++ .step j c :: post →
    (runFrom cr conn st pre).pending j = some (.sql (.revokeRefreshToken hash)) →
    P (runFrom cr conn st pre)

/-- Both calls were in flight at some point of the run. -/
def Overlap (ls : List Act) (i j : Nat) : Prop :=
  ∃ pre post, ls = pre ++ post ∧ ((runFrom cr conn st pre).pending i).isSome = true ∧
    ((runFrom cr conn st pre).pending j).isSome = true

/-- The call is a refresh of a token of this hash. -/
def refreshes (hash : String) : Call → Prop
  | .rpc _ _ (.refresh req) => hashToken cr req.refreshToken = hash
  | _ => False

/-- The hashes of the tokens that belong to the session of the token of `hash`, which
call `j` has ended within `ls₀`. -/
inductive InSession (ls₀ ls₁ : List Act) (j : Nat) (hash : String) : String → Prop where
  | same : InSession ls₀ ls₁ j hash hash
  | predecessor {t t' : RefreshToken} (ht' : t'.tokenHash = hash)
    (hlinks : Relation.TransGen (Link (runFrom cr conn st ls₀).state.db.refreshTokens) t t') :
    InSession ls₀ ls₁ j hash t.tokenHash
  | successor {t t' : RefreshToken} (ht : t.tokenHash = hash)
    (hlinks : Relation.TransGen (Link (runFrom cr conn st ls₀).state.db.refreshTokens) t t') :
    InSession ls₀ ls₁ j hash t'.tokenHash
  | minted {m : Nat} {call : Call} {e : Event Resp} {hash' : String}
    (hcall : (runFrom cr conn st (ls₀ ++ ls₁)).callOf m = some call)
    (hrefreshes : refreshes cr hash call) (hoverlap : Overlap cr conn st ls₀ m j)
    (hmem : e ∈ (runFrom cr conn st (ls₀ ++ ls₁)).hist m) (hcreates : createsToken hash' e = true) :
    InSession ls₀ ls₁ j hash hash'

/-- Among refreshes and logouts only, logout `j` has returned after `ls₀`, its token
was stored, and call `k` presents a token of that session later. -/
structure AfterLogout (ls₀ ls₁ : List Act) (j k : Nat) (lo : LogoutRequest) (req : RefreshRequest) :
    Prop where
  rows : TokenRows st.db
  calls : OnlySessions (runFrom cr conn st (ls₀ ++ ls₁))
  logout : ∃ svc md, (runFrom cr conn st ls₀).callOf j = some (.rpc svc md (.logout lo))
  returned : ∃ r, (runFrom cr conn st ls₀).result j = some (.ok r)
  stored : AtUpdate cr conn st ls₀ j (hashToken cr lo.refreshToken)
    (storedToken (hashToken cr lo.refreshToken))
  later : (runFrom cr conn st ls₀).threads.length ≤ k
  presents : ∃ svc md, (runFrom cr conn st (ls₀ ++ ls₁)).callOf k =
    some (.rpc svc md (.refresh req))
  session : InSession cr conn st ls₀ ls₁ j (hashToken cr lo.refreshToken)
    (hashToken cr req.refreshToken)

/-- The token of this hash is stored and revoked. -/
def revokedToken (hash : String) (w : World) : Prop :=
  ∃ row, Repo.getRefreshToken hash w.state.db = some row ∧ row.revokedAt.isSome = true

/-- The update met a token that had no successor. -/
def unrotated (hash : String) (w : World) : Prop :=
  ∀ row, Repo.getRefreshToken hash w.state.db = some row → row.replacedBy = none

/-- A refresh of the token that overlaps the logout and had read it live before the
update finds it expired. -/
def unread (ls₀ ls₁ : List Act) (j : Nat) (hash : String) (w : World) : Prop :=
  ∀ m call, (runFrom cr conn st (ls₀ ++ ls₁)).callOf m = some call → refreshes cr hash call →
    Overlap cr conn st ls₀ m j → ∀ row, ⟨.sql (.getRefreshToken hash), .ok (some row)⟩ ∈ w.hist m →
    row.revokedAt = none → ∀ now, ⟨.sys .utcNow, now⟩ ∈ (runFrom cr conn st (ls₀ ++ ls₁)).hist m →
    row.expiresAt < now

/-- What has to hold for the logout to end the session for a token of this hash. -/
structure SessionOver (ls₀ ls₁ : List Act) (j k : Nat) (hash hash' : String) : Prop where
  grace : graceOver cr conn (runFrom cr conn st ls₀) ls₁ k hash'
  /-- Unless the token is revoked itself. -/
  others : ¬revokedToken hash' (runFrom cr conn st ls₀) →
    AtUpdate cr conn st ls₀ j hash fun w => unrotated hash w ∧ unread cr conn st ls₀ ls₁ j hash w

variable {cr conn st} {ls₀ ls₁ : List Act} {j k : Nat} {lo : LogoutRequest} {req : RefreshRequest}

/-- The logout has issued its update, which leaves the token revoked. -/
theorem AfterLogout.update (h : AfterLogout cr conn st ls₀ ls₁ j k lo req) :
    ∃ pre c post row row', ls₀ = pre ++ .step j c :: post ∧
      (runFrom cr conn st pre).pending j =
        some (.sql (.revokeRefreshToken (hashToken cr lo.refreshToken))) ∧
      Repo.getRefreshToken (hashToken cr lo.refreshToken) (runFrom cr conn st pre).state.db =
        some row ∧
      Repo.getRefreshToken (hashToken cr lo.refreshToken)
        (runFrom cr conn st (pre ++ [.step j c])).state.db = some row' ∧
      row'.revokedAt.isSome = true ∧ row'.replacedBy = row.replacedBy := by
  obtain ⟨svc, md, hcall⟩ := h.logout
  obtain ⟨r, hr⟩ := h.returned
  have ht : Pool.Tracks (fun _ => eventMonitor) (logoutPost cr) (fun _ => [])
      (runFrom cr conn st ls₀) := Pool.tracks_run (along_logoutBody cr) st ls₀
  obtain ⟨k', hk', hpost⟩ := ht.result_history hr
  cases hcall.symm.trans hk'
  obtain ⟨n, hn⟩ := List.getElem?_of_mem hpost
  obtain ⟨pre, c, hat, -⟩ := commitsAt hn
  obtain ⟨post, hls⟩ := hat.split
  obtain ⟨row, hrow⟩ := h.stored pre c post hls hat.pending
  refine ⟨pre, c, post, row, ?_⟩
  obtain ⟨t, ht, rfl⟩ := getRefreshToken_eq_some.1 hrow
  have hdb : (runFrom cr conn st (pre ++ [.step j c])).state.db = Repo.revokeRefreshToken c
      (hashToken cr lo.refreshToken) (runFrom cr conn st pre).state.db :=
    (congrArg Prod.snd (Except.ok.inj hat.exec)).symm
  have hafter : Repo.getRefreshToken (hashToken cr lo.refreshToken)
      (runFrom cr conn st (pre ++ [.step j c])).state.db = some (if t.tokenHash ==
        hashToken cr lo.refreshToken && t.revokedAt.isNone then
          { t with revokedAt := some c.now } else t).toRefreshTokenRow := by
    rw [hdb, getRefreshToken_eq_some]
    refine ⟨_, ?_, rfl⟩
    dsimp only [Repo.revokeRefreshToken]
    rw [find?_updateWhere (by simp), ht]
    rfl
  refine ⟨_, hls, hat.pending, hrow, hafter, ?_, ?_⟩
  · have hhash : t.tokenHash = hashToken cr lo.refreshToken := by simpa using List.find?_some ht
    cases hrevoked : t.revokedAt <;> simp [hhash, hrevoked]
  · split <;> rfl

/-- From its update on, the token of the logout is revoked. -/
theorem AfterLogout.revoked (h : AfterLogout cr conn st ls₀ ls₁ j k lo req) :
    revokedToken (hashToken cr lo.refreshToken) (runFrom cr conn st ls₀) := by
  obtain ⟨pre, c, post, row, row', rfl, -, -, hafter, hrevoked, -⟩ := h.update
  have hcalls := h.calls
  rw [List.append_cons, List.append_assoc] at hcalls
  refine ⟨row', ?_, hrevoked⟩
  rw [List.append_cons]
  rw [← List.append_assoc] at hcalls
  exact revokedRow_run h.rows hcalls.earlier hafter hrevoked

/-- A token with a successor is revoked. -/
theorem revokedToken_of_link {w : World} (h : TokenRows w.state.db) {t : RefreshToken}
    (ht : t ∈ w.state.db.refreshTokens) (hnext : t.replacedBy.isSome = true) :
    revokedToken t.tokenHash w :=
  ⟨t.toRefreshTokenRow, getRefreshToken_of_mem h.hashes ht, h.revoked t ht hnext⟩

/-- A refresh that creates a token has found the one it was given usable. -/
theorem usable_of_minted {ls : List Act} {m : Nat} {call : Call} {e : Event Resp}
    {hash hash' : String} (hcall : (runFrom cr conn st ls).callOf m = some call)
    (hrefreshes : refreshes cr hash call) (hmem : e ∈ (runFrom cr conn st ls).hist m)
    (hcreates : createsToken hash' e = true) :
    ∃ row now, ⟨.sql (.getRefreshToken hash), .ok (some row)⟩ ∈ (runFrom cr conn st ls).hist m ∧
      ⟨.sys .utcNow, now⟩ ∈ (runFrom cr conn st ls).hist m ∧ usableAt row now = true := by
  have hissues : issues e = true := by
    obtain ⟨o, r⟩ := e
    cases o with
    | redis cmd => cases hcreates
    | sys s => cases hcreates
    | sql s => cases s <;> first | rfl | cases hcreates
  cases call with
  | start env => cases hrefreshes
  | profileCreationFailed userId reason => cases hrefreshes
  | rpc svc md r =>
    cases r <;> try exact hrefreshes.elim
    case refresh req =>
      obtain rfl : hashToken cr req.refreshToken = hash := hrefreshes
      obtain ⟨h, h', hhist, hrule⟩ := issueRule_of_mem hcall rfl hmem
      obtain ⟨v, hv⟩ := entitled_of_issues hrule hissues
      obtain ⟨row, now, user, hread, hclock, husable, -⟩ := hv.append h'
      rw [← hhist] at hread hclock
      exact ⟨row, now, hread, hclock, husable⟩

/-- Of the revoked tokens only those with a successor are usable. -/
theorem successor_of_usable {row : RefreshTokenRow} {now : DateTime}
    (husable : usableAt row now = true) (hrevoked : row.revokedAt.isSome = true) :
    row.replacedBy.isSome = true := by
  obtain ⟨revokedAt, hat⟩ := Option.isSome_iff_exists.mp hrevoked
  simp only [usableAt, hat, Bool.and_eq_true] at husable
  cases hnext : row.replacedBy with
  | none => simp [rotated, hnext] at husable
  | some next => rfl

/-- Unless its token had no successor, no refresh had read it and the presented one is
not revoked, there is nothing left of the session but revoked tokens. -/
theorem AfterLogout.presented (h : AfterLogout cr conn st ls₀ ls₁ j k lo req)
    (hover : SessionOver cr conn st ls₀ ls₁ j k (hashToken cr lo.refreshToken)
      (hashToken cr req.refreshToken)) :
    revokedToken (hashToken cr req.refreshToken) (runFrom cr conn st ls₀) := by
  have hrows : TokenRows (runFrom cr conn st ls₀).state.db := tokenRows_run h.rows ls₀
  by_contra hlive
  obtain ⟨pre, c, post, row, row', rfl, hp, hrow, hafter, hrevoked, hkept⟩ := h.update
  obtain ⟨hunrotated, hunread⟩ := hover.others hlive pre c post rfl hp
  have hnext : row'.replacedBy = none := hkept.trans (hunrotated row hrow)
  have hcalls := h.calls
  rw [List.append_cons, List.append_assoc] at hcalls
  -- From the update on, the row of the token is this one.
  have hlater : ∀ mid rest, post ++ ls₁ = mid ++ rest → Repo.getRefreshToken
      (hashToken cr lo.refreshToken) (runFrom cr conn st (pre ++ [.step j c] ++ mid)).state.db =
        some row' := by
    intro mid rest hsplit
    rw [hsplit, ← List.append_assoc] at hcalls
    exact revokedRow_run h.rows hcalls.earlier hafter hrevoked
  have hsession := h.session
  generalize hashToken cr req.refreshToken = hash' at hlive hsession
  cases hsession with
  | same => exact hlive h.revoked
  | predecessor ht' hlinks =>
    obtain ⟨t₂, ⟨ht, -, hlink⟩, -⟩ := Relation.TransGen.head'_iff.mp hlinks
    exact hlive (revokedToken_of_link hrows ht (by rw [hlink]; rfl))
  | @successor t t' ht hlinks =>
    -- The token has no successor to begin with.
    obtain ⟨t₂, ⟨hmem, -, hlink⟩, -⟩ := Relation.TransGen.head'_iff.mp hlinks
    have hnow := getRefreshToken_of_mem hrows.hashes hmem
    rw [ht, List.append_cons, hlater post ls₁ rfl] at hnow
    obtain rfl := Option.some.inj hnow
    rw [hlink] at hnext
    cases hnext
  | @minted m call e hash' hcall hrefreshes hoverlap hmem hcreates =>
    obtain ⟨row₂, now, hread, hclock, husable⟩ := usable_of_minted hcall hrefreshes hmem hcreates
    have hlog := Pool.mem_hist.1 hread
    rw [List.append_assoc, runFrom_append] at hlog
    rcases Pool.event_origin hlog with hold | ⟨pre₂, c₂, post₂, hls₂, hp₂, hreply, -⟩
    · -- It read the token before the update, and that one was rotated or live.
      have hold := Pool.mem_hist.2 hold
      cases hat : row₂.revokedAt with
      | none =>
        have hexpired := hunread m call hcall hrefreshes hoverlap row₂ hold hat now hclock
        simp [usableAt, hat, hexpired] at husable
      | some revokedAt =>
        obtain ⟨pre₃, c₃, post₃, rfl, -, hrow₃⟩ := readRow_origin hold
        have hbefore : OnlySessions (runFrom cr conn st (pre₃ ++ .step m c₃ :: post₃)) :=
          hcalls.earlier.earlier
        have hsame := revokedRow_run h.rows hbefore hrow₃ (by rw [hat]; rfl)
        have hsuccessor := successor_of_usable husable (by rw [hat]; rfl)
        rw [hunrotated row₂ hsame] at hsuccessor
        cases hsuccessor
    · -- It read the token after the update.
      cases pre₂ with
      | nil =>
        cases hls₂
        rw [Pool.run_nil, hp] at hp₂
        cases hp₂
      | cons l mid =>
        rw [List.cons_append, List.cons_append] at hls₂
        obtain ⟨rfl, hsplit⟩ := List.cons_eq_cons.mp hls₂
        obtain ⟨-, db', hx, -⟩ := exec_sql_ok hreply.symm
        rw [← runFrom_append, List.append_cons] at hx
        have hnow := hlater mid _ hsplit
        have hsame : row₂ = row' :=
          Option.some.inj ((congrArg Prod.fst (Except.ok.inj hx)).symm.trans hnow)
        have hsuccessor := successor_of_usable husable (by rw [hsame]; exact hrevoked)
        rw [hsame, hnext] at hsuccessor
        cases hsuccessor

/-- A later refresh of a token that is revoked by then is not entitled to issue, once
its grace window is over. -/
theorem AfterLogout.not_entitled (h : AfterLogout cr conn st ls₀ ls₁ j k lo req)
    (hrevoked : revokedToken (hashToken cr req.refreshToken) (runFrom cr conn st ls₀))
    (hgrace : graceOver cr conn (runFrom cr conn st ls₀) ls₁ k (hashToken cr req.refreshToken))
    {svc : AuthSvc} {md : MetadataMap} (v : Uuid) :
    ¬Entitled cr (.rpc svc md (.refresh req)) ((runFrom cr conn st (ls₀ ++ ls₁)).hist k) v := by
  intro hv
  obtain ⟨row, now, user, hread, hclock, husable, -⟩ := hv
  obtain ⟨row₀, hrow₀, hat⟩ := hrevoked
  rw [runFrom_append] at hread hclock
  have hfresh := (tracks_issueBody cr conn st ls₀).fresh
  obtain ⟨pre, c, post, db', rfl, -, -, hx⟩ := read_later hfresh h.later hread
  obtain ⟨pre', c', post', hls', hp, hnow⟩ := Pool.event_of_later hfresh h.later hclock
  obtain rfl : now = c'.now := hnow
  -- It reads the row that was there when the logout returned.
  have hcalls := h.calls
  rw [← List.append_assoc] at hcalls
  have hkept := revokedRow_run h.rows hcalls.earlier hrow₀ hat
  rw [runFrom_append] at hkept
  have hsame : row = row₀ :=
    Option.some.inj ((congrArg Prod.fst (Except.ok.inj hx)).symm.trans hkept)
  rw [hsame] at husable
  obtain ⟨revokedAt, hrevokedAt⟩ := Option.isSome_iff_exists.mp hat
  simp only [usableAt, hrevokedAt, Bool.and_eq_true] at husable
  have hover := hgrace row₀ revokedAt hrow₀ hrevokedAt husable.1 pre' c' post' hls' hp
  rw [husable.2] at hover
  cases hover

/-- A refresh that presents a token of the session after the logout has returned is
refused and issues nothing, if no grace window is open and rotation has not moved the
session on to a token the logout has not met. -/
theorem logout_final (h : AfterLogout cr conn st ls₀ ls₁ j k lo req)
    (hover : SessionOver cr conn st ls₀ ls₁ j k (hashToken cr lo.refreshToken)
      (hashToken cr req.refreshToken)) : Refused (runFrom cr conn st (ls₀ ++ ls₁)) k := by
  obtain ⟨svc, md, hk⟩ := h.presents
  have hnot : ∀ v, ¬Entitled cr (.rpc svc md (.refresh req))
      ((runFrom cr conn st (ls₀ ++ ls₁)).hist k) v := fun v => h.not_entitled (h.presented hover) hover.grace v
  constructor
  · intro r hr
    cases r with
    | error failure => exact ⟨failure, rfl⟩
    | ok resp =>
      obtain ⟨k', hk', hpost⟩ := (tracks_issueBody cr conn st _).result_history hr
      cases hk.symm.trans hk'
      obtain ⟨v, hv⟩ := hpost
      exact absurd hv (hnot v)
  · intro e he
    rw [Bool.eq_false_iff]
    intro hissues
    obtain ⟨h₁, h₂, hhist, hrule⟩ := issueRule_of_mem hk rfl he
    obtain ⟨v, hv⟩ := entitled_of_issues hrule hissues
    have hv := hv.append h₂
    rw [← hhist] at hv
    exact hnot v hv

end After

/-! A rotated token, a logout with its successor, and the token again. -/

namespace Sample

def loggingOut : Call := .rpc svc [] (.logout ⟨"r1", ""⟩)

def loggedOut : List Act := rotation ++ alone 1 loggingOut [choice (seconds 10) 0 ""]

/-- The row of the token, and that of its successor after the logout. -/
def rotatedRow : RefreshToken := ⟨⟨10, seconds 86400, some 0, some "r1", defaultTenantId, none⟩, "r0"⟩

def loggedOutRow : RefreshToken :=
  ⟨⟨10, seconds 2592000, some (seconds 10), none, defaultTenantId, none⟩, "r1"⟩

theorem afterLogout_reuse (secs : Int)
    (hcalls : OnlySessions (runFrom crates .superuser withToken (loggedOut ++ reuse secs)))
    (hcall : (runFrom crates .superuser withToken (loggedOut ++ reuse secs)).callOf 2 =
      some refreshing) :
    AfterLogout crates .superuser withToken loggedOut (reuse secs) 1 2 ⟨"r1", ""⟩ ⟨"r0"⟩ where
  rows := ⟨by decide, by decide⟩
  calls := hcalls
  logout := ⟨svc, [], by decide⟩
  returned := ⟨.success true, by decide⟩
  stored := by
    intro pre c post hls hp
    have hends : rotation ++ [.start loggingOut] ++ [.step 1 (choice (seconds 10) 0 "")] =
        pre ++ .step 1 c :: post := by rw [← hls, loggedOut, List.append_assoc]; rfl
    rcases snoc_split hends with hlast | hearlier
    · obtain ⟨rfl, -⟩ := hlast
      decide
    · obtain ⟨post', hrest⟩ := hearlier
      have hmem : Label.step 1 c ∈ rotation ++ [.start loggingOut] := by rw [hrest]; simp
      simp [rotation, alone] at hmem
  later := by decide
  presents := ⟨svc, [], hcall⟩
  session := by
    have hlink : Link (runFrom crates .superuser withToken loggedOut).state.db.refreshTokens
        rotatedRow loggedOutRow := ⟨by decide, by decide, rfl⟩
    exact .predecessor rfl (.single hlink)

/-- Within the grace window the token its successor was rotated from buys a new pair. -/
theorem reuse_afterLogout :
    ¬∀ (st : State) (ls₀ ls₁ : List Act) (j k : Nat) (lo : LogoutRequest) (req : RefreshRequest),
      AfterLogout crates .superuser st ls₀ ls₁ j k lo req →
      Refused (runFrom crates .superuser st (ls₀ ++ ls₁)) k := by
  intro hclaim
  obtain ⟨hresult, -⟩ := hclaim _ _ _ _ _ _ _ (afterLogout_reuse 20 (by decide) (by decide))
  have hpair : (runFrom crates .superuser withToken (loggedOut ++ reuse 20)).result 2 =
    some (.ok (.tokens ⟨"00000000-0000-0000-0000-00000000000a|u@iam.local|" ++
      "00000000-0000-0000-0000-000000000001|||r2|920", "r2", 900, "Bearer", false, ""⟩)) := by
    decide
  obtain ⟨failure, hf⟩ := hresult _ hpair
  cases hf

theorem logout_final_reuse :
    Refused (runFrom crates .superuser withToken (loggedOut ++ reuse 70)) 2 := by
  refine logout_final (afterLogout_reuse 70 (by decide) (by decide)) ⟨?_, ?_⟩
  · intro row revokedAt hrow hat hrotated pre c post hls hp
    have hsaved : Repo.getRefreshToken "r0" (runFrom crates .superuser withToken loggedOut).state.db =
        some rotatedRow.toRefreshTokenRow := by decide
    cases hsaved.symm.trans hrow
    cases hat
    have hmem : Label.step 2 c ∈ reuse 70 := by rw [hls]; simp
    obtain rfl : c = choice (seconds 70) 0 "r2" := by simpa [reuse, alone] using hmem
    decide
  · intro hlive
    exact absurd ⟨rotatedRow.toRefreshTokenRow, by decide, rfl⟩ hlive

end Sample

end IamAuth
