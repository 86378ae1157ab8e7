import IamAuth.CodeExchange
import IamAuth.RoleScopes

/-!
# API keys

A row of `api_keys` keeps what create_api_key wrote until it is deleted; only
`revoked_at` and `last_used_at` change. So whatever a validation returns goes back
to one creation, and no revocation by the owner lies between the two.
-/

set_option autoImplicit false

namespace IamAuth

open Interleave Relational

/-! ## Rows -/

/-- The statement that wrote the row. -/
abbrev ApiKeyRecord.creation (x : ApiKeyRecord) : Sql :=
  .createApiKey x.id x.userId x.keyHash x.name x.scopes x.expiresAt x.tenantId x.projectId

/-- The statement by which its owner revokes it. -/
abbrev ApiKeyRecord.revocation (x : ApiKeyRecord) : Sql := .revokeApiKey x.id x.userId

section Rows

variable {conn : DbRole} {c : Choice} {s : Sql} {db db' : Db} {r : Reply s}

/-- A row is new and not revoked, or an old one, which a statement other than its
revocation leaves as it is. -/
theorem keyRow_exec (h : s.exec conn c db = .ok (r, db')) {x' : ApiKeyRecord}
    (hx' : x' ∈ db'.apiKeys) :
    s = x'.creation ∨ ∃ x ∈ db.apiKeys, x.creation = x'.creation ∧
      (x'.revokedAt = none → x.revokedAt = none ∧ s ≠ x'.revocation) := by
  by_cases hw : .apiKeys ∈ s.writes
  · cases s <;> simp only [Sql.writes, List.mem_cons, List.not_mem_nil, reduceCtorEq, or_self,
      or_false, false_or] at hw
    case deleteUserEventSoft id hard eventType payload =>
      right
      rw [(frame_insertOutbox (deleteUserEventSoft_ok h)).apiKeys (by simp)] at hx'
      split at hx'
      · exact ⟨x', (mem_deleteWhere.1 hx').1, rfl, fun hlive => ⟨hlive, by simp⟩⟩
      · exact ⟨x', hx', rfl, fun hlive => ⟨hlive, by simp⟩⟩
    case createApiKey id userId hash name scopes expiresAt t project =>
      simp only [Sql.exec, Repo.createApiKey] at h
      repeat' split at h
      all_goals cases h
      rcases List.mem_append.mp hx' with hx' | hx'
      · exact .inr ⟨x', hx', rfl, fun hlive => ⟨hlive, by simp⟩⟩
      · obtain rfl := List.mem_singleton.mp hx'
        exact .inl rfl
    case revokeApiKey id userId =>
      cases h
      right
      obtain ⟨x, hx, rfl⟩ := mem_updateWhere.1 hx'
      refine ⟨x, hx, by split <;> rfl, ?_⟩
      intro hlive
      split at hlive
      · cases hlive
      · next hne =>
        rw [if_neg hne]
        refine ⟨hlive, fun hsame => hne ?_⟩
        cases hsame
        simp [hlive]
    case touchApiKey id =>
      cases h
      right
      obtain ⟨x, hx, rfl⟩ := mem_updateWhere.1 hx'
      refine ⟨x, hx, by split <;> rfl, fun hlive => ⟨?_, by simp⟩⟩
      split at hlive <;> exact hlive
  · rw [(Sql.exec_frame h).apiKeys hw] at hx'
    refine .inr ⟨x', hx', rfl, fun hlive => ⟨hlive, fun hs => hw ?_⟩⟩
    rw [hs]
    simp [Sql.writes]

end Rows

/-! ## Where a row comes from -/

section Origin

variable {cr : Crates} {conn : DbRole} {st : State} {ls : List Act} {i : Nat} {s : Sql}
  {r : Reply s} {pre : List Act} {c : Choice}

theorem CommitsAt.cast {s' : Sql} {r' : Reply s'} (h : CommitsAt cr conn st ls i s r pre c)
    (hs : s = s') (hr : HEq r r') : CommitsAt cr conn st ls i s' r' pre c := by
  subst hs
  cases hr
  exact h

theorem CommitsAt.extend (h : CommitsAt cr conn st ls i s r pre c) (ls' : List Act) :
    CommitsAt cr conn st (ls ++ ls') i s r pre c := by
  obtain ⟨post, hpost⟩ := h.split
  exact ⟨⟨post ++ ls', by simp [hpost]⟩, h.pending, h.running, h.exec⟩

/-- A statement has committed before the last step of a run, or in it. -/
theorem CommitsAt.of_snoc {l : Act} (h : CommitsAt cr conn st (ls ++ [l]) i s r pre c) :
    CommitsAt cr conn st ls i s r pre c ∨ (pre = ls ∧ l = .step i c) := by
  obtain ⟨post, hpost⟩ := h.split
  rcases List.eq_nil_or_concat post with rfl | ⟨post', l', rfl⟩
  · obtain ⟨hpre, hl⟩ := List.append_inj' hpost rfl
    exact .inr ⟨hpre.symm, List.singleton_inj.mp hl⟩
  · left
    refine ⟨⟨post', ?_⟩, h.pending, h.running, h.exec⟩
    rw [List.concat_eq_append, ← List.cons_append, ← List.append_assoc] at hpost
    exact (List.append_inj' hpost rfl).1

/-- The last step of a run leaves the database as it is, or commits a statement. -/
theorem commits_last (cr : Crates) (conn : DbRole) (st : State) (ls : List Act) (l : Act) :
    (runFrom cr conn st (ls ++ [l])).state.db = (runFrom cr conn st ls).state.db ∨
    ∃ i c s r, l = .step i c ∧ CommitsAt cr conn st (ls ++ [l]) i s r ls c := by
  have hrun : runFrom cr conn st (ls ++ [l]) =
      Pool.next (machine cr conn) (Call.body cr) (runFrom cr conn st ls) l := by
    rw [runFrom_append, Pool.run_cons, Pool.run_nil]
  rcases db_next cr conn (Call.body cr) (runFrom cr conn st ls) l with
    hsame | ⟨i, c, s, r, db', rfl, hp, hx, hreply, hnew⟩
  · left
    rw [hrun, hsame]
  · refine .inr ⟨i, c, s, r, rfl, ⟨[], rfl⟩, hp, (exec_sql_ok hreply).1, ?_⟩
    rw [hrun, hnew, hx]

/-- A row goes back to one creation, and if it is not revoked, then its owner's
revocation has not committed since. -/
theorem key_origin (hst : st.db.apiKeys = []) (ls : List Act) {x : ApiKeyRecord}
    (hx : x ∈ (runFrom cr conn st ls).state.db.apiKeys) :
    ∃ m pre c, CommitsAt cr conn st ls m x.creation () pre c ∧
      (x.revokedAt = none → ∀ i pre' c', CommitsAt cr conn st ls i x.revocation () pre' c' →
        ¬pre ++ [.step m c] <+: pre') := by
  induction ls using List.reverseRecOn generalizing x with
  | nil =>
    have hempty : (runFrom cr conn st []).state.db.apiKeys = [] := hst
    rw [hempty] at hx
    cases hx
  | append_singleton ls l ih =>
    -- The last statement, if it is the owner's revocation, has revoked the row.
    have hlast : x.revokedAt = none → ∀ i c,
        ¬CommitsAt cr conn st (ls ++ [l]) i x.revocation () ls c := by
      intro hlive i c hcommit
      obtain ⟨post, hpost⟩ := hcommit.split
      have hl : l = .step i c := (List.cons.inj (List.append_cancel_left hpost)).1
      rw [hl] at hx
      rcases keyRow_exec hcommit.exec hx with hs | ⟨y, -, -, hkept⟩
      · cases hs
      · exact (hkept hlive).2 rfl
    have hold : ∀ y ∈ (runFrom cr conn st ls).state.db.apiKeys, y.creation = x.creation →
        (x.revokedAt = none → y.revokedAt = none) →
        ∃ m pre c, CommitsAt cr conn st (ls ++ [l]) m x.creation () pre c ∧
          (x.revokedAt = none → ∀ i pre' c',
            CommitsAt cr conn st (ls ++ [l]) i x.revocation () pre' c' →
            ¬pre ++ [.step m c] <+: pre') := by
      intro y hy hsame hlive
      have hrevocation : y.revocation = x.revocation := by
        simp only [ApiKeyRecord.creation, Sql.createApiKey.injEq] at hsame
        simp only [ApiKeyRecord.revocation, hsame]
      obtain ⟨m, pre, c, hcreated, hunrevoked⟩ := ih hy
      refine ⟨m, pre, c, (hcreated.extend [l]).cast hsame .rfl, fun hxlive i pre' c' hcommit => ?_⟩
      rcases hcommit.of_snoc with hbefore | ⟨rfl, -⟩
      · exact hunrevoked (hlive hxlive) i pre' c' (hbefore.cast hrevocation.symm .rfl)
      · exact absurd hcommit (hlast hxlive i c')
    rcases commits_last cr conn st ls l with hsame | ⟨i, c, s, r, rfl, hcommit⟩
    · exact hold x (hsame ▸ hx) rfl id
    · rcases keyRow_exec hcommit.exec hx with rfl | ⟨y, hy, hsame, hkept⟩
      · refine ⟨i, ls, c, hcommit, fun _ i' pre' c' hcommit' hpre => ?_⟩
        -- Nothing comes after the last step.
        obtain ⟨post, hpost⟩ := hcommit'.split
        obtain ⟨post', rfl⟩ := hpre
        have hlength := congrArg List.length hpost
        simp at hlength
      · exact hold y hy hsame fun hlive => (hkept hlive).1

end Origin

/-! ## Creation -/

/-- What create_api_key writes in the name of its caller. -/
structure MintedFor (cr : Crates) (md : MetadataMap) (req : CreateApiKeyRequest) (k : ApiKeyRow) :
    Prop where
  scopes : k.scopes = req.scopes
  held : k.scopes ⊆ callerPerms md
  owner : cr.parseUuid (metaOf md "x-user-id") = some k.userId
  tenant : activeTenantOpt cr md = some k.tenantId
  project : optProject cr (metaOf md "x-project-id") = some k.projectId

/-- Only create_api_key creates keys, and only for its caller. -/
def mintRule (cr : Crates) (call : Call) : Op → Prop
  | .sql (.createApiKey id userId _ _ scopes expiresAt tenantId projectId) => ∃ svc md req,
      call = .rpc svc md (.createApiKey req) ∧
        MintedFor cr md req ⟨id, userId, scopes, expiresAt, none, tenantId, projectId⟩
  | _ => True

/-- No key is created. -/
def Keyless : Op → Prop
  | .sql (.createApiKey ..) => False
  | _ => True

theorem Unbound.keyless (o : Op) (h : Unbound o) : Keyless o := by
  cases o with
  | sql s => cases s <;> first | exact h.elim | trivial
  | redis c => trivial
  | sys s => trivial

theorem Plain.keyless (o : Op) (h : Plain o) : Keyless o := (h.unbound o).keyless o

theorem SignIn.keyless (o : Op) (h : SignIn o) : Keyless o := by
  cases o with
  | sql s => cases s <;> first | exact h.elim | trivial
  | redis c => trivial
  | sys s => trivial

theorem Keyless.mintRule {cr : Crates} {call : Call} (o : Op) (h : Keyless o) :
    mintRule cr call o := by
  cases o with
  | sql s => cases s <;> first | exact h.elim | trivial
  | redis c => trivial
  | sys s => trivial

section Handlers

variable (cr : Crates) (svc : AuthSvc) (md : MetadataMap)

theorem keyless_reissue (row : RefreshTokenRow) : (reissue cr svc row).Emits Keyless := by
  refine .bind (by simp [Prog.Emits, Keyless]) fun _ => .bind (by simp [Prog.Emits]) fun _ => ?_
  exact (signIn_issueTokens cr svc _ _ _ _).imp SignIn.keyless

theorem keyless_refresh (req : RefreshRequest) : (refresh cr svc req).Emits Keyless := by
  refine .bind (by simp [Prog.Emits, Keyless]) fun _ => .bind (by simp [Prog.Emits]) fun row => ?_
  cases row.revokedAt with
  | none =>
    refine .bind (by simp [Prog.Emits, Keyless]) fun _ => .bind (by simp [Prog.Emits]) fun _ => ?_
    exact .bind (keyless_reissue cr svc row) fun _ => by simp [Prog.Emits, Keyless]
  | some revokedAt =>
    dsimp only
    split
    · refine .bind (by simp [Prog.Emits, Keyless]) fun _ => ?_
      split
      · exact keyless_reissue cr svc row
      · exact (plain_wipeFamily cr svc row).imp Plain.keyless
    · exact (plain_wipeFamily cr svc row).imp Plain.keyless

theorem keyless_switchTenant (req : SwitchTenantRequest) :
    (switchTenant cr svc md req).Emits Keyless := by
  refine .bind (by simp [Prog.Emits]) fun _ => .bind (by simp [Prog.Emits]) fun _ => ?_
  refine .bind (by simp [Prog.Emits, Keyless]) fun _ => .bind (by simp [Prog.Emits]) fun _ => ?_
  refine .bind (.bind (by simp [Prog.Emits]) ?_) fun _ => ?_
  · intro project
    cases project <;> simp [Prog.Emits, Keyless]
  · refine .bind (by simp [Prog.Emits, Keyless]) fun _ => .bind (by simp [Prog.Emits]) fun _ => ?_
    exact (signIn_issueTokens cr svc _ _ _ _).imp SignIn.keyless

theorem keyless_assignRole (req : AssignRoleRequest) : (assignRole cr svc md req).Emits Keyless := by
  refine .bind (by simp [Prog.Emits]) fun _ => .bind (by simp [Prog.Emits]) fun _ => ?_
  refine .bind (by simp [Prog.Emits]) fun _ => ?_
  refine .bind ((plain_validateAssign cr _ _ _).imp Plain.keyless) fun _ => ?_
  refine .bind (by simp [Prog.Emits, Keyless]) fun _ => ?_
  refine .bind (emits_invalidatePerms (fun _ _ => trivial) (fun _ => trivial) svc _) fun _ => ?_
  simp [audit, Prog.Emits, Keyless]

theorem keyless_assignRoleBulk (req : AssignRoleBulkRequest) :
    (assignRoleBulk cr svc md req).Emits Keyless := by
  refine .bind (by simp [Prog.Emits]) fun _ => .bind (by simp [Prog.Emits]) fun _ => ?_
  refine .bind ((plain_validateAssign cr _ _ _).imp Plain.keyless) fun _ => ?_
  refine .bind (emits_assignEach (fun _ _ => trivial) (fun _ => trivial) cr svc (fun _ => trivial) _)
    fun _ => ?_
  simp [audit, Prog.Emits, Keyless]

/-- Scopes that pass are all held. -/
theorem along_requireScopes {γ : Type} {m : Monitor Resp γ} {g : γ} {perms scopes : List String}
    {post : γ → Except Failure Unit → Prop} (hfail : ∀ e, post g (.error e))
    (hok : scopes ⊆ perms → post g (.ok ())) : (requireScopes perms scopes).Along m post g := by
  induction scopes with
  | nil => exact hok (List.nil_subset _)
  | cons s rest ih =>
    refine (Prog.along_bind _ _ _ _ _).mpr ((Prog.along_failIf _ _ _ _ _).mpr
      ⟨fun _ => hfail _, fun hs => ih fun hrest => hok ?_⟩)
    have hs : s ∈ perms := by simpa using hs
    exact List.cons_subset.mpr ⟨hs, hrest⟩

theorem minted_createApiKey (req : CreateApiKeyRequest) :
    (createApiKey cr svc md req).Emits (mintRule cr (.rpc svc md (.createApiKey req))) := by
  refine (Prog.along_bind _ _ _ _ _).mpr ((along_callerUuid _).mpr
    ⟨fun _ => trivial, fun userId howner => ?_⟩)
  refine Prog.Emits.bind (by simp [Prog.Emits]) fun _ => ?_
  refine (Prog.along_bind _ _ _ _ _).mpr (along_requireScopes (fun _ => trivial) fun hheld => ?_)
  refine Prog.Emits.bind (by simp [Prog.Emits, mintRule]) fun keyId => ?_
  refine .bind (by simp [Prog.Emits, mintRule]) fun secret => ?_
  refine .bind (by unfold apiKeyExpiry addSeconds; simp [Prog.Emits, mintRule]) fun expiresAt => ?_
  refine (Prog.along_bind _ _ _ _ _).mpr ((along_activeTenant _).mpr
    ⟨fun _ => trivial, fun _ _ => trivial, fun tenant htenant => ?_⟩)
  refine (Prog.along_bind _ _ _ _ _).mpr (emitting_optProject _ (fun _ => trivial) ?_)
  intro project hproject
  have hcreate : mintRule cr (.rpc svc md (.createApiKey req)) (.sql (.createApiKey keyId userId
      (hashToken cr ("iamk_" ++ keyId ++ "_" ++ secret)) req.name req.scopes expiresAt tenant
      project)) :=
    ⟨svc, md, req, rfl, rfl, hheld, howner, htenant, hproject⟩
  refine Prog.Emits.bind ?_ fun _ => by simp [audit, Prog.Emits, mintRule]
  exact (along_query _ _ _).mpr ⟨fun _ => ⟨hcreate, trivial⟩, fun _ => ⟨hcreate, trivial⟩⟩

theorem minted_body (call : Call) : (call.body cr).Emits (mintRule cr call) := by
  by_cases hbinds : call.binds = false
  · exact (unbound_body cr call hbinds).imp fun o ho => (ho.keyless o).mintRule o
  · cases call with
    | rpc svc md r =>
      cases r
      case createApiKey req => exact .bind (minted_createApiKey cr svc md req) fun _ => trivial
      case refresh req =>
        exact .bind ((keyless_refresh cr svc req).imp Keyless.mintRule) fun _ => trivial
      case switchTenant req =>
        exact .bind ((keyless_switchTenant cr svc md req).imp Keyless.mintRule) fun _ => trivial
      case assignRole req =>
        exact .bind ((keyless_assignRole cr svc md req).imp Keyless.mintRule) fun _ => trivial
      case assignRoleBulk req =>
        exact .bind ((keyless_assignRoleBulk cr svc md req).imp Keyless.mintRule) fun _ => trivial
      all_goals exact absurd rfl hbinds
    | start env => exact absurd rfl hbinds
    | profileCreationFailed userId reason => exact absurd rfl hbinds

end Handlers

/-! ## Validation -/

/-- The row that a successful validation found, and the permissions of the owner. -/
structure Validated (cr : Crates) (req : ValidateApiKeyRequest) (resp : ValidateApiKeyResponse)
    (h : List (Event Resp)) (k : ApiKeyRow) (perms : List String) : Prop where
  lookup : ⟨.sql (.getApiKeyByHash (hashToken cr req.apiKey)), .ok (some k)⟩ ∈ h
  live : k.revokedAt = none
  unexpired : ∀ exp, k.expiresAt = some exp → ∃ now : DateTime, ⟨.sys .utcNow, now⟩ ∈ h ∧ ¬exp < now
  loaded : ⟨.sql (.getUserPermissionsScoped k.userId k.tenantId k.projectId), .ok perms⟩ ∈ h
  owner : resp.userId = cr.formatUuid k.userId
  scopes : resp.scopes = k.scopes.filter fun s => perms.contains s

/-- What revoke_api_key and validate_api_key have done when they return success. -/
def keyPost (cr : Crates) : Call → List (Event Resp) → Except Failure Response → Prop
  | .rpc _ _ (.validateApiKey req), h, .ok (.apiKey resp) => ∃ k perms, Validated cr req resp h k perms
  | .rpc _ md (.revokeApiKey req), h, .ok _ => ∃ userId,
      cr.parseUuid (metaOf md "x-user-id") = some userId ∧ ⟨.sql (.revokeApiKey req.id userId), .ok ()⟩ ∈ h
  | _, _, _ => True

section Posts

variable {cr : Crates} {svc : AuthSvc} {md : MetadataMap}

theorem along_refuseIfExpired (expiresAt : Option DateTime) {h : List (Event Resp)}
    {post : List (Event Resp) → Except Failure Unit → Prop} (hfail : ∀ h e, post h (.error e))
    (hok : ∀ es, (∀ exp, expiresAt = some exp →
      ∃ now : DateTime, ⟨.sys .utcNow, now⟩ ∈ h ++ es ∧ ¬exp < now) → post (h ++ es) (.ok ())) :
    (refuseIfExpired expiresAt).Along eventMonitor post h := by
  cases expiresAt with
  | none =>
    have hnone := hok [] (by simp)
    rw [List.append_nil] at hnone
    exact hnone
  | some exp =>
    refine (Prog.along_bind _ _ _ _ _).mpr ((along_sys _ _).mpr fun now => ⟨trivial, ?_⟩)
    refine (Prog.along_failIf _ _ _ _ _).mpr ⟨fun _ => hfail _ _, fun hnow => ?_⟩
    refine hok [⟨.sys .utcNow, now⟩] fun exp' hexp => ⟨now, by simp, ?_⟩
    rw [← Option.some.inj hexp]
    exact of_decide_eq_false hnow

theorem along_validateApiKey (req : ValidateApiKeyRequest) :
    ((Rpc.validateApiKey req).handle cr svc md).Along eventMonitor
      (keyPost cr (.rpc svc md (.validateApiKey req))) [] := by
  refine (Prog.along_bind _ _ _ _ _).mpr ?_
  refine (Prog.along_bind _ _ _ _ _).mpr ((along_query _ _ _).mpr
    ⟨fun found => ⟨trivial, ?_⟩, fun _ => ⟨trivial, trivial⟩⟩)
  refine (Prog.along_bind _ _ _ _ _).mpr ((Prog.along_okOr _ _ _ _ _).mpr
    ⟨fun _ => trivial, fun k hk => ?_⟩)
  refine (Prog.along_bind _ _ _ _ _).mpr ((Prog.along_failIf _ _ _ _ _).mpr
    ⟨fun _ => trivial, fun hlive => ?_⟩)
  have hlive : k.revokedAt = none := by simpa using hlive
  refine (Prog.along_bind _ _ _ _ _).mpr (along_refuseIfExpired _ (fun _ _ => trivial) ?_)
  intro es hunexpired
  have hfound : ⟨.sql (.getApiKeyByHash (hashToken cr req.apiKey)), .ok (some k)⟩ ∈
      eventMonitor.upd [] ⟨.sql (.getApiKeyByHash (hashToken cr req.apiKey)), .ok found⟩ ++ es := by
    simp [eventMonitor, hk]
  generalize eventMonitor.upd [] ⟨.sql (.getApiKeyByHash (hashToken cr req.apiKey)), .ok found⟩ ++ es = h
    at hunexpired hfound ⊢
  simp [eventMonitor, keyPost]
  intro owner user _ member perms touched
  refine ⟨k, perms, by simp [hfound], hlive, fun exp hexp => ?_, by simp, rfl, by simp⟩
  obtain ⟨now, hnow, hle⟩ := hunexpired exp hexp
  exact ⟨now, by simp [hnow], hle⟩

theorem along_revokeApiKey (req : RevokeApiKeyRequest) :
    ((Rpc.revokeApiKey req).handle cr svc md).Along eventMonitor
      (keyPost cr (.rpc svc md (.revokeApiKey req))) [] := by
  simp [Rpc.handle, revokeApiKey, audit, eventMonitor, keyPost]
  intro userId huser
  exact ⟨fun _ => huser, fun _ => huser⟩

end Posts

theorem along_keyBody (cr : Crates) (call : Call) :
    (call.body cr).Along eventMonitor (keyPost cr call) [] := by
  cases call with
  | start env => exact Prog.along_trivial (fun _ _ => trivial) (fun _ _ => trivial) _ _
  | profileCreationFailed userId reason =>
    exact Prog.along_trivial (fun _ _ => trivial) (fun _ _ => trivial) _ _
  | rpc svc md r =>
    cases r
    case validateApiKey req => exact along_validateApiKey req
    case revokeApiKey req => exact along_revokeApiKey req
    all_goals exact Prog.along_trivial (fun _ _ => trivial) (fun _ _ => trivial) _ _

/-! ## Keys in a run -/

/-- What a validation `j` that succeeded rests on: the call `m` which created the key
after `pre`, the row it found, the permissions of the owner, the time, and the
revocations so far. -/
structure KeyUse (cr : Crates) (conn : DbRole) (st : State) (ls : List Act) (j : Nat)
    (req : ValidateApiKeyRequest) (resp : ValidateApiKeyResponse) (k : ApiKeyRow) (m : Nat)
    (pre : List Act) (c : Choice) : Prop where
  minted : ∃ svc md creq,
    (runFrom cr conn st ls).callOf m = some (.rpc svc md (.createApiKey creq)) ∧
      MintedFor cr md creq k
  created : ∃ name, CommitsAt cr conn st ls m (.createApiKey k.id k.userId
    (hashToken cr req.apiKey) name k.scopes k.expiresAt k.tenantId k.projectId) () pre c
  lookup : ∃ pre' c', pre ++ [.step m c] <+: pre' ∧
    CommitsAt cr conn st ls j (.getApiKeyByHash (hashToken cr req.apiKey)) (some k) pre' c'
  owner : resp.userId = cr.formatUuid k.userId
  scopes : ∃ pre' c' perms, CommitsAt cr conn st ls j
      (.getUserPermissionsScoped k.userId k.tenantId k.projectId) perms pre' c' ∧
    resp.scopes = k.scopes.filter fun s =>
      (permissionsOf (Scope.sees ⟨k.userId, k.tenantId, k.projectId⟩)
        (runFrom cr conn st pre').state.db).contains s
  unexpired : ∀ exp, k.expiresAt = some exp →
    ∃ pre' c' post', ls = pre' ++ .step j c' :: post' ∧ ¬exp < c'.now
  unrevoked : ∀ i svc md rreq r ls₁, ls₁ <+: ls →
    (runFrom cr conn st ls₁).callOf i = some (.rpc svc md (.revokeApiKey rreq)) →
    (runFrom cr conn st ls₁).result i = some (.ok r) →
    cr.parseUuid (metaOf md "x-user-id") = some k.userId → rreq.id = k.id →
    ∃ pre' c', CommitsAt cr conn st ls₁ i (.revokeApiKey k.id k.userId) () pre' c' ∧
      (pre ++ [.step m c] <+: pre' → (runFrom cr conn st ls₁).callOf j ≠ none)

section Run

variable {cr : Crates} {conn : DbRole} {st : State} {ls : List Act} {i : Nat} {s : Sql}
  {r : Reply s} {pre : List Act} {c : Choice}

theorem commitsAt_mem (h : ⟨.sql s, .ok r⟩ ∈ (runFrom cr conn st ls).hist i) :
    ∃ pre c, CommitsAt cr conn st ls i s r pre c := by
  obtain ⟨n, hn⟩ := List.mem_iff_getElem?.mp h
  obtain ⟨pre, c, hcommit, -⟩ := commitsAt hn
  exact ⟨pre, c, hcommit⟩

/-- A call that has not begun after `ls₁` issues its statements later. -/
theorem CommitsAt.after (h : CommitsAt cr conn st ls i s r pre c) {ls₁ : List Act}
    (hls₁ : ls₁ <+: ls) (hnone : (runFrom cr conn st ls₁).callOf i = none) : ls₁ <+: pre := by
  obtain ⟨post, hpost⟩ := h.split
  rcases List.prefix_or_prefix_of_prefix hls₁ ⟨_, hpost.symm⟩ with hbefore | ⟨rest, rfl⟩
  · exact hbefore
  · obtain ⟨k, f, ht⟩ := Pool.pending_eq_some.1 h.pending
    have hk : (runFrom cr conn st pre).callOf i = some k := by simp [Pool.callOf, ht]
    rw [runFrom_append, Pool.callOf_run hk] at hnone
    cases hnone

theorem getApiKeyByHash_ok {hash : String} {k : ApiKeyRow}
    (h : CommitsAt cr conn st ls i (.getApiKeyByHash hash) (some k) pre c) :
    ∃ x ∈ (runFrom cr conn st pre).state.db.apiKeys, x.toApiKeyRow = k ∧ x.keyHash = hash := by
  obtain ⟨x, hx, rfl⟩ := Option.map_eq_some_iff.mp (congrArg Prod.fst (Except.ok.inj h.exec))
  exact ⟨x, List.mem_of_find?_eq_some hx, rfl, by simpa using List.find?_some hx⟩

/-- Whoever created a key did so in its own name. -/
theorem minted_of_commits {m : Nat} {x : ApiKeyRecord}
    (h : CommitsAt cr conn st ls m x.creation () pre c) :
    ∃ svc md creq, (runFrom cr conn st ls).callOf m = some (.rpc svc md (.createApiKey creq)) ∧
      MintedFor cr md creq x.toApiKeyRow := by
  have ht : Pool.Tracks (fun call => Monitor.emitting (mintRule cr call)) (fun _ _ _ => True)
      (fun _ => ()) (runFrom cr conn st pre) := Pool.tracks_run (minted_body cr) st pre
  obtain ⟨call, hcall, svc, md, creq, rfl, hminted⟩ := ht.pending h.pending (.ok ())
  obtain ⟨post, hpost⟩ := h.split
  refine ⟨svc, md, creq, ?_, ⟨hminted.scopes, hminted.held, hminted.owner, hminted.tenant,
    hminted.project⟩⟩
  rw [hpost, runFrom_append]
  exact Pool.callOf_run hcall _

/-- Whatever a validation of a key returns goes back to one creation of that key: the
stored scopes, which its creator held, less those that the owner does not hold in
the key's tenant and project; not after its expiry, and not once a revocation by the
owner has been answered. -/
theorem keyUse (cr : Crates) (conn : DbRole) (st : State) (hst : st.db.apiKeys = [])
    (ls : List Act) (j : Nat) (svc : AuthSvc) (md : MetadataMap) (req : ValidateApiKeyRequest)
    (resp : ValidateApiKeyResponse)
    (hcall : (runFrom cr conn st ls).callOf j = some (.rpc svc md (.validateApiKey req)))
    (hres : (runFrom cr conn st ls).result j = some (.ok (.apiKey resp))) :
    ∃ k m pre c, KeyUse cr conn st ls j req resp k m pre c := by
  have hposts : ∀ ls, Pool.Tracks (fun _ => eventMonitor) (keyPost cr) (fun _ => [])
      (runFrom cr conn st ls) := Pool.tracks_run (along_keyBody cr) st
  obtain ⟨call, hcall', hpost⟩ := (hposts ls).result_history hres
  obtain rfl := Option.some.inj (hcall'.symm.trans hcall)
  obtain ⟨k, perms, hvalid⟩ := hpost
  obtain ⟨pre', c', hlookup⟩ := commitsAt_mem hvalid.lookup
  obtain ⟨x, hx, rfl, hhash⟩ := getApiKeyByHash_ok hlookup
  obtain ⟨m, pre, c, hcreated, hunrevoked⟩ := key_origin hst pre' hx
  obtain ⟨post', hpost'⟩ := hlookup.split
  have hcreated' := hcreated.extend (.step j c' :: post')
  rw [← hpost'] at hcreated'
  refine ⟨x.toApiKeyRow, m, pre, c, ?_⟩
  exact {
    minted := minted_of_commits hcreated'
    created := ⟨x.name, hhash ▸ hcreated'⟩
    lookup := by
      obtain ⟨mid, hmid⟩ := hcreated.split
      exact ⟨pre', c', ⟨mid, by simp [hmid]⟩, hlookup⟩
    owner := hvalid.owner
    scopes := by
      obtain ⟨pre₂, c₂, hloaded⟩ := commitsAt_mem hvalid.loaded
      have hperms : Scope.perms conn ⟨x.userId, x.tenantId, x.projectId⟩
          (runFrom cr conn st pre₂).state.db = perms :=
        congrArg Prod.fst (Except.ok.inj hloaded.exec)
      rw [Scope.perms_eq] at hperms
      exact ⟨pre₂, c₂, perms, hloaded, hperms ▸ hvalid.scopes⟩
    unexpired := by
      intro exp hexp
      obtain ⟨now, hnow, hle⟩ := hvalid.unexpired exp hexp
      obtain ⟨n, hn⟩ := List.mem_iff_getElem?.mp hnow
      obtain ⟨pre₂, c₂, post₂, hls₂, hnow₂⟩ := drawnAt hn
      obtain rfl : c₂.now = now := hnow₂
      exact ⟨pre₂, c₂, post₂, hls₂, hle⟩
    unrevoked := by
      intro i svc' md' rreq r ls₁ hls₁ hrevoke hdone howner hid
      obtain ⟨call, hcall₁, hpost₁⟩ := (hposts ls₁).result_history hdone
      obtain rfl := Option.some.inj (hcall₁.symm.trans hrevoke)
      obtain ⟨userId, huser, hmem⟩ := hpost₁
      obtain rfl := Option.some.inj (huser.symm.trans howner)
      obtain ⟨pre₂, c₂, hcommit⟩ := commitsAt_mem hmem
      rw [hid] at hcommit
      refine ⟨pre₂, c₂, hcommit, fun hafter hnone => ?_⟩
      -- The validation would have found the row revoked.
      obtain ⟨rest, rfl⟩ := hlookup.after hls₁ hnone
      exact hunrevoked hvalid.live i pre₂ c₂ (hcommit.extend rest) hafter }

end Run

namespace Sample

/-- The new user, who holds the role of every user, with two permissions. -/
def profileReader : MetadataMap := metadata 10 defaultTenantId "profile:read,user:read"

def createKey : Call := .rpc svc profileReader (.createApiKey ⟨"ci", ["profile:read", "user:read"], 60⟩)

def validateKey : ValidateApiKeyRequest := ⟨"iamk_k_k"⟩

/-- A key is created and used while it has not expired. -/
def keyUseRun : List Act :=
  registration ++ alone 1 createKey (List.replicate 5 (choice 0 0 "k")) ++
    alone 2 (.rpc svc [] (.validateApiKey validateKey)) (List.replicate 6 (choice 0 0 ""))

/-- Its owner lacks one of the two scopes. -/
theorem keyUse_profile : ∃ k m pre c, KeyUse crates .superuser ⟨migrated, []⟩ keyUseRun 2 validateKey
    ⟨formatUuid 10, "u@iam.local", ["profile:read"]⟩ k m pre c :=
  keyUse crates .superuser ⟨migrated, []⟩ rfl keyUseRun 2 svc [] validateKey _
    (by decide) (by decide)

end Sample

end IamAuth
