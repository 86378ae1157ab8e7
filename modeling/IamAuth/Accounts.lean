import IamAuth.ApiKeys
import IamAuth.Integrity
import IamAuth.Writes

/-!
# An account and the calls of others

A run of calls that present nothing of a user's, neither an identity nor a secret, does
not change a row of the user's account.
-/

set_option autoImplicit false

namespace IamAuth

open Interleave Relational

/-- The rows of user `u`. -/
structure SameAccount (u : Uuid) (db db' : Db) : Prop where
  users : db'.users.filter (fun x => x.id == u) = db.users.filter fun x => x.id == u
  refreshTokens : db'.refreshTokens.filter (fun t => t.userId == u) =
    db.refreshTokens.filter fun t => t.userId == u
  emailVerifications : db'.emailVerifications.filter (fun t => t.userId == u) =
    db.emailVerifications.filter fun t => t.userId == u
  passwordResets : db'.passwordResets.filter (fun t => t.userId == u) =
    db.passwordResets.filter fun t => t.userId == u
  totpRecoveryCodes : db'.totpRecoveryCodes.filter (fun t => t.userId == u) =
    db.totpRecoveryCodes.filter fun t => t.userId == u
  apiKeys : db'.apiKeys.filter (fun k => k.userId == u) =
    db.apiKeys.filter fun k => k.userId == u
  codes : db'.oauthAuthorizationCodes.filter (fun k => k.userId == u) =
    db.oauthAuthorizationCodes.filter fun k => k.userId == u
  consents : db'.oauthConsents.filter (fun k => k.userId == u) =
    db.oauthConsents.filter fun k => k.userId == u

def accountTables : List Table :=
  [.users, .refreshTokens, .emailVerifications, .passwordResets, .totpRecoveryCodes, .apiKeys,
    .oauthAuthorizationCodes, .oauthConsents]

section Rows

variable {u : Uuid} {db db' db₁ db₂ : Db}

theorem SameAccount.refl (u : Uuid) (db : Db) : SameAccount u db db :=
  ⟨rfl, rfl, rfl, rfl, rfl, rfl, rfl, rfl⟩

theorem SameAccount.trans (h : SameAccount u db db₁) (h' : SameAccount u db₁ db₂) :
    SameAccount u db db₂ where
  users := h'.users.trans h.users
  refreshTokens := h'.refreshTokens.trans h.refreshTokens
  emailVerifications := h'.emailVerifications.trans h.emailVerifications
  passwordResets := h'.passwordResets.trans h.passwordResets
  totpRecoveryCodes := h'.totpRecoveryCodes.trans h.totpRecoveryCodes
  apiKeys := h'.apiKeys.trans h.apiKeys
  codes := h'.codes.trans h.codes
  consents := h'.consents.trans h.consents

theorem SameAccount.of_frame (u : Uuid) {ts : List Table} (h : Frame ts db db')
    (hts : ∀ t ∈ ts, t ∉ accountTables) : SameAccount u db db' := by
  have hout : ∀ t, t ∈ accountTables → t ∉ ts := fun t ht hmem => hts t hmem ht
  constructor
  · rw [h.users (hout _ (by decide))]
  · rw [h.refreshTokens (hout _ (by decide))]
  · rw [h.emailVerifications (hout _ (by decide))]
  · rw [h.passwordResets (hout _ (by decide))]
  · rw [h.totpRecoveryCodes (hout _ (by decide))]
  · rw [h.apiKeys (hout _ (by decide))]
  · rw [h.oauthAuthorizationCodes (hout _ (by decide))]
  · rw [h.oauthConsents (hout _ (by decide))]

theorem mem_of_filter_eq {α : Type} {q : α → Bool} {xs ys : List α}
    (h : ys.filter q = xs.filter q) {x : α} (hq : q x = true) : x ∈ ys ↔ x ∈ xs := by
  have hmem : x ∈ ys.filter q ↔ x ∈ xs.filter q := by rw [h]
  simpa [List.mem_filter, hq] using hmem

end Rows

/-! ## Statements -/

/-- The user whose account a statement names. -/
def Sql.target : Sql → Option Uuid
  | .deleteUserEventSoft v .. | .restoreUserEvent v .. => some v
  | .setTotpSecret v _ | .enableTotp v | .disableTotp v => some v
  | .insertRecoveryCode v _ | .deleteRecoveryCodes v | .consumeRecoveryCode v _ => some v
  | .incrementLoginFailure v | .lockUser v _ | .resetLoginState v => some v
  | .markEmailVerified v | .updatePassword v _ | .revokeAllUserRefreshTokens v => some v
  | .createEmailVerification _ v _ | .createPasswordReset _ v _ => some v
  | .createApiKey _ v .. | .revokeApiKey _ v => some v
  | .createRefreshToken v .. => some v
  | .insertAuthorizationCode _ _ v .. | .saveConsent v .. => some v
  | _ => none

/-- A statement that neither names user `u` nor a credential of `u`. -/
def Sql.Spares (u : Uuid) (db : Db) (s : Sql) : Prop :=
  s.target ≠ some u ∧
  match s with
  | .revokeRefreshToken h | .rotateRefreshToken h _ =>
    ∀ t ∈ db.refreshTokens, t.userId = u → t.tokenHash ≠ h
  | .consumeEmailVerification h => ∀ t ∈ db.emailVerifications, t.userId = u → t.tokenHash ≠ h
  | .consumePasswordReset h => ∀ t ∈ db.passwordResets, t.userId = u → t.tokenHash ≠ h
  | .claimAuthorizationCode h => ∀ k ∈ db.oauthAuthorizationCodes, k.userId = u → k.codeHash ≠ h
  | .touchApiKey id => ∀ k ∈ db.apiKeys, k.userId = u → k.id ≠ id
  | _ => True

section Writers

variable {u v : Uuid} {db db' : Db}

theorem sameAccount_updateUser (hv : v ≠ u) (f : UserRow → UserRow) (hf : ∀ x, (f x).id = x.id)
    (db : Db) : SameAccount u db (Repo.updateUser v f db) := by
  refine { SameAccount.refl u db with users := filter_updateWhere ?_ db.users }
  intro x hx
  obtain rfl : x.id = v := beq_iff_eq.mp hx
  simp [hf, hv]

theorem sameAccount_insertUser {email hash : String} (hu : ∃ x ∈ db.users, x.id = u)
    (h : Repo.insertUser v email hash db = .ok db') : SameAccount u db db' := by
  unfold Repo.insertUser at h
  split at h
  · cases h
  · next hfresh =>
    cases h
    obtain ⟨x, hx, hid⟩ := hu
    have hv : v ≠ u := by
      intro heq
      apply hfresh
      simp only [List.any_eq_true, Bool.or_eq_true, beq_iff_eq]
      exact ⟨x, hx, .inl (hid.trans heq.symm)⟩
    exact { SameAccount.refl u db with users := filter_insert (by simp [hv]) db.users }

theorem sameAccount_revokeAll (c : Choice) (hv : v ≠ u) (db : Db) :
    SameAccount u db (Repo.revokeAllUserRefreshTokens c v db) := by
  refine { SameAccount.refl u db with refreshTokens := filter_updateWhere ?_ db.refreshTokens }
  intro t ht
  simp only [Bool.and_eq_true, beq_iff_eq] at ht
  simp [ht.1, hv]

theorem sameAccount_deleteUserRows (hv : v ≠ u) (db : Db) :
    SameAccount u db (Repo.deleteUserRows v db) where
  users := filter_deleteWhere (by simp +contextual [hv]) db.users
  refreshTokens := filter_deleteWhere (by simp +contextual [hv]) db.refreshTokens
  emailVerifications := filter_deleteWhere (by simp +contextual [hv]) db.emailVerifications
  passwordResets := filter_deleteWhere (by simp +contextual [hv]) db.passwordResets
  totpRecoveryCodes := filter_deleteWhere (by simp +contextual [hv]) db.totpRecoveryCodes
  apiKeys := filter_deleteWhere (by simp +contextual [hv]) db.apiKeys
  codes := rfl
  consents := rfl

theorem sameAccount_softDelete (c : Choice) (hv : v ≠ u) (db : Db) :
    SameAccount u db (Repo.softDeleteUser c v db) := by
  refine SameAccount.trans ?_ (sameAccount_revokeAll c hv _)
  refine { SameAccount.refl u db with users := filter_updateWhere ?_ db.users }
  intro x hx
  simp only [Bool.and_eq_true, beq_iff_eq] at hx
  simp [hx.1, hv]

theorem sameAccount_insertOutbox {c : Choice} {eventType : String} {payload : EventPayload}
    (h : Repo.insertOutbox c v eventType payload db = .ok db') : SameAccount u db db' :=
  .of_frame u (frame_insertOutbox h) (by decide)

theorem sameAccount_insertOneTime {hash : String} {expires : DateTime}
    {table table' : List OneTimeToken} (hv : v ≠ u)
    (h : Repo.insertOneTimeToken hash v expires db table = .ok table') :
    table'.filter (fun t => t.userId == u) = table.filter fun t => t.userId == u := by
  unfold Repo.insertOneTimeToken at h
  repeat' split at h
  all_goals cases h
  exact filter_insert (by simp [hv]) table

/-- The rows that a hash selects are none of the user's. -/
theorem sameAccount_consume {c : Choice} {hash : String} {table : List OneTimeToken}
    (ht : ∀ t ∈ table, t.userId = u → t.tokenHash ≠ hash) :
    (Repo.consumeOneTimeToken c hash table).2.filter (fun t => t.userId == u) =
      table.filter fun t => t.userId == u := by
  apply filter_updateWhere_of_mem
  intro t hmem hhit
  simp only [Repo.consumable, Bool.and_eq_true, beq_iff_eq] at hhit
  have hne : t.userId ≠ u := fun heq => ht t hmem heq hhit.1.1
  simp [hne]

theorem sameAccount_insertRecoveryCode {hash : String} {r : Unit} (hv : v ≠ u)
    (h : Repo.insertRecoveryCode v hash db = .ok (r, db')) : SameAccount u db db' := by
  simp only [Repo.insertRecoveryCode] at h
  split at h <;> cases h
  exact { SameAccount.refl u db with
    totpRecoveryCodes := filter_insert (by simp [hv]) db.totpRecoveryCodes }

theorem sameAccount_consumeRecoveryCode (c : Choice) (hash : String) (hv : v ≠ u) (db : Db) :
    SameAccount u db (Repo.consumeRecoveryCode c v hash db).2 := by
  refine { SameAccount.refl u db with
    totpRecoveryCodes := filter_updateWhere ?_ db.totpRecoveryCodes }
  intro t ht
  simp only [Repo.unusedCode, Bool.and_eq_true, beq_iff_eq] at ht
  simp [ht.1.1, hv]

theorem sameAccount_createRefreshToken {hash : String} {expires : DateTime} {tenant : Uuid}
    {project : Option Uuid} {r : Unit} (hv : v ≠ u)
    (h : Repo.createRefreshToken v hash expires tenant project db = .ok (r, db')) :
    SameAccount u db db' := by
  simp only [Repo.createRefreshToken] at h
  repeat' split at h
  all_goals cases h
  exact { SameAccount.refl u db with
    refreshTokens := filter_insert (by simp [hv]) db.refreshTokens }

/-- A token is revoked by its hash. -/
theorem sameAccount_updateToken {hash : String} {p : RefreshToken → Bool}
    {f : RefreshToken → RefreshToken} (hp : ∀ t, p t = true → t.tokenHash = hash)
    (hf : ∀ t, (f t).userId = t.userId)
    (hs : ∀ t ∈ db.refreshTokens, t.userId = u → t.tokenHash ≠ hash) :
    SameAccount u db { db with refreshTokens := updateWhere p f db.refreshTokens } := by
  refine { SameAccount.refl u db with refreshTokens := filter_updateWhere_of_mem ?_ }
  intro t hmem hhit
  have hne : t.userId ≠ u := fun heq => hs t hmem heq (hp t hhit)
  simp [hf, hne]

theorem sameAccount_createApiKey {c : Choice} {id hash name : String} {scopes : List String}
    {expires : Option DateTime} {tenant : Uuid} {project : Option Uuid} {r : Unit} (hv : v ≠ u)
    (h : Repo.createApiKey c id v hash name scopes expires tenant project db = .ok (r, db')) :
    SameAccount u db db' := by
  simp only [Repo.createApiKey] at h
  repeat' split at h
  all_goals cases h
  exact { SameAccount.refl u db with
    apiKeys := filter_insert (by simp [hv]) db.apiKeys }

theorem sameAccount_revokeApiKey (c : Choice) (id : String) (hv : v ≠ u) (db : Db) :
    SameAccount u db (Repo.revokeApiKey c id v db) := by
  refine { SameAccount.refl u db with apiKeys := filter_updateWhere ?_ db.apiKeys }
  intro k hk
  simp only [Bool.and_eq_true, beq_iff_eq] at hk
  simp [hk.1.2, hv]

theorem sameAccount_touchApiKey {c : Choice} {id : String}
    (hs : ∀ k ∈ db.apiKeys, k.userId = u → k.id ≠ id) :
    SameAccount u db (Repo.touchApiKey c id db) := by
  refine { SameAccount.refl u db with apiKeys := filter_updateWhere_of_mem ?_ }
  intro k hmem hhit
  have hne : k.userId ≠ u := fun heq => hs k hmem heq (beq_iff_eq.mp hhit)
  simp [hne]

theorem sameAccount_insertAuthorizationCode {c : Choice} {hash client : String}
    {uri scope challenge method nonce : String} {r : Unit} (hv : v ≠ u)
    (h : Repo.insertAuthorizationCode c hash client v uri scope challenge method nonce db =
      .ok (r, db')) : SameAccount u db db' := by
  simp only [Repo.insertAuthorizationCode] at h
  repeat' split at h
  all_goals cases h
  exact { SameAccount.refl u db with
    codes := filter_insert (by simp [hv]) db.oauthAuthorizationCodes }

theorem sameAccount_claimAuthorizationCode {hash : String}
    (hs : ∀ k ∈ db.oauthAuthorizationCodes, k.userId = u → k.codeHash ≠ hash) :
    SameAccount u db (Repo.claimAuthorizationCode hash db).2 := by
  refine { SameAccount.refl u db with codes := filter_updateWhere_of_mem ?_ }
  intro k hmem hhit
  simp only [Bool.and_eq_true, beq_iff_eq] at hhit
  have hne : k.userId ≠ u := fun heq => hs k hmem heq hhit.1
  simp [hne]

theorem sameAccount_saveConsent {client : String} {scopes : List String} {r : Unit} (hv : v ≠ u)
    (h : Repo.saveConsent v client scopes db = .ok (r, db')) : SameAccount u db db' := by
  simp only [Repo.saveConsent] at h
  repeat' split at h
  all_goals cases h
  · refine { SameAccount.refl u db with consents := filter_updateWhere ?_ db.oauthConsents }
    intro k hk
    simp only [Bool.and_eq_true, beq_iff_eq] at hk
    simp [hk.1, hv]
  · exact { SameAccount.refl u db with
      consents := filter_insert (by simp [hv]) db.oauthConsents }

/-- A statement that spares a user leaves the account as it is. -/
theorem sameAccount_exec {conn : DbRole} {c : Choice} {s : Sql} {r : Reply s}
    (hu : ∃ x ∈ db.users, x.id = u) (hs : s.Spares u db) (h : s.exec conn c db = .ok (r, db')) :
    SameAccount u db db' := by
  obtain ⟨htarget, hs⟩ := hs
  have hother : ∀ v, s.target = some v → v ≠ u := by
    intro v hv heq
    exact htarget (hv.trans (congrArg some heq))
  cases s
  case createUserWithRole email hash role =>
    obtain ⟨db₁, -, h₁, h₂⟩ := createUserWithRole_ok h
    exact (sameAccount_insertUser hu h₁).trans (.of_frame u (frame_insertUserRoles h₂) (by decide))
  case createUserWithRoleEvent id email hash role eventType payload =>
    obtain ⟨db₁, db₂, h₁, h₂, h₃⟩ := createUserWithRoleEvent_ok h
    exact ((sameAccount_insertUser hu h₁).trans
      (.of_frame u (frame_insertUserRoles h₂) (by decide))).trans (sameAccount_insertOutbox h₃)
  case deleteUserEventSoft v hard eventType payload =>
    have hv := hother v rfl
    refine SameAccount.trans ?_ (sameAccount_insertOutbox (deleteUserEventSoft_ok h))
    split
    · exact sameAccount_deleteUserRows hv db
    · exact sameAccount_softDelete c hv db
  case restoreUserEvent v eventType payload =>
    refine SameAccount.trans ?_ (sameAccount_insertOutbox (restoreUserEvent_ok h))
    refine sameAccount_updateUser (hother v rfl) _ ?_ db
    intro x
    rfl
  case incrementLoginFailure v =>
    simp only [Sql.exec, Repo.incrementLoginFailure] at h
    repeat' split at h
    all_goals cases h
    refine sameAccount_updateUser (hother v rfl) _ ?_ db
    intro x
    rfl
  case insertRecoveryCode v hash => exact sameAccount_insertRecoveryCode (hother v rfl) h
  case deleteRecoveryCodes v =>
    cases h
    exact { SameAccount.refl u db with
      totpRecoveryCodes := filter_deleteWhere (by simp +contextual [hother v rfl]) db.totpRecoveryCodes }
  case consumeRecoveryCode v hash =>
    cases h
    exact sameAccount_consumeRecoveryCode c hash (hother v rfl) db
  case revokeAllUserRefreshTokens v =>
    cases h
    exact sameAccount_revokeAll c (hother v rfl) db
  case createRefreshToken v hash expires tenant project =>
    exact sameAccount_createRefreshToken (hother v rfl) h
  case revokeRefreshToken hash =>
    cases h
    refine sameAccount_updateToken ?_ (fun _ => rfl) hs
    intro t hhit
    simp only [Bool.and_eq_true, beq_iff_eq] at hhit
    exact hhit.1
  case rotateRefreshToken hash replacedBy =>
    cases h
    refine sameAccount_updateToken ?_ (fun _ => rfl) hs
    intro t hhit
    simp only [Bool.and_eq_true, beq_iff_eq] at hhit
    exact hhit.1
  case createEmailVerification hash v expires =>
    simp only [Sql.exec, Repo.createEmailVerification] at h
    split at h <;> cases h
    next h' => exact { SameAccount.refl u db with
      emailVerifications := sameAccount_insertOneTime (hother v rfl) h' }
  case createPasswordReset hash v expires =>
    simp only [Sql.exec, Repo.createPasswordReset] at h
    split at h <;> cases h
    next h' => exact { SameAccount.refl u db with
      passwordResets := sameAccount_insertOneTime (hother v rfl) h' }
  case consumeEmailVerification hash =>
    cases h
    exact { SameAccount.refl u db with emailVerifications := sameAccount_consume hs }
  case consumePasswordReset hash =>
    cases h
    exact { SameAccount.refl u db with passwordResets := sameAccount_consume hs }
  case createApiKey id v hash name scopes expires tenant project =>
    exact sameAccount_createApiKey (hother v rfl) h
  case revokeApiKey id v =>
    cases h
    exact sameAccount_revokeApiKey c id (hother v rfl) db
  case touchApiKey id =>
    cases h
    exact sameAccount_touchApiKey hs
  case insertAuthorizationCode hash client v uri scope challenge method nonce =>
    exact sameAccount_insertAuthorizationCode (hother v rfl) h
  case claimAuthorizationCode hash =>
    cases h
    exact sameAccount_claimAuthorizationCode hs
  case saveConsent v client scopes => exact sameAccount_saveConsent (hother v rfl) h
  all_goals
    first
      | cases h
        refine sameAccount_updateUser (hother _ rfl) _ ?_ db
        intro x
        rfl
      | exact .of_frame u (Sql.exec_frame h) (by simp [Sql.writes, accountTables])

end Writers

/-! ## Handlers -/

/-- The RPCs about the account of the caller. -/
def Rpc.ownAccount : Rpc → Bool
  | .switchTenant _ | .enrollTotp | .activateTotp _ | .disableTotp _ => true
  | .createApiKey _ | .revokeApiKey _ | .changePassword _ => true
  | _ => false

/-- The call has found `v` by the address `email`. -/
def ByEmail (h : List (Event Resp)) (email : String) (v : Uuid) : Prop :=
  ∃ x, ⟨.sql (.getUserByEmail email), .ok (some x)⟩ ∈ h ∧ x.id = v

/-- How a call has come to the user `v` whose account it writes: by the address of its
request, by a token it was given, by an id that it may name. -/
def Rpc.Names (cr : Crates) (md : MetadataMap) (h : List (Event Resp)) (v : Uuid) : Rpc → Prop
  | .login req => ByEmail h req.email v
  | .requestEmailVerification req => ByEmail h req.email v
  | .requestPasswordReset req => ByEmail h req.email v
  | .loginTotp req => ∃ claims, ⟨.sys (.jwtParse req.mfaToken), some claims⟩ ∈ h ∧
    cr.parseUuid claims.sub = some v
  | .refresh req => ∃ row,
    ⟨.sql (.getRefreshToken (hashToken cr req.refreshToken)), .ok (some row)⟩ ∈ h ∧
      (row.userId = v ∨ ∃ x, ⟨.sql (.getUserById row.userId), .ok (some x)⟩ ∈ h ∧ x.id = v)
  | .verifyEmail req =>
    ⟨.sql (.consumeEmailVerification (hashToken cr req.token)), .ok (some v)⟩ ∈ h
  | .resetPassword req =>
    ⟨.sql (.consumePasswordReset (hashToken cr req.token)), .ok (some v)⟩ ∈ h
  | .exchangeAuthorizationCode req => ∃ found : AuthorizationCode × Bool,
    ⟨.sql (.getAuthorizationCode (hashToken cr req.code)), .ok (some found)⟩ ∈ h ∧
      found.1.userId = v
  | .createAuthorizationCode req => cr.parseUuid req.userId = some v
  | .saveConsent req => cr.parseUuid req.userId = some v
  | .deleteUser req => hasPerm md "user:delete" = true ∧ cr.parseUuid req.userId = some v
  | .restoreUser req => hasPerm md "user:delete" = true ∧ cr.parseUuid req.userId = some v
  | r => r.ownAccount = true ∧ callerId cr md = some v

/-- The key that a validation marks as used is the one it was given. -/
def Rpc.NamesKey (cr : Crates) (h : List (Event Resp)) (id : String) : Rpc → Prop
  | .validateApiKey req => ∃ row,
    ⟨.sql (.getApiKeyByHash (hashToken cr req.apiKey)), .ok (some row)⟩ ∈ h ∧ row.id = id
  | _ => False

def Sql.keyId : Sql → Option String
  | .touchApiKey id => some id
  | _ => none

/-- A statement about an account or a key comes after the call has named it. -/
def Rpc.NameRule (cr : Crates) (md : MetadataMap) (r : Rpc) (h : List (Event Resp))
    (e : Event Resp) : Prop :=
  ∀ s, e.1 = .sql s → (∀ v, s.target = some v → r.Names cr md h v) ∧
    ∀ id, s.keyId = some id → r.NamesKey cr h id

/-- Statements about no account but that of `v`, and no key but `key`. -/
def Aims (v : Option Uuid) (key : Option String) : Op → Prop
  | .sql s => (∀ w, s.target = some w → v = some w) ∧ ∀ id, s.keyId = some id → key = some id
  | _ => True

theorem Sql.quiet_aims {s : Sql} (h : s.quiet = true) : Aims none none (.sql s) := by
  have hnone : s.target = none ∧ s.keyId = none := by
    cases s <;> first | exact ⟨rfl, rfl⟩ | simp [Sql.quiet, Sql.writes] at h
  simp [Aims, hnone]

section Names

variable {cr : Crates} {svc : AuthSvc} {md : MetadataMap} {r : Rpc} {v : Uuid}
variable {h : List (Event Resp)}

theorem Rpc.Names.snoc (hn : r.Names cr md h v) (e : Event Resp) : r.Names cr md (h ++ [e]) v := by
  cases r
  case login | requestEmailVerification | requestPasswordReset | loginTotp
      | exchangeAuthorizationCode =>
    obtain ⟨x, hx, hv⟩ := hn
    exact ⟨x, List.mem_append_left _ hx, hv⟩
  case refresh =>
    obtain ⟨row, hrow, hv⟩ := hn
    refine ⟨row, List.mem_append_left _ hrow, ?_⟩
    rcases hv with hv | ⟨x, hx, hv⟩
    · exact .inl hv
    · exact .inr ⟨x, List.mem_append_left _ hx, hv⟩
  case verifyEmail | resetPassword => exact List.mem_append_left _ hn
  all_goals exact hn

theorem Rpc.NamesKey.snoc {id : String} (hn : r.NamesKey cr h id) (e : Event Resp) :
    r.NamesKey cr (h ++ [e]) id := by
  cases r
  case validateApiKey =>
    obtain ⟨row, hrow, hid⟩ := hn
    exact ⟨row, List.mem_append_left _ hrow, hid⟩
  all_goals exact hn

/-- What is left of a call that has named what it writes. -/
theorem Aims.along {α : Type} {p : Handler α} {v : Option Uuid} {key : Option String}
    (hp : p.Emits (Aims v key)) (hv : ∀ w, v = some w → r.Names cr md h w)
    (hkey : ∀ id, key = some id → r.NamesKey cr h id)
    {post : List (Event Resp) → Except Failure α → Prop} (hpost : ∀ h x, post h x) :
    p.Along (Monitor.history (r.NameRule cr md)) post h := by
  refine Prog.Emits.along_persists (P := Aims v key)
    (Q := fun h => (∀ w, v = some w → r.Names cr md h w) ∧ ∀ id, key = some id → r.NamesKey cr h id)
    ?_ ?_ (fun h x _ => hpost h x) hp ⟨hv, hkey⟩
  · intro h e he hh s hs
    rw [hs] at he
    exact ⟨fun w hw => hh.1 w (he.1 w hw), fun id hid => hh.2 id (he.2 id hid)⟩
  · intro h e hh
    exact ⟨fun w hw => (hh.1 w hw).snoc e, fun id hid => (hh.2 id hid).snoc e⟩

/-- The usual case, of one account. -/
theorem Aims.along_user {α : Type} {p : Handler α} (hp : p.Emits (Aims (some v) none))
    (hn : r.Names cr md h v) {post : List (Event Resp) → Except Failure α → Prop}
    (hpost : ∀ h x, post h x) : p.Along (Monitor.history (r.NameRule cr md)) post h := by
  refine Aims.along hp ?_ ?_ hpost
  · intro w hw
    cases hw
    exact hn
  · intro id hid
    cases hid

/-- A statement that is about nobody. -/
theorem Aims.nameRule {o : Op} (ho : Aims none none o) (x : Resp o) : r.NameRule cr md h ⟨o, x⟩ := by
  intro s hs
  have hs : o = .sql s := hs
  rw [hs] at ho
  constructor
  · intro w hw
    cases ho.1 w hw
  · intro id hid
    cases ho.2 id hid

theorem aims_refuseIfLocked (user : UserRow) : (refuseIfLocked user).Emits (Aims (some v) none) := by
  unfold refuseIfLocked
  cases user.lockedUntil <;> simp [Prog.Emits, Aims]

attribute [local simp] Aims Sql.target Sql.keyId in
theorem aims_countFailure (email detail : String) :
    (countFailure cr svc v email detail).Emits (Aims (some v) none) := by
  unfold countFailure
  split
  · refine .bind (by simp [Prog.Emits]) ?_
    intro reply
    cases reply with
    | error e => trivial
    | ok n => simp [Prog.Emits]
  · trivial

theorem aims_checkCode (secret : Option String) (code : String) :
    (checkCode cr v secret code).Emits (Aims (some v) none) := by
  refine .bind (by cases secret <;> simp [checkTotp, Prog.Emits, Aims]) ?_
  intro valid
  cases valid <;> simp [Prog.Emits, Aims, Sql.target, Sql.keyId]

theorem aims_issueTokens (email : String) (tenant : Uuid) (project : Option Uuid) :
    (issueTokens cr svc v email tenant project).Emits (Aims (some v) none) := by
  simp [issueTokens, Prog.Emits, Aims, Sql.target, Sql.keyId]

theorem aims_issueForActiveTenant (email : String) :
    (issueForActiveTenant cr svc v email).Emits (Aims (some v) none) := by
  refine .bind (by simp [Prog.Emits, Aims, Sql.target, Sql.keyId]) fun _ => ?_
  exact aims_issueTokens email _ none

end Names

section Handlers

variable (cr : Crates) (svc : AuthSvc) (md : MetadataMap)

/-- The statements of a call about an account come after it has named the account. -/
def Rpc.NamesFirst {α : Type} (r : Rpc) (p : Handler α) (h : List (Event Resp)) : Prop :=
  p.Along (Monitor.history (r.NameRule cr md)) (fun _ _ => True) h

variable {cr svc md}

theorem namesFirst_read {α : Type} {r : Rpc} {s : Sql} {e : Failure} {f : Reply s → Handler α}
    {h : List (Event Resp)} (hs : Aims none none (.sql s))
    (hf : ∀ x, r.NamesFirst cr md (f x) (h ++ [⟨.sql s, .ok x⟩])) :
    r.NamesFirst cr md (query s e >>= f) h := by
  simp only [Rpc.NamesFirst, Prog.along_bind, along_query, Monitor.history_ok, Monitor.history_upd,
    Prog.then_ok, Prog.then_error]
  constructor
  · intro x
    exact ⟨Aims.nameRule hs _, hf x⟩
  · intro d
    exact ⟨Aims.nameRule hs _, trivial⟩

theorem namesFirst_okOr {α β : Type} {r : Rpc} {x : Option β} {e : Failure} {f : β → Handler α}
    {h : List (Event Resp)} (hf : ∀ b, x = some b → r.NamesFirst cr md (f b) h) :
    r.NamesFirst cr md (Prog.okOr x e >>= f) h := by
  cases x with
  | none => trivial
  | some b => exact hf b rfl

theorem namesFirst_failIf {α : Type} {r : Rpc} {c : Bool} {e : Failure} {f : Unit → Handler α}
    {h : List (Event Resp)} (hf : r.NamesFirst cr md (f ()) h) :
    r.NamesFirst cr md (Prog.failIf c e >>= f) h := by
  cases c with
  | false => exact hf
  | true => trivial

theorem namesFirst_user {α : Type} {r : Rpc} {v : Uuid} {p : Handler α} {h : List (Event Resp)}
    (hn : r.Names cr md h v) (hp : p.Emits (Aims (some v) none)) : r.NamesFirst cr md p h :=
  Aims.along_user hp hn fun _ _ => trivial

theorem names_login (req : LoginRequest) :
    (Rpc.login req).NamesFirst cr md (login cr svc req) [] := by
  refine namesFirst_read (by simp [Aims, Sql.target, Sql.keyId]) fun found => ?_
  cases found with
  | none => simp [Rpc.NamesFirst, Rpc.NameRule]
  | some user =>
    refine namesFirst_user (v := user.id) ⟨user, by simp, rfl⟩ ?_
    refine .bind (aims_refuseIfLocked user) fun _ => .bind (by simp [Prog.Emits, Aims]) fun ok => ?_
    split
    · refine .bind (aims_countFailure _ _) fun _ => ?_
      simp [Prog.Emits, Aims, Sql.target, Sql.keyId]
    · refine .bind (by simp [Prog.Emits]) fun _ => .bind (by simp [Prog.Emits]) fun _ => ?_
      refine .bind (by simp [Prog.Emits, Aims, Sql.target, Sql.keyId]) fun _ => ?_
      split
      · simp [Prog.Emits, Aims, Sql.target, Sql.keyId]
      · refine .bind (by simp [Prog.Emits, Aims, Sql.target, Sql.keyId]) fun _ => ?_
        exact aims_issueForActiveTenant _

theorem names_loginTotp (req : LoginTotpRequest) :
    (Rpc.loginTotp req).NamesFirst cr md (loginTotp cr svc req) [] := by
  simp only [loginTotp, Rpc.NamesFirst, Prog.along_bind, along_sys, Monitor.history_ok,
    Monitor.history_upd, Prog.then_ok, List.nil_append, Prog.along_okOr, Prog.then_error,
    implies_true, true_and, Prog.along_failIf]
  intro parsed
  refine ⟨by simp [Rpc.NameRule], ?_⟩
  rintro claims rfl - uid hsub
  have hn : (Rpc.loginTotp req).Names cr md [⟨.sys (.jwtParse req.mfaToken), some claims⟩] uid :=
    ⟨claims, by simp, hsub⟩
  refine (Prog.along_bind _ _ _ (query (.getUserById uid) (internal "db error")) _).mp
    (Aims.along_user ?_ hn fun _ _ => trivial)
  refine .bind (by simp [Prog.Emits, Aims, Sql.target, Sql.keyId]) fun _ => ?_
  refine .bind (by simp [Prog.Emits]) fun user => .bind (aims_refuseIfLocked user) fun _ => ?_
  refine .bind (aims_checkCode _ _) fun ok => ?_
  split
  · refine .bind (aims_countFailure _ _) fun _ => ?_
    simp [Prog.Emits, Aims, Sql.target, Sql.keyId]
  · refine .bind (by simp [Prog.Emits, Aims, Sql.target, Sql.keyId]) fun _ => ?_
    refine .bind (by simp [Prog.Emits, Aims, Sql.target, Sql.keyId]) fun _ => ?_
    exact aims_issueForActiveTenant _

/-- The new pair is for the user that the token's owner is looked up to be. -/
theorem names_reissue {req : RefreshRequest} {row : RefreshTokenRow} {h : List (Event Resp)}
    (hread : ⟨.sql (.getRefreshToken (hashToken cr req.refreshToken)), .ok (some row)⟩ ∈ h)
    {post : List (Event Resp) → Except Failure TokenPair → Prop} (hpost : ∀ h x, post h x) :
    (reissue cr svc row).Along (Monitor.history ((Rpc.refresh req).NameRule cr md)) post h := by
  simp only [reissue, Prog.along_bind, along_query, Prog.along_okOr, Monitor.history_ok,
    Monitor.history_upd, Prog.then_ok, Prog.then_error]
  constructor
  · intro found
    refine ⟨Aims.nameRule (by simp [Aims, Sql.target, Sql.keyId]) _, fun _ => hpost _ _, ?_⟩
    intro user hfound
    subst hfound
    refine Aims.along_user (aims_issueTokens _ _ _) ?_ hpost
    exact ⟨row, List.mem_append_left _ hread, .inr ⟨user, by simp, rfl⟩⟩
  · intro d
    exact ⟨Aims.nameRule (by simp [Aims, Sql.target, Sql.keyId]) _, hpost _ _⟩

theorem names_refresh (req : RefreshRequest) :
    (Rpc.refresh req).NamesFirst cr md (refresh cr svc req) [] := by
  refine namesFirst_read (by simp [Aims, Sql.target, Sql.keyId]) fun found => ?_
  refine namesFirst_okOr fun row hrow => ?_
  subst hrow
  have hwipe : ∀ h : List (Event Resp),
      ⟨.sql (.getRefreshToken (hashToken cr req.refreshToken)), .ok (some row)⟩ ∈ h →
      (Rpc.refresh req).NamesFirst cr md (wipeFamily cr svc row) h := by
    intro h hread
    refine namesFirst_user (v := row.userId) ⟨row, hread, .inl rfl⟩ ?_
    simp [wipeFamily, Prog.Emits, Aims, Sql.target, Sql.keyId]
  have hrest : ∀ pair : TokenPair, (ignore (.rotateRefreshToken (hashToken cr req.refreshToken)
      (hashToken cr pair.refreshToken)) >>= fun _ => (pure pair : Handler TokenPair)).Emits
      (Aims none none) := by
    simp [Prog.Emits, Aims, Sql.target, Sql.keyId]
  cases row.revokedAt with
  | none =>
    simp only [Rpc.NamesFirst, Prog.along_bind, along_sys, Monitor.history_ok, Monitor.history_upd,
      Prog.then_ok, Prog.then_error, Prog.along_failIf, implies_true, true_and]
    intro now
    refine ⟨by simp [Rpc.NameRule], fun _ => names_reissue (by simp) ?_⟩
    intro h x
    cases x with
    | error e => trivial
    | ok pair => exact (hrest pair).along_of (fun h e he => Aims.nameRule he _) h
  | some revokedAt =>
    dsimp only
    split
    · simp only [Rpc.NamesFirst, Prog.along_bind, along_sys, Monitor.history_ok,
        Monitor.history_upd, Prog.then_ok]
      intro now
      refine ⟨by simp [Rpc.NameRule], ?_⟩
      split
      · exact names_reissue (by simp) fun _ _ => trivial
      · exact hwipe _ (by simp)
    · exact hwipe _ (by simp)

theorem names_requestToken {r : Rpc} {email : String} {lifetimeSecs : Int}
    {store : String → Uuid → DateTime → Sql} (failed : Failure) (action : String)
    (hr : ∀ h v, ByEmail h email v → r.Names cr md h v)
    (hstore : ∀ x v t, Aims (some v) none (.sql (store x v t))) :
    r.NamesFirst cr md (requestToken cr svc email lifetimeSecs store failed action) [] := by
  simp only [requestToken, Rpc.NamesFirst, Prog.along_bind, along_attempt, Monitor.history_ok,
    Monitor.history_upd, Prog.then_ok, List.nil_append]
  intro found
  refine ⟨Aims.nameRule (by simp [Aims, Sql.target, Sql.keyId]) _, ?_⟩
  rcases found with e | _ | user
  · trivial
  · trivial
  · refine namesFirst_user (v := user.id) (hr _ _ ⟨user, by simp, rfl⟩) ?_
    refine .bind (by simp [Prog.Emits, Aims]) fun _ => .bind (by simp [Prog.Emits, Aims]) fun _ => ?_
    refine .bind (by simp [Prog.Emits, hstore]) fun _ => ?_
    simp [Prog.Emits, Aims, Sql.target, Sql.keyId]

theorem names_verifyEmail (req : TokenRequest) :
    (Rpc.verifyEmail req).NamesFirst cr md (verifyEmail cr svc req) [] := by
  refine namesFirst_read (by simp [Aims, Sql.target, Sql.keyId]) fun found => ?_
  refine namesFirst_okOr fun uid huid => ?_
  subst huid
  refine namesFirst_user (v := uid) (by simp [Rpc.Names]) ?_
  simp [Prog.Emits, Aims, Sql.target, Sql.keyId]

theorem names_resetPassword (req : ResetPasswordRequest) :
    (Rpc.resetPassword req).NamesFirst cr md (resetPassword cr svc req) [] := by
  refine namesFirst_failIf (namesFirst_read (by simp [Aims, Sql.target, Sql.keyId]) fun found => ?_)
  refine namesFirst_okOr fun uid huid => ?_
  subst huid
  refine namesFirst_user (v := uid) (by simp [Rpc.Names]) ?_
  simp [storePassword, Prog.Emits, Aims, Sql.target, Sql.keyId]

theorem names_exchange (req : ExchangeRequest) :
    (Rpc.exchangeAuthorizationCode req).NamesFirst cr md (exchangeAuthorizationCode cr svc req) [] := by
  refine namesFirst_read (by simp [Aims, Sql.target, Sql.keyId]) fun found => ?_
  refine namesFirst_okOr fun pair hpair => ?_
  subst hpair
  refine namesFirst_user (v := pair.1.userId) ⟨pair, by simp, rfl⟩ ?_
  refine .bind (by simp [Prog.Emits]) fun _ => .bind ?_ fun claimed => ?_
  · refine .bind (by simp [Prog.Emits, Aims, Sql.target, Sql.keyId]) fun reply => ?_
    cases reply <;> trivial
  · refine .bind (by simp [Prog.Emits]) fun _ => .bind (by simp [Prog.Emits]) fun _ => ?_
    refine .bind ?_ fun _ => ?_
    · simp [authenticateClient, Prog.Emits, Aims, Sql.target, Sql.keyId]
    · refine .bind (by simp [Prog.Emits, Aims, Sql.target, Sql.keyId]) fun email => ?_
      refine .bind (by simp [Prog.Emits, Aims, Sql.target, Sql.keyId]) fun tenant => ?_
      refine .bind (by simp [Prog.Emits, Aims, Sql.target, Sql.keyId]) fun member => ?_
      refine .bind (by simp [Prog.Emits]) fun _ => .bind (aims_issueTokens _ _ _) fun _ => ?_
      simp [Prog.Emits, Aims]

theorem names_validateApiKey (req : ValidateApiKeyRequest) :
    (Rpc.validateApiKey req).NamesFirst cr md (validateApiKey cr req) [] := by
  refine namesFirst_read (by simp [Aims, Sql.target, Sql.keyId]) fun found => ?_
  refine namesFirst_okOr fun row hrow => ?_
  subst hrow
  have hkey : ∀ id, some row.id = some id → (Rpc.validateApiKey req).NamesKey cr
      [⟨.sql (.getApiKeyByHash (hashToken cr req.apiKey)), .ok (some row)⟩] id := by
    intro id hid
    cases hid
    exact ⟨row, by simp, rfl⟩
  refine Aims.along (v := none) ?_ (fun _ hw => by cases hw) hkey fun _ _ => trivial
  · refine .bind (by simp [Prog.Emits]) fun _ => .bind ?_ fun _ => ?_
    · unfold refuseIfExpired
      cases row.expiresAt <;> simp [Prog.Emits, Aims]
    · simp [Prog.Emits, Aims, Sql.target, Sql.keyId]

/-- The calls that take the user from a request look it up before they write; the others
may name it. -/
theorem names_handle (r : Rpc) : r.NamesFirst cr md (r.handle cr svc md) [] := by
  have hstatic : (∀ s, r.MayWrite cr md s →
      (∀ v, s.target = some v → ∀ h, r.Names cr md h v) ∧ s.keyId = none) →
      r.NamesFirst cr md (r.handle cr svc md) [] := by
    intro hwrites
    refine (issues_body cr (.rpc svc md r)).along_of ?_ []
    intro h e he s hs
    rw [hs] at he
    rcases he with hquiet | hs
    · exact Aims.nameRule (o := .sql s) (Sql.quiet_aims hquiet) (hs ▸ e.2) s rfl
    · obtain ⟨htarget, hkey⟩ := hwrites s hs
      constructor
      · exact fun v hv => htarget v hv h
      · intro id hid
        rw [hkey] at hid
        cases hid
  cases r
  case login req => exact along_wrap _ (names_login req)
  case loginTotp req => exact along_wrap _ (names_loginTotp req)
  case refresh req => exact along_wrap _ (names_refresh req)
  case requestEmailVerification req =>
    exact along_wrap _ (names_requestToken _ _ (fun _ _ hn => hn) (by
      simp [Aims, Sql.target, Sql.keyId]))
  case requestPasswordReset req =>
    exact along_wrap _ (names_requestToken _ _ (fun _ _ hn => hn) (by
      simp [Aims, Sql.target, Sql.keyId]))
  case verifyEmail req => exact along_wrap _ (names_verifyEmail req)
  case resetPassword req => exact along_wrap _ (names_resetPassword req)
  case exchangeAuthorizationCode req => exact along_wrap _ (names_exchange req)
  case validateApiKey req => exact along_wrap _ (names_validateApiKey req)
  all_goals
    apply hstatic
    intro s hs
    refine ⟨?_, by cases s <;> first | rfl | exact hs.elim⟩
    intro v hv h
    cases s <;> first | exact hs.elim | cases hv
    all_goals first
      | exact ⟨rfl, hs⟩
      | exact ⟨rfl, hs.1⟩
      | exact hs
      | exact hs.2
      | exact ⟨hs.1, hs.2.1⟩

end Handlers

/-! ## Runs -/

def Call.NameRule (cr : Crates) : Call → List (Event Resp) → Event Resp → Prop
  | .rpc _ md r => r.NameRule cr md
  | _ => fun _ e => Aims none none e.1

theorem named_body (cr : Crates) (k : Call) :
    (k.body cr).Along (Monitor.history (k.NameRule cr)) (fun _ _ => True) [] := by
  have hquiet : (∀ s, k.MayWrite cr s → Aims none none (.sql s)) → ∀ o, k.Issues cr o →
      Aims none none o := by
    intro hwrites o ho
    cases o with
    | sql s =>
      rcases ho with hquiet | hs
      · exact Sql.quiet_aims hquiet
      · exact hwrites s hs
    | redis c => trivial
    | sys s => trivial
  cases k with
  | rpc svc md r => exact names_handle r
  | start env =>
    refine (issues_body cr (.start env)).along_of (fun h e he => hquiet ?_ e.1 he) []
    intro s hs
    cases s <;> first | exact hs.elim | simp [Aims, Sql.target, Sql.keyId]
  | profileCreationFailed userId reason =>
    refine (issues_body cr _).along_of (fun h e he => hquiet ?_ e.1 he) []
    intro s hs
    exact hs.elim

/-- An RPC that presents nothing of user `u`'s: not the address, no token, code or key
that `db` has for the user, and it is not made by the user nor, by somebody who may,
about the user. -/
def Rpc.Stranger (cr : Crates) (md : MetadataMap) (db : Db) (u : Uuid) : Rpc → Prop
  | .login req => ∀ x ∈ db.users, x.id = u → x.email ≠ req.email
  | .requestEmailVerification req => ∀ x ∈ db.users, x.id = u → x.email ≠ req.email
  | .requestPasswordReset req => ∀ x ∈ db.users, x.id = u → x.email ≠ req.email
  | .loginTotp req => ∀ now claims, cr.jwtParse now req.mfaToken = some claims →
    cr.parseUuid claims.sub ≠ some u
  | .refresh req => ∀ t ∈ db.refreshTokens, t.userId = u → t.tokenHash ≠ hashToken cr req.refreshToken
  | .logout req => ∀ t ∈ db.refreshTokens, t.userId = u → t.tokenHash ≠ hashToken cr req.refreshToken
  | .verifyEmail req => ∀ t ∈ db.emailVerifications, t.userId = u → t.tokenHash ≠ hashToken cr req.token
  | .resetPassword req => ∀ t ∈ db.passwordResets, t.userId = u → t.tokenHash ≠ hashToken cr req.token
  | .exchangeAuthorizationCode req =>
    ∀ k ∈ db.oauthAuthorizationCodes, k.userId = u → k.codeHash ≠ hashToken cr req.code
  | .validateApiKey req => ∀ k ∈ db.apiKeys, k.userId = u → k.keyHash ≠ hashToken cr req.apiKey
  | .createAuthorizationCode req => cr.parseUuid req.userId ≠ some u
  | .saveConsent req => cr.parseUuid req.userId ≠ some u
  | .deleteUser req => hasPerm md "user:delete" = true → cr.parseUuid req.userId ≠ some u
  | .restoreUser req => hasPerm md "user:delete" = true → cr.parseUuid req.userId ≠ some u
  | r => r.ownAccount = true → callerId cr md ≠ some u

def Call.Stranger (cr : Crates) (db : Db) (u : Uuid) : Call → Prop
  | .rpc _ md r => r.Stranger cr md db u
  | _ => True

section Runs

variable {cr : Crates} {conn : DbRole} {st : State} {ls : List Act} {u : Uuid}

/-- The account has been the same at every point of the run. -/
def AccountKept (cr : Crates) (conn : DbRole) (st : State) (u : Uuid) (ls : List Act) : Prop :=
  ∀ pre, pre <+: ls → SameAccount u st.db (runFrom cr conn st pre).state.db

theorem AccountKept.commit (h : AccountKept cr conn st u ls) {i : Nat} {s : Sql} {r : Reply s}
    (hread : ⟨.sql s, .ok r⟩ ∈ (runFrom cr conn st ls).hist i) :
    ∃ pre c db', SameAccount u st.db (runFrom cr conn st pre).state.db ∧
      s.exec conn c (runFrom cr conn st pre).state.db = .ok (r, db') := by
  obtain ⟨pre, c, hcommit⟩ := commitsAt_mem hread
  obtain ⟨post, hls⟩ := hcommit.split
  exact ⟨pre, c, _, h pre ⟨_, hls.symm⟩, hcommit.exec⟩

/-- A stranger does not find the user by address. -/
theorem AccountKept.byEmail (h : AccountKept cr conn st u ls) {i : Nat} {email : String}
    (hx : ∀ x ∈ st.db.users, x.id = u → x.email ≠ email) :
    ¬ByEmail ((runFrom cr conn st ls).hist i) email u := by
  intro hby
  obtain ⟨x, hread, hid⟩ := hby
  obtain ⟨pre, c, db', hsame, hexec⟩ := h.commit hread
  have hfind : Repo.getUserByEmail email (runFrom cr conn st pre).state.db = some x :=
    congrArg Prod.fst (Except.ok.inj hexec)
  have hmem := List.mem_of_find?_eq_some hfind
  have hemail : x.email = email := by simpa using List.find?_some hfind
  exact hx x ((mem_of_filter_eq hsame.users (by simp [hid])).mp hmem) hid hemail

theorem AccountKept.names (h : AccountKept cr conn st u ls) {i : Nat} {md : MetadataMap} {r : Rpc}
    (hr : r.Stranger cr md st.db u) : ¬r.Names cr md ((runFrom cr conn st ls).hist i) u := by
  intro hn
  cases r
  case login req => exact h.byEmail hr hn
  case requestEmailVerification req => exact h.byEmail hr hn
  case requestPasswordReset req => exact h.byEmail hr hn
  case loginTotp req =>
    obtain ⟨claims, hread, hsub⟩ := hn
    obtain ⟨n, hn⟩ := List.mem_iff_getElem?.mp hread
    obtain ⟨pre, c, post, -, hparse⟩ := drawnAt hn
    exact hr c.now claims hparse hsub
  case refresh req =>
    obtain ⟨row, hread, huser⟩ := hn
    have howner : row.userId = u := by
      rcases huser with howner | ⟨x, hlook, hid⟩
      · exact howner
      · obtain ⟨pre, c, db', -, hexec⟩ := h.commit hlook
        exact (getUserById_id (congrArg Prod.fst (Except.ok.inj hexec))).symm.trans hid
    obtain ⟨pre, c, db', hsame, hexec⟩ := h.commit hread
    obtain ⟨t, hfind, rfl⟩ := Option.map_eq_some_iff.mp (congrArg Prod.fst (Except.ok.inj hexec))
    have howner : t.userId = u := howner
    have hhash : t.tokenHash = hashToken cr req.refreshToken := by
      simpa using List.find?_some hfind
    have hmem := List.mem_of_find?_eq_some hfind
    exact hr t ((mem_of_filter_eq hsame.refreshTokens (by simp [howner])).mp hmem) howner hhash
  case verifyEmail req =>
    obtain ⟨pre, c, db', hsame, hexec⟩ := h.commit hn
    obtain ⟨t, hmem, hhash, howner, -⟩ :=
      consume_some (congrArg Prod.fst (Except.ok.inj hexec) : _ = some u)
    exact hr t ((mem_of_filter_eq hsame.emailVerifications (by simp [howner])).mp hmem) howner hhash
  case resetPassword req =>
    obtain ⟨pre, c, db', hsame, hexec⟩ := h.commit hn
    obtain ⟨t, hmem, hhash, howner, -⟩ :=
      consume_some (congrArg Prod.fst (Except.ok.inj hexec) : _ = some u)
    exact hr t ((mem_of_filter_eq hsame.passwordResets (by simp [howner])).mp hmem) howner hhash
  case exchangeAuthorizationCode req =>
    obtain ⟨found, hread, howner⟩ := hn
    obtain ⟨pre, c, db', hsame, hexec⟩ := h.commit hread
    obtain ⟨k, hfind, rfl⟩ := Option.map_eq_some_iff.mp (congrArg Prod.fst (Except.ok.inj hexec))
    have howner : k.userId = u := howner
    have hhash : k.codeHash = hashToken cr req.code := by simpa using List.find?_some hfind
    have hmem := List.mem_of_find?_eq_some hfind
    exact hr k ((mem_of_filter_eq hsame.codes (by simp [howner])).mp hmem) howner hhash
  case createAuthorizationCode | saveConsent => exact hr hn
  case logout | validateApiKey => cases hn.1
  all_goals exact hr hn.1 hn.2

/-- A key that the call has validated is none of the user's. -/
theorem AccountKept.namesKey (h : AccountKept cr conn st u ls) (hkeys : Keys st.db) {i : Nat}
    {md : MetadataMap} {r : Rpc} {id : String} (hr : r.Stranger cr md st.db u)
    (hn : r.NamesKey cr ((runFrom cr conn st ls).hist i) id) :
    ∀ k ∈ st.db.apiKeys, k.userId = u → k.id ≠ id := by
  intro k hk howner hid
  cases r
  case validateApiKey req =>
    obtain ⟨row, hread, hrow⟩ := hn
    obtain ⟨pre, c, hcommit⟩ := commitsAt_mem hread
    obtain ⟨k', hk', rfl, hhash⟩ := getApiKeyByHash_ok hcommit
    obtain ⟨post, hls⟩ := hcommit.split
    have hsame := h pre ⟨_, hls.symm⟩
    have hkeysPre : Keys (runFrom cr conn st pre).state.db :=
      db_run cr conn (fun hx hdb => keys_exec hx hdb) hkeys pre
    have hpre := (mem_of_filter_eq hsame.apiKeys (by simp [howner])).mpr hk
    obtain rfl := hkeysPre.apiKeysId.eq_of_mem hpre hk' (hid.trans hrow.symm)
    exact hr k hk howner hhash
  all_goals exact hn

/-- The hashes in what a stranger writes are not the user's. -/
theorem Rpc.Stranger.spares {md : MetadataMap} {svc : AuthSvc} {r : Rpc} {db : Db}
    (hr : r.Stranger cr md st.db u) (hsame : SameAccount u st.db db) {s : Sql}
    (hs : (Call.rpc svc md r).Issues cr (.sql s)) (htarget : s.target ≠ some u)
    (hkey : ∀ id, s.keyId = some id → ∀ k ∈ st.db.apiKeys, k.userId = u → k.id ≠ id) :
    s.Spares u db := by
  refine ⟨htarget, ?_⟩
  cases s <;> try exact trivial
  case touchApiKey id =>
    intro k hk howner
    exact hkey id rfl k ((mem_of_filter_eq hsame.apiKeys (by simp [howner])).mp hk) howner
  all_goals
    rcases hs with hquiet | hs
    · cases hquiet
  case revokeRefreshToken hash =>
    cases r <;> try exact hs.elim
    case logout req =>
      intro t ht howner
      rw [show hash = _ from hs]
      exact hr t ((mem_of_filter_eq hsame.refreshTokens (by simp [howner])).mp ht) howner
  case rotateRefreshToken hash replacedBy =>
    cases r <;> try exact hs.elim
    case refresh req =>
      intro t ht howner
      rw [show hash = _ from hs]
      exact hr t ((mem_of_filter_eq hsame.refreshTokens (by simp [howner])).mp ht) howner
  case consumeEmailVerification hash =>
    cases r <;> try exact hs.elim
    case verifyEmail req =>
      intro t ht howner
      rw [show hash = _ from hs]
      exact hr t ((mem_of_filter_eq hsame.emailVerifications (by simp [howner])).mp ht) howner
  case consumePasswordReset hash =>
    cases r <;> try exact hs.elim
    case resetPassword req =>
      intro t ht howner
      rw [show hash = _ from hs]
      exact hr t ((mem_of_filter_eq hsame.passwordResets (by simp [howner])).mp ht) howner
  case claimAuthorizationCode hash =>
    cases r <;> try exact hs.elim
    case exchangeAuthorizationCode req =>
      intro k hk howner
      rw [show hash = _ from hs]
      exact hr k ((mem_of_filter_eq hsame.codes (by simp [howner])).mp hk) howner

/-- What a stranger issues spares the user. -/
theorem AccountKept.spares (h : AccountKept cr conn st u ls) (hkeys : Keys st.db)
    (hls : ∀ k, .start k ∈ ls → k.Stranger cr st.db u) {i : Nat} {s : Sql} (c : Choice) (x : Reply s)
    (hp : (runFrom cr conn st ls).pending i = some (.sql s)) :
    s.Spares u (runFrom cr conn st ls).state.db := by
  have hsame := h ls (List.prefix_refl ls)
  obtain ⟨k, hcall, hissues⟩ := pending_issues hp c
  have ht : Pool.Tracks (fun k => Monitor.history (Call.NameRule cr k)) (fun _ _ _ => True)
      (fun _ => []) (runFrom cr conn st ls) := Pool.tracks_run (named_body cr) st ls
  obtain ⟨k', hcall', hrule⟩ := ht.pending_history hp (.ok x)
  obtain rfl := Option.some.inj (hcall.symm.trans hcall')
  have hk := hls k (Pool.start_of_callOf hcall)
  cases k
  case rpc svc md r =>
    obtain ⟨htarget, hkey⟩ := hrule s rfl
    apply Rpc.Stranger.spares hk hsame hissues
    · intro hu
      exact h.names hk (htarget u hu)
    · intro id hid
      exact h.namesKey hkeys hk (hkey id hid)
  -- A start and the saga name nobody, and present no credential.
  all_goals
    constructor
    · intro hu
      cases hrule.1 u hu
    · cases s <;> try exact trivial
      all_goals
        rcases hissues with hquiet | hs
        · cases hquiet
        · exact hs.elim

/-- An account is closed to strangers: a run of calls that present nothing of the user's
leaves every row of the account as it is, in whatever order they take their steps. -/
theorem account_closed (hu : ∃ x ∈ st.db.users, x.id = u) (hkeys : Keys st.db)
    (hls : ∀ k, .start k ∈ ls → k.Stranger cr st.db u) :
    SameAccount u st.db (runFrom cr conn st ls).state.db := by
  suffices hall : AccountKept cr conn st u ls from hall ls (List.prefix_refl ls)
  induction ls using List.reverseRecOn with
  | nil =>
    intro pre hpre
    obtain rfl := List.prefix_nil.mp hpre
    exact .refl _ _
  | append_singleton ls l ih =>
    have hbefore : ∀ k, .start k ∈ ls → k.Stranger cr st.db u := fun k hk =>
      hls k (List.mem_append_left _ hk)
    have hkept := ih hbefore
    intro pre hpre
    rcases List.prefix_concat_iff.mp hpre with rfl | hpre
    · have hsame := hkept ls (List.prefix_refl ls)
      refine hsame.trans ?_
      rw [runFrom_append, Pool.run_cons, Pool.run_nil]
      rcases db_next cr conn (Call.body cr) (runFrom cr conn st ls) l with
        hdb | ⟨i, c, s, x, db', -, hp, hx, -, hnew⟩
      · rw [hdb]
        exact .refl _ _
      · rw [hnew]
        obtain ⟨row, hrow, hid⟩ := hu
        refine sameAccount_exec ⟨row, ?_, hid⟩ (hkept.spares hkeys hbefore c x hp) hx
        exact (mem_of_filter_eq hsame.users (by simp [hid])).mpr hrow
    · exact hkept pre hpre

end Runs

namespace Sample

/-- The service once user 10 has accountState. -/
def accountState : State := (runFrom crates .superuser ⟨migrated, []⟩ registration).state

/-- Somebody tries another address and a token that is not the user's. -/
def strangers : List Act :=
  alone 0 (.rpc svc [] (.login ⟨"v@iam.local", "password"⟩)) (List.replicate 2 (choice 0 0 "")) ++
  alone 1 (.rpc svc [] (.refresh ⟨"stolen"⟩)) [choice 0 0 ""] ++
  alone 2 (.rpc svc (metadata 11 1 "") (.changePassword ⟨"old", "password"⟩)) [choice 0 0 ""]

theorem account_closed_strangers : SameAccount 10 accountState.db
    (runFrom crates .superuser accountState strangers).state.db := by
  have hkeys : Keys accountState.db :=
    db_run crates .superuser (fun hx hdb => keys_exec hx hdb) keys_migrated registration
  have husers : accountState.db.users = [⟨10, "u@iam.local", "password", "active", false, 0, none,
      none, false, none⟩] := by decide
  have htokens : accountState.db.refreshTokens = [] := by decide
  have huser : ∃ x ∈ accountState.db.users, x.id = 10 := by
    rw [husers]
    exact ⟨_, List.mem_singleton_self _, rfl⟩
  apply account_closed huser hkeys
  intro k hk
  simp only [strangers, alone, List.mem_append, List.mem_cons, List.mem_map, reduceCtorEq,
    and_false, exists_false, or_false, Label.start.injEq] at hk
  rcases hk with (rfl | rfl) | rfl
  · intro x hx _
    rw [husers, List.mem_singleton] at hx
    subst hx
    decide
  · intro t ht
    rw [htokens] at ht
    cases ht
  · intro _
    decide

end Sample

end IamAuth
