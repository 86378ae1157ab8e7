import IamAuth.Integrity
import IamAuth.Relational.Evolution
import IamAuth.Writes

/-!
# What is never taken back

Logs, tenants, projects and clients are only added to. As long as nobody deletes a user
for good, the credentials of the user stay, and each can only be used up or revoked.
-/

set_option autoImplicit false

namespace IamAuth

open Interleave Relational

/-- A user later on. The address never changes, and stays verified. -/
structure UserRow.Later (x x' : UserRow) : Prop where
  id : x'.id = x.id
  email : x'.email = x.email
  status : x'.status = x.status
  verified : x.emailVerified = true → x'.emailVerified = true

/-- A refresh token later on. What it is bound to never changes, and a revoked token does
not change at all. -/
structure RefreshToken.Later (t t' : RefreshToken) : Prop where
  tokenHash : t'.tokenHash = t.tokenHash
  userId : t'.userId = t.userId
  tenantId : t'.tenantId = t.tenantId
  projectId : t'.projectId = t.projectId
  expiresAt : t'.expiresAt = t.expiresAt
  revoked : t.revokedAt ≠ none → t' = t

structure OneTimeToken.Later (t t' : OneTimeToken) : Prop where
  tokenHash : t'.tokenHash = t.tokenHash
  userId : t'.userId = t.userId
  expiresAt : t'.expiresAt = t.expiresAt
  consumed : t.consumedAt ≠ none → t' = t

structure ApiKeyRecord.Later (k k' : ApiKeyRecord) : Prop where
  id : k'.id = k.id
  userId : k'.userId = k.userId
  keyHash : k'.keyHash = k.keyHash
  scopes : k'.scopes = k.scopes
  expiresAt : k'.expiresAt = k.expiresAt
  tenantId : k'.tenantId = k.tenantId
  projectId : k'.projectId = k.projectId
  name : k'.name = k.name
  createdAt : k'.createdAt = k.createdAt
  revoked : k.revokedAt ≠ none → k'.revokedAt = k.revokedAt

/-- An authorization code later on. -/
structure AuthorizationCode.Later (k k' : AuthorizationCode) : Prop where
  rest : k' = { k with used := k'.used }
  used : k.used = true → k'.used = true

theorem UserRow.Later.refl (x : UserRow) : x.Later x := ⟨rfl, rfl, rfl, fun h => h⟩

theorem UserRow.Later.trans (x y z : UserRow) (h : x.Later y) (h' : y.Later z) : x.Later z where
  id := h'.id.trans h.id
  email := h'.email.trans h.email
  status := h'.status.trans h.status
  verified hx := h'.verified (h.verified hx)

theorem RefreshToken.Later.refl (t : RefreshToken) : t.Later t :=
  ⟨rfl, rfl, rfl, rfl, rfl, fun _ => rfl⟩

theorem RefreshToken.Later.trans (t₁ t₂ t₃ : RefreshToken) (h : t₁.Later t₂) (h' : t₂.Later t₃) :
    t₁.Later t₃ where
  tokenHash := h'.tokenHash.trans h.tokenHash
  userId := h'.userId.trans h.userId
  tenantId := h'.tenantId.trans h.tenantId
  projectId := h'.projectId.trans h.projectId
  expiresAt := h'.expiresAt.trans h.expiresAt
  revoked hr := by
    have hsame := h.revoked hr
    rw [hsame] at h'
    exact h'.revoked hr

theorem OneTimeToken.Later.refl (t : OneTimeToken) : t.Later t := ⟨rfl, rfl, rfl, fun _ => rfl⟩

theorem OneTimeToken.Later.trans (t₁ t₂ t₃ : OneTimeToken) (h : t₁.Later t₂) (h' : t₂.Later t₃) :
    t₁.Later t₃ where
  tokenHash := h'.tokenHash.trans h.tokenHash
  userId := h'.userId.trans h.userId
  expiresAt := h'.expiresAt.trans h.expiresAt
  consumed hc := by
    have hsame := h.consumed hc
    rw [hsame] at h'
    exact h'.consumed hc

theorem ApiKeyRecord.Later.refl (k : ApiKeyRecord) : k.Later k :=
  ⟨rfl, rfl, rfl, rfl, rfl, rfl, rfl, rfl, rfl, fun _ => rfl⟩

theorem ApiKeyRecord.Later.trans (k₁ k₂ k₃ : ApiKeyRecord) (h : k₁.Later k₂) (h' : k₂.Later k₃) :
    k₁.Later k₃ where
  id := h'.id.trans h.id
  userId := h'.userId.trans h.userId
  keyHash := h'.keyHash.trans h.keyHash
  scopes := h'.scopes.trans h.scopes
  expiresAt := h'.expiresAt.trans h.expiresAt
  tenantId := h'.tenantId.trans h.tenantId
  projectId := h'.projectId.trans h.projectId
  name := h'.name.trans h.name
  createdAt := h'.createdAt.trans h.createdAt
  revoked hr := by
    have hsame := h.revoked hr
    rw [← hsame] at hr
    exact (h'.revoked hr).trans hsame

theorem AuthorizationCode.Later.refl (k : AuthorizationCode) : k.Later k := ⟨rfl, fun h => h⟩

theorem AuthorizationCode.Later.trans (k₁ k₂ k₃ : AuthorizationCode) (h : k₁.Later k₂)
    (h' : k₂.Later k₃) : k₁.Later k₃ where
  rest := by
    have hrest := h'.rest
    rw [h.rest] at hrest
    exact hrest
  used hu := h'.used (h.used hu)

/-! ## One statement -/

/-- The statement deletes the user for good. -/
def Sql.Erases (u : Uuid) (s : Sql) : Prop := ∃ e p, s = .deleteUserEventSoft u true e p

section Statements

variable {u : Uuid} {conn : DbRole} {c : Choice} {s : Sql} {r : Reply s} {db db' : Db}

theorem users_updateUser (v : Uuid) {f : UserRow → UserRow} (hf : ∀ x : UserRow, x.Later (f x))
    (db : Db) :
    Evolves (fun x => x.id = u) UserRow.Later db.users (Repo.updateUser v f db).users :=
  Evolves.updateWhere UserRow.Later.refl (fun x _ => hf x) db.users

theorem users_insertUser {v : Uuid} {email hash : String} (h : Repo.insertUser v email hash db = .ok db') :
    Evolves (fun x => x.id = u) UserRow.Later db.users db'.users := by
  unfold Repo.insertUser at h
  split at h <;> cases h
  exact .insert UserRow.Later.refl _ _

theorem users_later (hs : ¬s.Erases u) (h : s.exec conn c db = .ok (r, db')) :
    Evolves (fun x => x.id = u) UserRow.Later db.users db'.users := by
  by_cases ht : Table.users ∈ s.writes
  case neg =>
    rw [(Sql.exec_frame h).users ht]
    exact .refl UserRow.Later.refl _
  cases s <;> simp [Sql.writes] at ht
  case createUserWithRole email hash role =>
    obtain ⟨db₁, -, h₁, h₂⟩ := createUserWithRole_ok h
    rw [(frame_insertUserRoles h₂).users (by simp)]
    exact users_insertUser h₁
  case createUserWithRoleEvent id email hash role eventType payload =>
    obtain ⟨db₁, db₂, h₁, h₂, h₃⟩ := createUserWithRoleEvent_ok h
    rw [(frame_insertOutbox h₃).users (by simp), (frame_insertUserRoles h₂).users (by simp)]
    exact users_insertUser h₁
  case deleteUserEventSoft v hard eventType payload =>
    rw [(frame_insertOutbox (deleteUserEventSoft_ok h)).users (by simp)]
    cases hard with
    | true =>
      apply Evolves.deleteWhere UserRow.Later.refl
      intro x hx
      have hv : v ≠ u := by
        rintro rfl
        exact hs ⟨_, _, rfl⟩
      simp [hx, Ne.symm hv]
    | false =>
      apply Evolves.updateWhere UserRow.Later.refl
      intro x _
      exact ⟨rfl, rfl, rfl, fun h => h⟩
  case restoreUserEvent v eventType payload =>
    rw [(frame_insertOutbox (restoreUserEvent_ok h)).users (by simp)]
    apply users_updateUser
    intro x
    exact ⟨rfl, rfl, rfl, fun h => h⟩
  case incrementLoginFailure v =>
    simp only [Sql.exec, Repo.incrementLoginFailure] at h
    repeat' split at h
    all_goals cases h
    apply users_updateUser
    intro x
    exact ⟨rfl, rfl, rfl, fun h => h⟩
  case markEmailVerified v =>
    cases h
    apply users_updateUser
    intro x
    exact ⟨rfl, rfl, rfl, fun _ => rfl⟩
  all_goals
    cases h
    apply users_updateUser
    intro x
    exact ⟨rfl, rfl, rfl, fun h => h⟩

theorem tokens_revokeAll (c : Choice) (v : Uuid) (db : Db) :
    Evolves (fun t => t.userId = u) RefreshToken.Later db.refreshTokens
      (Repo.revokeAllUserRefreshTokens c v db).refreshTokens := by
  apply Evolves.updateWhere RefreshToken.Later.refl
  intro t ht
  refine ⟨rfl, rfl, rfl, rfl, rfl, fun hr => ?_⟩
  simp only [Bool.and_eq_true, Option.isNone_iff_eq_none] at ht
  exact absurd ht.2 hr

theorem refreshTokens_later (hs : ¬s.Erases u) (h : s.exec conn c db = .ok (r, db')) :
    Evolves (fun t => t.userId = u) RefreshToken.Later db.refreshTokens db'.refreshTokens := by
  by_cases ht : Table.refreshTokens ∈ s.writes
  case neg =>
    rw [(Sql.exec_frame h).refreshTokens ht]
    exact .refl RefreshToken.Later.refl _
  cases s <;> simp [Sql.writes] at ht
  case deleteUserEventSoft v hard eventType payload =>
    rw [(frame_insertOutbox (deleteUserEventSoft_ok h)).refreshTokens (by simp)]
    cases hard with
    | true =>
      apply Evolves.deleteWhere RefreshToken.Later.refl
      intro t ht
      have hv : v ≠ u := by
        rintro rfl
        exact hs ⟨_, _, rfl⟩
      simp [ht, Ne.symm hv]
    | false => exact tokens_revokeAll c v _
  case revokeAllUserRefreshTokens v =>
    cases h
    exact tokens_revokeAll c v db
  case createRefreshToken v hash expires tenant project =>
    simp only [Sql.exec, Repo.createRefreshToken] at h
    repeat' split at h
    all_goals cases h
    exact .insert RefreshToken.Later.refl _ _
  all_goals
    cases h
    apply Evolves.updateWhere RefreshToken.Later.refl
    intro t ht
    refine ⟨rfl, rfl, rfl, rfl, rfl, fun hr => ?_⟩
    simp only [Bool.and_eq_true, Option.isNone_iff_eq_none] at ht
    exact absurd ht.2 hr

theorem oneTime_insert {hash : String} {v : Uuid} {expires : DateTime}
    {table table' : List OneTimeToken}
    (h : Repo.insertOneTimeToken hash v expires db table = .ok table') :
    Evolves (fun t => t.userId = u) OneTimeToken.Later table table' := by
  unfold Repo.insertOneTimeToken at h
  repeat' split at h
  all_goals cases h
  exact .insert OneTimeToken.Later.refl _ _

theorem oneTime_consume (c : Choice) (hash : String) (table : List OneTimeToken) :
    Evolves (fun t => t.userId = u) OneTimeToken.Later table
      (Repo.consumeOneTimeToken c hash table).2 := by
  apply Evolves.updateWhere OneTimeToken.Later.refl
  intro t ht
  refine ⟨rfl, rfl, rfl, fun hc => ?_⟩
  simp only [Repo.consumable, Bool.and_eq_true, Option.isNone_iff_eq_none] at ht
  exact absurd ht.1.2 hc

theorem oneTime_delete {v : Uuid} (hv : v ≠ u) (table : List OneTimeToken) :
    Evolves (fun t => t.userId = u) OneTimeToken.Later table
      (deleteWhere (fun t => t.userId == v) table) := by
  apply Evolves.deleteWhere OneTimeToken.Later.refl
  intro t ht
  simp [ht, Ne.symm hv]

theorem emailVerifications_later (hs : ¬s.Erases u) (h : s.exec conn c db = .ok (r, db')) :
    Evolves (fun t => t.userId = u) OneTimeToken.Later db.emailVerifications
      db'.emailVerifications := by
  by_cases ht : Table.emailVerifications ∈ s.writes
  case neg =>
    rw [(Sql.exec_frame h).emailVerifications ht]
    exact .refl OneTimeToken.Later.refl _
  cases s <;> simp [Sql.writes] at ht
  case deleteUserEventSoft v hard eventType payload =>
    rw [(frame_insertOutbox (deleteUserEventSoft_ok h)).emailVerifications (by simp)]
    cases hard with
    | true =>
      apply oneTime_delete
      rintro rfl
      exact hs ⟨_, _, rfl⟩
    | false => exact .refl OneTimeToken.Later.refl _
  case createEmailVerification hash v expires =>
    simp only [Sql.exec, Repo.createEmailVerification] at h
    split at h <;> cases h
    next h' => exact oneTime_insert h'
  case consumeEmailVerification hash =>
    cases h
    exact oneTime_consume c hash _

theorem passwordResets_later (hs : ¬s.Erases u) (h : s.exec conn c db = .ok (r, db')) :
    Evolves (fun t => t.userId = u) OneTimeToken.Later db.passwordResets db'.passwordResets := by
  by_cases ht : Table.passwordResets ∈ s.writes
  case neg =>
    rw [(Sql.exec_frame h).passwordResets ht]
    exact .refl OneTimeToken.Later.refl _
  cases s <;> simp [Sql.writes] at ht
  case deleteUserEventSoft v hard eventType payload =>
    rw [(frame_insertOutbox (deleteUserEventSoft_ok h)).passwordResets (by simp)]
    cases hard with
    | true =>
      apply oneTime_delete
      rintro rfl
      exact hs ⟨_, _, rfl⟩
    | false => exact .refl OneTimeToken.Later.refl _
  case createPasswordReset hash v expires =>
    simp only [Sql.exec, Repo.createPasswordReset] at h
    split at h <;> cases h
    next h' => exact oneTime_insert h'
  case consumePasswordReset hash =>
    cases h
    exact oneTime_consume c hash _

theorem apiKeys_later (hs : ¬s.Erases u) (h : s.exec conn c db = .ok (r, db')) :
    Evolves (fun k => k.userId = u) ApiKeyRecord.Later db.apiKeys db'.apiKeys := by
  by_cases ht : Table.apiKeys ∈ s.writes
  case neg =>
    rw [(Sql.exec_frame h).apiKeys ht]
    exact .refl ApiKeyRecord.Later.refl _
  cases s <;> simp [Sql.writes] at ht
  case deleteUserEventSoft v hard eventType payload =>
    rw [(frame_insertOutbox (deleteUserEventSoft_ok h)).apiKeys (by simp)]
    cases hard with
    | true =>
      apply Evolves.deleteWhere ApiKeyRecord.Later.refl
      intro k hk
      have hv : v ≠ u := by
        rintro rfl
        exact hs ⟨_, _, rfl⟩
      simp [hk, Ne.symm hv]
    | false => exact .refl ApiKeyRecord.Later.refl _
  case createApiKey id v hash name scopes expires tenant project =>
    simp only [Sql.exec, Repo.createApiKey] at h
    repeat' split at h
    all_goals cases h
    exact .insert ApiKeyRecord.Later.refl _ _
  case revokeApiKey id v =>
    cases h
    apply Evolves.updateWhere ApiKeyRecord.Later.refl
    intro k hk
    refine ⟨rfl, rfl, rfl, rfl, rfl, rfl, rfl, rfl, rfl, fun hr => ?_⟩
    simp only [Bool.and_eq_true, Option.isNone_iff_eq_none] at hk
    exact absurd hk.2 hr
  case touchApiKey id =>
    cases h
    apply Evolves.updateWhere ApiKeyRecord.Later.refl
    intro k hk
    exact ⟨rfl, rfl, rfl, rfl, rfl, rfl, rfl, rfl, rfl, fun _ => rfl⟩

theorem outbox_insertOutbox {id : Uuid} {eventType : String} {payload : EventPayload}
    (h : Repo.insertOutbox c id eventType payload db = .ok db') : db.outbox <+: db'.outbox := by
  unfold Repo.insertOutbox at h
  split at h <;> cases h
  exact List.prefix_append _ _

theorem outbox_grows (h : s.exec conn c db = .ok (r, db')) : db.outbox <+: db'.outbox := by
  by_cases ht : Table.outbox ∈ s.writes
  case neg => rw [(Sql.exec_frame h).outbox ht]
  cases s <;> simp [Sql.writes] at ht
  case createUserWithRoleEvent id email hash role eventType payload =>
    obtain ⟨db₁, db₂, h₁, h₂, h₃⟩ := createUserWithRoleEvent_ok h
    rw [← (frame_insertUser h₁).outbox (by simp), ← (frame_insertUserRoles h₂).outbox (by simp)]
    exact outbox_insertOutbox h₃
  case deleteUserEventSoft v hard eventType payload =>
    have hgrows := outbox_insertOutbox (deleteUserEventSoft_ok h)
    cases hard with
    | true => exact hgrows
    | false => exact hgrows
  case restoreUserEvent v eventType payload =>
    have hgrows := outbox_insertOutbox (restoreUserEvent_ok h)
    exact hgrows

theorem auditEvents_grows (h : s.exec conn c db = .ok (r, db')) :
    db.auditEvents <+: db'.auditEvents := by
  by_cases ht : Table.auditEvents ∈ s.writes
  case neg => rw [(Sql.exec_frame h).auditEvents ht]
  cases s <;> simp [Sql.writes] at ht
  case insertAudit =>
    cases h
    exact List.prefix_append _ _

theorem revokedTokens_grows (h : s.exec conn c db = .ok (r, db')) :
    db.revokedTokens <+: db'.revokedTokens := by
  by_cases ht : Table.revokedTokens ∈ s.writes
  case neg => rw [(Sql.exec_frame h).revokedTokens ht]
  cases s <;> simp [Sql.writes] at ht
  case revokeAccessJti =>
    cases h
    unfold Repo.revokeAccessJti
    split
    · exact List.prefix_refl _
    · exact List.prefix_append _ _

theorem tenants_grows (h : s.exec conn c db = .ok (r, db')) : db.tenants <+: db'.tenants := by
  by_cases ht : Table.tenants ∈ s.writes
  case neg => rw [(Sql.exec_frame h).tenants ht]
  cases s <;> simp [Sql.writes] at ht
  case createTenantWithAdmin slug name creator =>
    obtain ⟨db₁, db₂, -, h₁, h₂, h₃⟩ := createTenantWithAdmin_ok h
    rw [(frame_insertUserRoles h₃).tenants (by simp), (frame_createMembership h₂).tenants (by simp)]
    rw [insertTenant_ok h₁]
    exact List.prefix_append _ _

theorem projects_grows (h : s.exec conn c db = .ok (r, db')) : db.projects <+: db'.projects := by
  by_cases ht : Table.projects ∈ s.writes
  case neg => rw [(Sql.exec_frame h).projects ht]
  cases s <;> simp [Sql.writes] at ht
  case createProject tenant slug name =>
    simp only [Sql.exec, Repo.createProject] at h
    repeat' split at h
    all_goals cases h
    exact List.prefix_append _ _

theorem oauthClients_insert {k : OauthClient} {u : Unit} (h : Repo.insertClient k db = .ok (u, db')) :
    db.oauthClients <+: db'.oauthClients := by
  unfold Repo.insertClient at h
  repeat' split at h
  all_goals cases h
  exact List.prefix_append _ _

theorem oauthClients_grows (h : s.exec conn c db = .ok (r, db')) :
    db.oauthClients <+: db'.oauthClients := by
  by_cases ht : Table.oauthClients ∈ s.writes
  case neg => rw [(Sql.exec_frame h).oauthClients ht]
  cases s <;> simp [Sql.writes] at ht
  case insertClient k => exact oauthClients_insert h
  case insertConsoleClient k =>
    simp only [Sql.exec, Repo.insertConsoleClient] at h
    split at h
    · cases h
      exact List.prefix_refl _
    · exact oauthClients_insert h

theorem codes_later (h : s.exec conn c db = .ok (r, db')) :
    Evolves (fun _ => True) AuthorizationCode.Later db.oauthAuthorizationCodes
      db'.oauthAuthorizationCodes := by
  by_cases ht : Table.oauthAuthorizationCodes ∈ s.writes
  case neg =>
    rw [(Sql.exec_frame h).oauthAuthorizationCodes ht]
    exact .refl AuthorizationCode.Later.refl _
  cases s <;> simp [Sql.writes] at ht
  case insertAuthorizationCode hash client v uri scope challenge method nonce =>
    simp only [Sql.exec, Repo.insertAuthorizationCode] at h
    repeat' split at h
    all_goals cases h
    exact .insert AuthorizationCode.Later.refl _ _
  case claimAuthorizationCode hash =>
    cases h
    apply Evolves.updateWhere AuthorizationCode.Later.refl
    intro k _
    exact ⟨rfl, fun _ => rfl⟩

end Statements

/-! ## Runs -/

/-- The tables that are only added to: what was in them is still there, in the same order.
A code that was used stays used. -/
structure Grows (db db' : Db) : Prop where
  auditEvents : db.auditEvents <+: db'.auditEvents
  outbox : db.outbox <+: db'.outbox
  revokedTokens : db.revokedTokens <+: db'.revokedTokens
  tenants : db.tenants <+: db'.tenants
  projects : db.projects <+: db'.projects
  oauthClients : db.oauthClients <+: db'.oauthClients
  codes : Evolves (fun _ => True) AuthorizationCode.Later db.oauthAuthorizationCodes
    db'.oauthAuthorizationCodes
  permissions : db'.permissions = db.permissions

/-- The user and what the user can sign in with. -/
structure CredentialsKept (u : Uuid) (db db' : Db) : Prop where
  users : Evolves (fun x => x.id = u) UserRow.Later db.users db'.users
  refreshTokens : Evolves (fun t => t.userId = u) RefreshToken.Later db.refreshTokens
    db'.refreshTokens
  emailVerifications : Evolves (fun t => t.userId = u) OneTimeToken.Later db.emailVerifications
    db'.emailVerifications
  passwordResets : Evolves (fun t => t.userId = u) OneTimeToken.Later db.passwordResets
    db'.passwordResets
  apiKeys : Evolves (fun k => k.userId = u) ApiKeyRecord.Later db.apiKeys db'.apiKeys

/-- The call asks for the user to be deleted for good, and may. -/
def Call.Erases (cr : Crates) (u : Uuid) : Call → Prop
  | .rpc _ md (.deleteUser req) =>
    hasPerm md "user:delete" = true ∧ cr.parseUuid req.userId = some u ∧ req.hard = true
  | _ => False

section Runs

variable {u : Uuid} {db db₁ db₂ : Db}

theorem Grows.refl (db : Db) : Grows db db :=
  ⟨List.prefix_refl _, List.prefix_refl _, List.prefix_refl _, List.prefix_refl _,
    List.prefix_refl _, List.prefix_refl _, .refl AuthorizationCode.Later.refl _, rfl⟩

theorem Grows.trans (h : Grows db db₁) (h' : Grows db₁ db₂) : Grows db db₂ where
  auditEvents := h.auditEvents.trans h'.auditEvents
  outbox := h.outbox.trans h'.outbox
  revokedTokens := h.revokedTokens.trans h'.revokedTokens
  tenants := h.tenants.trans h'.tenants
  projects := h.projects.trans h'.projects
  oauthClients := h.oauthClients.trans h'.oauthClients
  codes := h.codes.trans AuthorizationCode.Later.trans (fun _ _ _ _ => trivial) h'.codes
  permissions := h'.permissions.trans h.permissions

theorem CredentialsKept.refl (u : Uuid) (db : Db) : CredentialsKept u db db :=
  ⟨.refl UserRow.Later.refl _, .refl RefreshToken.Later.refl _, .refl OneTimeToken.Later.refl _,
    .refl OneTimeToken.Later.refl _, .refl ApiKeyRecord.Later.refl _⟩

theorem CredentialsKept.trans (h : CredentialsKept u db db₁) (h' : CredentialsKept u db₁ db₂) :
    CredentialsKept u db db₂ where
  users := h.users.trans UserRow.Later.trans (fun _ _ hl hu => hl.id.trans hu) h'.users
  refreshTokens := h.refreshTokens.trans RefreshToken.Later.trans
    (fun _ _ hl hu => hl.userId.trans hu) h'.refreshTokens
  emailVerifications := h.emailVerifications.trans OneTimeToken.Later.trans
    (fun _ _ hl hu => hl.userId.trans hu) h'.emailVerifications
  passwordResets := h.passwordResets.trans OneTimeToken.Later.trans
    (fun _ _ hl hu => hl.userId.trans hu) h'.passwordResets
  apiKeys := h.apiKeys.trans ApiKeyRecord.Later.trans (fun _ _ hl hu => hl.userId.trans hu) h'.apiKeys

theorem grows_exec {conn : DbRole} {c : Choice} {s : Sql} {r : Reply s} {db' : Db}
    (h : s.exec conn c db = .ok (r, db')) : Grows db db' :=
  ⟨auditEvents_grows h, outbox_grows h, revokedTokens_grows h, tenants_grows h, projects_grows h,
    oauthClients_grows h, codes_later h, (Sql.exec_frame h).permissions⟩

theorem credentialsKept_exec {conn : DbRole} {c : Choice} {s : Sql} {r : Reply s} {db' : Db}
    (hs : ¬s.Erases u) (h : s.exec conn c db = .ok (r, db')) : CredentialsKept u db db' :=
  ⟨users_later hs h, refreshTokens_later hs h, emailVerifications_later hs h,
    passwordResets_later hs h, apiKeys_later hs h⟩

/-- Only a call that may delete the user for good does. -/
theorem Call.erases_of_issues {cr : Crates} {k : Call} {s : Sql} (hk : k.Issues cr (.sql s))
    (hs : s.Erases u) : k.Erases cr u := by
  obtain ⟨e, p, rfl⟩ := hs
  rcases hk with hquiet | hs
  · cases hquiet
  · cases k with
    | rpc svc md r =>
      cases r <;> try exact hs.elim
      case deleteUser req => exact ⟨hs.1, hs.2.1, hs.2.2.symm⟩
    | start env => exact hs.elim
    | profileCreationFailed userId reason => exact hs.elim

variable {cr : Crates} {conn : DbRole} {st : State} {ls ls' : List Act}

/-- What is recorded stays recorded: from any point of any run to any later one. -/
theorem grows_run (cr : Crates) (conn : DbRole) (st : State) (ls ls' : List Act) :
    Grows (runFrom cr conn st ls).state.db (runFrom cr conn st (ls ++ ls')).state.db := by
  rw [runFrom_append]
  exact db_run cr conn (I := fun db => Grows (runFrom cr conn st ls).state.db db)
    (fun hx hdb => hdb.trans (grows_exec hx)) (.refl _) ls'

/-- Unless the user is deleted for good, every credential of the user is still there at any
later point, bound to the same things, and what was used up or revoked stays so. -/
theorem credentials_run (hls : ∀ k, .start k ∈ ls ++ ls' → ¬k.Erases cr u) :
    CredentialsKept u (runFrom cr conn st ls).state.db (runFrom cr conn st (ls ++ ls')).state.db := by
  induction ls' using List.reverseRecOn with
  | nil =>
    rw [List.append_nil]
    exact .refl _ _
  | append_singleton ls' l ih =>
    rw [← List.append_assoc] at hls ⊢
    refine (ih fun k hk => hls k (List.mem_append_left _ hk)).trans ?_
    rw [runFrom_append cr conn st (ls ++ ls'), Pool.run_cons, Pool.run_nil]
    rcases db_next cr conn (Call.body cr) (runFrom cr conn st (ls ++ ls')) l with
      hdb | ⟨i, c, s, x, db', -, hp, hx, -, hnew⟩
    · rw [hdb]
      exact .refl _ _
    · rw [hnew]
      apply credentialsKept_exec ?_ hx
      intro hs
      obtain ⟨k, hcall, hissues⟩ := pending_issues hp c
      exact hls k (List.mem_append_left _ (Pool.start_of_callOf hcall))
        (Call.erases_of_issues hissues hs)

end Runs

namespace Sample

/-- The user logs in and out again. -/
def inAndOut : List Act :=
  alone 1 (.rpc svc [] (.login ⟨"u@iam.local", "password"⟩)) (List.replicate 7 (choice 0 0 "r0")) ++
  alone 2 (.rpc svc [] (.logout ⟨"r0", ""⟩)) [choice 5 0 ""]

theorem credentials_run_inAndOut : CredentialsKept 10
    (runFrom crates .superuser ⟨migrated, []⟩ registration).state.db
    (runFrom crates .superuser ⟨migrated, []⟩ (registration ++ inAndOut)).state.db := by
  apply credentials_run
  intro k hk
  simp only [registration, inAndOut, alone, List.mem_append, List.mem_cons, List.mem_map,
    reduceCtorEq, and_false, exists_false, or_false, Label.start.injEq] at hk
  rcases hk with rfl | rfl | rfl <;> exact not_false

end Sample

end IamAuth
