import IamAuth.Frame

/-!
# What a statement does to refresh_tokens

Four updates revoke rows that are not revoked yet, one of them names a successor
as well; a hard deletion takes every row of its user; a creation appends a row of
a new hash. No other statement touches the table.
-/

set_option autoImplicit false

namespace IamAuth

open Relational

/-- The unique index on `token_hash`. -/
def TokenHashes (db : Db) : Prop := (db.refreshTokens.map (·.tokenHash)).Nodup

instance (db : Db) : Decidable (TokenHashes db) := inferInstanceAs (Decidable (List.Nodup _))

/-- What no update of a row changes. -/
structure TokenKey where
  tokenHash : String
  userId : Uuid
  tenantId : Uuid
  projectId : Option Uuid
  deriving DecidableEq

def RefreshToken.key (t : RefreshToken) : TokenKey := ⟨t.tokenHash, t.userId, t.tenantId, t.projectId⟩

/-- The key of the row a statement creates. -/
def Sql.tokenKey : Sql → Option TokenKey
  | .createRefreshToken userId tokenHash _ tenantId projectId =>
    some ⟨tokenHash, userId, tenantId, projectId⟩
  | _ => none

/-- Only rows that are not revoked are updated, and their hash and owner stay. -/
structure Revoking (p : RefreshToken → Bool) (f : RefreshToken → RefreshToken) : Prop where
  live : ∀ t, p t = true → t.revokedAt = none
  hash : ∀ t, (f t).tokenHash = t.tokenHash
  owner : ∀ t, (f t).userId = t.userId

/-- The tables a statement may leave behind. -/
inductive TokenStep (s : Sql) (table : List RefreshToken) : List RefreshToken → Prop where
  | same (hs : s.tokenKey = none) : TokenStep s table table
  | update {p : RefreshToken → Bool} {f : RefreshToken → RefreshToken} (hs : s.tokenKey = none)
    (hf : Revoking p f) (hkey : ∀ t, (f t).key = t.key)
    (hrevoked : ∀ t, (f t).revokedAt.isSome = true)
    (hreplaced : ∀ t, p t = true → (f t).replacedBy = t.replacedBy ∨
      ∃ next, s = .rotateRefreshToken t.tokenHash next ∧ (f t).replacedBy = some next) :
    TokenStep s table (updateWhere p f table)
  | delete (hs : s.tokenKey = none) (id : Uuid) :
    TokenStep s table (deleteWhere (fun t => t.userId == id) table)
  | insert {t : RefreshToken} (hs : s.tokenKey = some t.key) (hlive : t.revokedAt = none)
    (hlast : t.replacedBy = none) (hnew : ∀ t' ∈ table, t'.tokenHash ≠ t.tokenHash) :
    TokenStep s table (table ++ [t])

section

variable {conn : DbRole} {c : Choice} {s : Sql} {db db' : Db} {r : Reply s}

theorem revoking_all (now : DateTime) (u : Uuid) :
    Revoking (fun t => t.userId == u && t.revokedAt.isNone)
      (fun t => { t with revokedAt := some now }) :=
  ⟨by simp, by simp, by simp⟩

theorem revoking_one (now : DateTime) (tokenHash : String) :
    Revoking (fun t => t.tokenHash == tokenHash && t.revokedAt.isNone)
      (fun t => { t with revokedAt := some now }) :=
  ⟨by simp, by simp, by simp⟩

theorem revoking_rotate (now : DateTime) (tokenHash replacedBy : String) :
    Revoking (fun t => t.tokenHash == tokenHash && t.revokedAt.isNone)
      (fun t => { t with revokedAt := some now, replacedBy := some replacedBy }) :=
  ⟨by simp, by simp, by simp⟩

theorem tokenStep_exec (h : s.exec conn c db = .ok (r, db')) :
    TokenStep s db.refreshTokens db'.refreshTokens := by
  by_cases hw : .refreshTokens ∈ s.writes
  · cases s <;> simp only [Sql.writes, List.mem_cons, List.not_mem_nil, reduceCtorEq, or_self,
      or_false, false_or] at hw
    case deleteUserEventSoft id hard eventType payload =>
      rw [(frame_insertOutbox (deleteUserEventSoft_ok h)).refreshTokens (by simp)]
      cases hard with
      | true => exact .delete rfl id
      | false =>
        exact .update rfl (revoking_all c.now id) (fun _ => rfl) (fun _ => rfl) fun _ _ => .inl rfl
    case revokeAllUserRefreshTokens userId =>
      cases h
      exact .update rfl (revoking_all c.now userId) (fun _ => rfl) (fun _ => rfl) fun _ _ => .inl rfl
    case revokeRefreshToken tokenHash =>
      cases h
      exact .update rfl (revoking_one c.now tokenHash) (fun _ => rfl) (fun _ => rfl)
        fun _ _ => .inl rfl
    case rotateRefreshToken tokenHash replacedBy =>
      cases h
      refine .update rfl (revoking_rotate c.now tokenHash replacedBy) (fun _ => rfl) (fun _ => rfl) ?_
      intro t ht
      have hhash : t.tokenHash = tokenHash := by
        simp only [Bool.and_eq_true, beq_iff_eq] at ht
        exact ht.1
      exact .inr ⟨replacedBy, by rw [hhash], rfl⟩
    case createRefreshToken userId tokenHash expiresAt tenantId projectId =>
      simp only [Sql.exec, Repo.createRefreshToken] at h
      split at h
      · cases h
      · next hfresh =>
        split at h <;> cases h
        exact .insert rfl rfl rfl (by simpa using hfresh)
  · rw [(Sql.exec_frame h).refreshTokens hw]
    refine .same ?_
    cases s <;> first | rfl | exact absurd (by simp [Sql.writes]) hw

theorem TokenStep.hashes {table table' : List RefreshToken} (hstep : TokenStep s table table')
    (h : (table.map (·.tokenHash)).Nodup) : (table'.map (·.tokenHash)).Nodup := by
  cases hstep with
  | same hs => exact h
  | update hs hf hkey hrevoked hreplaced =>
    rw [map_updateWhere _ fun t _ => hf.hash t]
    exact h
  | delete hs id => exact h.sublist (List.filter_sublist.map _)
  | insert hs hlive hlast hnew =>
    rw [List.map_append]
    refine List.nodup_append.mpr ⟨h, by simp, ?_⟩
    intro a ha b hb
    obtain ⟨t', ht', rfl⟩ := List.mem_map.mp ha
    obtain rfl := List.mem_singleton.mp hb
    exact hnew t' ht'

theorem tokenHashes_exec (h : s.exec conn c db = .ok (r, db')) (hdb : TokenHashes db) :
    TokenHashes db' :=
  (tokenStep_exec h).hashes hdb

end

end IamAuth
